import EditorAssist.Log.Level

/-! # Notes

A note is what one part of the program says while it works: a level, the part that says it, and the
text.  Pure code returns its notes in order, and the caller writes them. -/

namespace EditorAssist.Log

/-- Something said while working. -/
structure Note where
  level : Level
  source : String
  message : String
deriving Repr, DecidableEq

end EditorAssist.Log
