import EditorAssist.Text.Character
import EditorAssist.Text.Numeral
import EditorAssist.Text.Quoted
import EditorAssist.Text.Utf8
import EditorAssist.Source.Declarations
import EditorAssist.Cursor.Spot
import EditorAssist.Handbook.Mrya
import EditorAssist.Folder.Tree
import EditorAssist.Assistant
import EditorAssist.Document.Word
import EditorAssist.Location.Basic
import EditorAssist.Settings
import EditorAssist.Session.Basic
import EditorAssist.Log.Logger
import EditorAssist.Launch
import EditorAssist.Main
import EditorAssist.Proofs.Reading
import EditorAssist.Proofs.Occurrence
import EditorAssist.Proofs.Suppression
import EditorAssist.Proofs.Requests
import EditorAssist.Proofs.DeclarationEnd
import EditorAssist.Proofs.Typing
import EditorAssist.Proofs.Separated
import EditorAssist.Proofs.Documented
import EditorAssist.Proofs.Words
import EditorAssist.Proofs.Answered
import EditorAssist.Proofs.Explained
import EditorAssist.Proofs.Root
import EditorAssist.Proofs.Backward
import EditorAssist.Proofs.FileLocation
import EditorAssist.Proofs.SharedLines
import EditorAssist.Proofs.PackageNames
import EditorAssist.Proofs.Shape
import EditorAssist.Proofs.Enumeration
import EditorAssist.Proofs.Chronology
