import Mathlib.Data.List.Induction
import EditorAssist.Source.Literal

/-! # Reading a text from left to right

One pass over a text tells whether its end lies in code, in a literal or in a comment (`Mode.step`,
`Mode.read`).  The two detectors of `Source.Literal` each see half of this: `openQuote` knows nothing
of comments, and `opensComment` does not care how the text ends.  Together they say exactly that the
reading ends outside code, and each of them has a description of its own in terms of the closed
pieces before the place it looks for:

* `OpensLiteral`: closed pieces, then a quote with no later quote of its kind;
* `OpensComment`: closed pieces in which no slash stands before a slash, then two slashes;
* `inLiteralOrComment_iff_reading`: the detectors, the one-pass reading and the two descriptions
  agree on every text. -/

namespace EditorAssist.Source

open Text

/-- What ignores every character but the quote ignores a text without the quote. -/
theorem ignores_of_notMem {β : Type} {f : List Char → β} {quote : Char}
    (hskip : ∀ c text, c ≠ quote → f (c :: text) = f text) {body : List Char} (h : quote ∉ body)
    (rest : List Char) : f (body ++ rest) = f rest := by
  induction body with
  | nil => rfl
  | cons c body ih =>
      have hc : c ≠ quote := fun e => h (by simp [e])
      rw [List.cons_append, hskip c _ hc]
      exact ih (fun hm => h (List.mem_cons_of_mem _ hm))

/-! ### The one-pass reading -/

/-- Where a reading of a text stands. -/
inductive Mode where
  | code
  /-- In code, right after a slash. -/
  | slash
  | literal (quote : Char)
  | comment
deriving Repr, DecidableEq

namespace Mode

/-- The mode after a character of code, when no slash stands before it. -/
def ofCode (c : Char) : Mode :=
  if isQuote c then .literal c else if c = '/' then .slash else .code

/-- The mode after one more character. -/
def step : Mode → Char → Mode
  | .code, c => ofCode c
  | .slash, c => if c = '/' then .comment else ofCode c
  | .literal quote, c => if c = quote then .code else .literal quote
  | .comment, _ => .comment

/-- The mode after the text. -/
def read (m : Mode) (text : List Char) : Mode := text.foldl step m

/-- The mode is a literal or a comment. -/
def outsideCode : Mode → Bool
  | .code | .slash => false
  | .literal _ | .comment => true

@[simp] theorem read_nil (m : Mode) : m.read [] = m := rfl

@[simp] theorem read_cons (m : Mode) (c : Char) (text : List Char) :
    m.read (c :: text) = (m.step c).read text := rfl

theorem read_append (m : Mode) (a b : List Char) : m.read (a ++ b) = (m.read a).read b :=
  List.foldl_append

/-- A literal stays open as long as its quote does not come again. -/
theorem read_literal {quote : Char} {body : List Char} (h : quote ∉ body) :
    (literal quote).read body = .literal quote := by
  have hskip : ∀ c text, c ≠ quote →
      (literal quote).read (c :: text) = (literal quote).read text := by
    intro c text hc
    rw [read_cons, step, if_neg hc]
  have hread := ignores_of_notMem hskip h []
  rw [List.append_nil] at hread
  exact hread

theorem ofCode_of_isQuote {c : Char} (h : isQuote c = true) : ofCode c = .literal c := if_pos h

/-- A quote opens a literal wherever the reading is in code. -/
theorem step_of_isQuote {m : Mode} {quote : Char} (hm : m.outsideCode = false)
    (hq : isQuote quote = true) : m.step quote = .literal quote := by
  cases m with
  | code => exact ofCode_of_isQuote hq
  | slash =>
      have hs : quote ≠ '/' := by
        rintro rfl
        exact absurd hq (by decide)
      rw [step, if_neg hs]
      exact ofCode_of_isQuote hq
  | literal q => cases hm
  | comment => cases hm

/-- A quote in code opens a literal, which the reading is still in as long as it is not closed. -/
theorem read_opened {m : Mode} {lead body : List Char} {quote : Char}
    (hcode : (m.read lead).outsideCode = false) (hq : isQuote quote = true) (hb : quote ∉ body) :
    m.read (lead ++ quote :: body) = .literal quote := by
  rw [read_append, read_cons, step_of_isQuote hcode hq, read_literal hb]

/-- What the two detectors say of the text that follows the mode. -/
def detects : Mode → List Char → Bool
  | .code, text => (openQuote none text).isSome || opensComment none text
  | .slash, text =>
    decide (text.head? = some '/') || ((openQuote none text).isSome || opensComment none text)
  | .literal quote, text => (openQuote (some quote) text).isSome || opensComment (some quote) text
  | .comment, _ => true

/-- A character of code moves the detectors as it moves the reading. -/
theorem detects_ofCode (c : Char) (text : List Char) :
    (ofCode c).detects text = code.detects (c :: text) := by
  unfold ofCode
  by_cases hq : isQuote c = true
  · simp [detects, openQuote, opensComment, hq]
  · by_cases hs : c = '/'
    · subst hs
      by_cases hh : text.head? = some '/'
      · simp [detects, openQuote, opensComment, hq, hh]
      · simp [detects, openQuote, opensComment, hq, hh]
    · simp [detects, openQuote, opensComment, hq, hs]

theorem detects_step (m : Mode) (c : Char) (text : List Char) :
    (m.step c).detects text = m.detects (c :: text) := by
  cases m with
  | code => exact detects_ofCode c text
  | slash =>
      rw [step]
      by_cases hs : c = '/'
      · simp [detects, hs]
      · rw [if_neg hs, detects_ofCode]
        simp [detects, hs]
  | literal quote =>
      rw [step]
      by_cases hq : c = quote
      · simp [detects, openQuote, opensComment, hq]
      · simp [detects, openQuote, opensComment, hq]
  | comment => rfl

/-- The detectors tell, from every mode, whether the reading ends outside code. -/
theorem outsideCode_read (m : Mode) (text : List Char) :
    (m.read text).outsideCode = m.detects text := by
  induction text generalizing m with
  | nil => cases m <;> rfl
  | cons c text ih => rw [read_cons, ih, detects_step]

end Mode

/-- The text ends in a literal whose opening quote follows `lead`. -/
def LiteralAfter (lead text : List Char) : Prop :=
  ∃ quote body, text = lead ++ quote :: body ∧ (Mode.code.read lead).outsideCode = false ∧
    isQuote quote = true ∧ quote ∉ body

theorem ofCode_eq_literal {c quote : Char} (h : Mode.ofCode c = .literal quote) :
    isQuote quote = true ∧ c = quote := by
  unfold Mode.ofCode at h
  by_cases hq : isQuote c = true
  · rw [if_pos hq] at h
    cases h
    exact ⟨hq, rfl⟩
  · rw [if_neg hq] at h
    by_cases hs : c = '/'
    · rw [if_pos hs] at h
      cases h
    · rw [if_neg hs] at h
      cases h

/-- The reading ends in a literal exactly where some quote in code opens one that is not closed. -/
theorem read_eq_literal_iff (text : List Char) :
    (∃ quote, Mode.code.read text = .literal quote) ↔ ∃ lead, LiteralAfter lead text := by
  constructor
  · rintro ⟨quote, h⟩
    suffices key : ∃ lead body, text = lead ++ quote :: body ∧
        (Mode.code.read lead).outsideCode = false ∧ isQuote quote = true ∧ quote ∉ body by
      obtain ⟨lead, body, hl⟩ := key
      exact ⟨lead, quote, body, hl⟩
    induction text using List.reverseRecOn with
    | nil => cases h
    | append_singleton text c ih =>
        rw [Mode.read_append, Mode.read_cons, Mode.read_nil] at h
        cases hm : Mode.code.read text with
        | code =>
            rw [hm] at h
            obtain ⟨hq, rfl⟩ := ofCode_eq_literal h
            exact ⟨text, [], rfl, by rw [hm]; rfl, hq, by simp⟩
        | slash =>
            rw [hm, Mode.step] at h
            by_cases hs : c = '/'
            · rw [if_pos hs] at h
              cases h
            · rw [if_neg hs] at h
              obtain ⟨hq, rfl⟩ := ofCode_eq_literal h
              exact ⟨text, [], rfl, by rw [hm]; rfl, hq, by simp⟩
        | literal q =>
            rw [hm, Mode.step] at h
            by_cases hc : c = q
            · rw [if_pos hc] at h
              cases h
            · rw [if_neg hc] at h
              cases h
              obtain ⟨lead, body, rfl, hcode, hq, hb⟩ := ih hm
              refine ⟨lead, body ++ [c], by simp, hcode, hq, ?_⟩
              simp [hb, Ne.symm hc]
        | comment =>
            rw [hm] at h
            cases h
  · rintro ⟨lead, quote, body, rfl, hcode, hq, hb⟩
    exact ⟨quote, Mode.read_opened hcode hq hb⟩

/-! ### Closed pieces -/

/-- A character that is no quote, or a literal with both its quotes. -/
inductive Piece where
  | plain (c : Char) (free : isQuote c = false)
  | literal (quote : Char) (body : List Char) (opens : isQuote quote = true) (free : quote ∉ body)

namespace Piece

/-- The characters of a piece. -/
def spelled : Piece → List Char
  | .plain c _ => [c]
  | .literal quote body _ _ => quote :: (body ++ [quote])

/-- The characters of the pieces, one after the other. -/
def spell (pieces : List Piece) : List Char := pieces.flatMap spelled

theorem spell_plain (c : Char) (free : isQuote c = false) (pieces : List Piece)
    (rest : List Char) : spell (.plain c free :: pieces) ++ rest = c :: (spell pieces ++ rest) := rfl

theorem spell_literal (quote : Char) (body : List Char) (opens : isQuote quote = true)
    (free : quote ∉ body) (pieces : List Piece) (rest : List Char) :
    spell (.literal quote body opens free :: pieces) ++ rest =
      quote :: (body ++ quote :: (spell pieces ++ rest)) := by
  simp [spell, spelled]

/-- No plain slash among the pieces stands right before a slash, neither one of a later piece nor one
of the rest. -/
def SlashesApart : List Piece → List Char → Prop
  | [], _ => True
  | .plain c _ :: pieces, rest =>
    ¬ (c = '/' ∧ (spell pieces ++ rest).head? = some '/') ∧ SlashesApart pieces rest
  | .literal .. :: pieces, rest => SlashesApart pieces rest

end Piece

open Piece

/-- Every text is read piece by piece: it ends, or goes on with a character that is no quote, with a
literal that is closed, or with one that is not. -/
theorem pieceInduction {motive : List Char → Prop} (nil : motive [])
    (plain : ∀ c text, isQuote c = false → motive text → motive (c :: text))
    (closed : ∀ quote body text, isQuote quote = true → quote ∉ body → motive text →
      motive (quote :: (body ++ quote :: text)))
    (unclosed : ∀ quote body, isQuote quote = true → quote ∉ body → motive (quote :: body))
    (text : List Char) : motive text := by
  induction hn : text.length using Nat.strongRecOn generalizing text with
  | ind n ih =>
      subst hn
      cases text with
      | nil => exact nil
      | cons c text =>
          by_cases hc : isQuote c = true
          · by_cases hm : c ∈ text
            · obtain ⟨body, rest, rfl, hb⟩ := List.eq_append_cons_of_mem hm
              exact closed c body rest hc hb (ih rest.length (by simp; omega) rest rfl)
            · exact unclosed c text hc hm
          · exact plain c text (by simpa using hc) (ih text.length (by simp) text rfl)

/-! ### Open literals -/

/-- Closed pieces, then an opening quote with no later quote of its kind. -/
def OpensLiteral (text : List Char) : Prop :=
  ∃ pieces quote body, isQuote quote = true ∧ quote ∉ body ∧ text = spell pieces ++ quote :: body

theorem openQuote_body {quote : Char} {body : List Char} (h : quote ∉ body) (rest : List Char) :
    openQuote (some quote) (body ++ rest) = openQuote (some quote) rest := by
  refine ignores_of_notMem ?_ h rest
  intro c text hc
  rw [openQuote, if_neg hc]

theorem openQuote_unclosed {quote : Char} {body : List Char} (h : quote ∉ body) :
    openQuote (some quote) body = some quote := by
  have hopen := openQuote_body h []
  rw [List.append_nil] at hopen
  exact hopen

theorem openQuote_closed {quote : Char} {body : List Char} (h : quote ∉ body)
    (rest : List Char) : openQuote (some quote) (body ++ quote :: rest) = openQuote none rest := by
  rw [openQuote_body h, openQuote, if_pos rfl]

theorem openQuote_plain {c : Char} (h : isQuote c = false) (text : List Char) :
    openQuote none (c :: text) = openQuote none text := by
  simp [openQuote, h]

theorem openQuote_quote {c : Char} (h : isQuote c = true) (text : List Char) :
    openQuote none (c :: text) = openQuote (some c) text := by
  simp [openQuote, h]

theorem openQuote_spell (pieces : List Piece) (rest : List Char) :
    openQuote none (spell pieces ++ rest) = openQuote none rest := by
  induction pieces with
  | nil => rfl
  | cons p pieces ih =>
      cases p with
      | plain c free => rw [spell_plain, openQuote_plain free, ih]
      | literal quote body opens free =>
          rw [spell_literal, openQuote_quote opens, openQuote_closed free, ih]

theorem openQuote_isSome_iff (text : List Char) :
    (openQuote none text).isSome = true ↔ OpensLiteral text := by
  constructor
  · intro h
    induction text using pieceInduction with
    | nil => cases h
    | plain c text hc ih =>
        rw [openQuote_plain hc] at h
        obtain ⟨pieces, quote, body, hq, hb, rfl⟩ := ih h
        exact ⟨.plain c hc :: pieces, quote, body, hq, hb, rfl⟩
    | closed q inner text hq' hi ih =>
        rw [openQuote_quote hq', openQuote_closed hi] at h
        obtain ⟨pieces, quote, body, hq, hb, rfl⟩ := ih h
        exact ⟨.literal q inner hq' hi :: pieces, quote, body, hq, hb, by rw [spell_literal]⟩
    | unclosed quote body hq hb => exact ⟨[], quote, body, hq, hb, rfl⟩
  · rintro ⟨pieces, quote, body, hq, hb, rfl⟩
    rw [openQuote_spell, openQuote_quote hq, openQuote_unclosed hb]
    rfl

/-! ### Comments -/

/-- Closed pieces in which no slash stands before a slash, then two slashes. -/
def OpensComment (text : List Char) : Prop :=
  ∃ pieces rest, SlashesApart pieces ('/' :: '/' :: rest) ∧
    text = spell pieces ++ '/' :: '/' :: rest

theorem opensComment_body {quote : Char} {body : List Char} (h : quote ∉ body)
    (rest : List Char) :
    opensComment (some quote) (body ++ rest) = opensComment (some quote) rest := by
  refine ignores_of_notMem ?_ h rest
  intro c text hc
  rw [opensComment, if_neg hc]

theorem opensComment_unclosed {quote : Char} {body : List Char} (h : quote ∉ body) :
    opensComment (some quote) body = false := by
  have hnone := opensComment_body h []
  rw [List.append_nil] at hnone
  exact hnone

theorem opensComment_closed {quote : Char} {body : List Char} (h : quote ∉ body)
    (rest : List Char) :
    opensComment (some quote) (body ++ quote :: rest) = opensComment none rest := by
  rw [opensComment_body h, opensComment, if_pos rfl]

theorem opensComment_quote {c : Char} (h : isQuote c = true) (text : List Char) :
    opensComment none (c :: text) = opensComment (some c) text := by
  simp [opensComment, h]

theorem opensComment_slashes (rest : List Char) :
    opensComment none ('/' :: '/' :: rest) = true := by
  simp [opensComment, isQuote]

theorem opensComment_plain {c : Char} {text : List Char} (h : isQuote c = false)
    (hs : ¬ (c = '/' ∧ text.head? = some '/')) :
    opensComment none (c :: text) = opensComment none text := by
  simp [opensComment, h, hs]

theorem opensComment_spell (pieces : List Piece) (rest : List Char)
    (h : SlashesApart pieces rest) :
    opensComment none (spell pieces ++ rest) = opensComment none rest := by
  induction pieces with
  | nil => rfl
  | cons p pieces ih =>
      cases p with
      | plain c free => rw [spell_plain, opensComment_plain free h.1, ih h.2]
      | literal quote body opens free =>
          rw [spell_literal, opensComment_quote opens, opensComment_closed free, ih h]

theorem opensComment_iff (text : List Char) :
    opensComment none text = true ↔ OpensComment text := by
  constructor
  · intro h
    induction text using pieceInduction with
    | nil => cases h
    | plain c text hc ih =>
        by_cases hs : c = '/' ∧ text.head? = some '/'
        · obtain ⟨rfl, hh⟩ := hs
          obtain ⟨rest, rfl⟩ := List.head?_eq_some_iff.mp hh
          exact ⟨[], rest, trivial, rfl⟩
        · rw [opensComment_plain hc hs] at h
          obtain ⟨pieces, rest, ha, rfl⟩ := ih h
          exact ⟨.plain c hc :: pieces, rest, ⟨hs, ha⟩, rfl⟩
    | closed quote body text hq hb ih =>
        rw [opensComment_quote hq, opensComment_closed hb] at h
        obtain ⟨pieces, rest, ha, rfl⟩ := ih h
        exact ⟨.literal quote body hq hb :: pieces, rest, ha, by rw [spell_literal]⟩
    | unclosed quote body hq hb =>
        rw [opensComment_quote hq, opensComment_unclosed hb] at h
        cases h
  · rintro ⟨pieces, rest, ha, rfl⟩
    rw [opensComment_spell pieces _ ha, opensComment_slashes]

/-! ### Agreement -/

/-- **The detectors and the reading agree.**  On every text the two detectors together say that the
one-pass reading ends in a literal or in a comment, which is also to say that the text opens a
literal or a comment after closed pieces. -/
theorem inLiteralOrComment_iff_reading (text : List Char) :
    (inLiteralOrComment text = true ↔ (Mode.code.read text).outsideCode = true) ∧
      (inLiteralOrComment text = true ↔ OpensLiteral text ∨ OpensComment text) := by
  constructor
  · rw [Mode.outsideCode_read]
    rfl
  · unfold inLiteralOrComment
    rw [Bool.or_eq_true, openQuote_isSome_iff, opensComment_iff]

end EditorAssist.Source
