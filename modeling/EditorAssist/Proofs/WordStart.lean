import EditorAssist.Source.Word

/-! # Runs of characters and word starts

The readers of a source text take runs of characters of one class, as long as they can be, and try a
keyword at every word start.  Here each reader is described by how it divides the text:

* `span_iff`: a run is all of its class, and the character after it is not;
* `keyword?_eq_some_iff`, `name?_eq_some_iff`: what a keyword and a name leave over;
* `firstAtWordStart_isSome_iff`: a search succeeds exactly when its reader does at a word start. -/

namespace EditorAssist.Source

open Text

variable {α : Type}

/-! ### Runs -/

/-- The text does not go on with a character of the class. -/
def Stops (p : Char → Bool) (text : List Char) : Prop := ∀ c ∈ text.head?, p c = false

theorem stops_cons {p : Char → Bool} {c : Char} {text : List Char} :
    Stops p (c :: text) ↔ p c = false := by
  simp [Stops]

theorem stops_dropWhile (p : Char → Bool) (text : List Char) : Stops p (text.dropWhile p) := by
  intro c hc
  have h := List.head?_dropWhile_not p text
  rw [hc] at h
  exact h

theorem takeWhile_of_stops {p : Char → Bool} {rest : List Char} (h : Stops p rest) :
    rest.takeWhile p = [] := by
  cases rest with
  | nil => rfl
  | cons c rest => simp [stops_cons.mp h]

theorem dropWhile_of_stops {p : Char → Bool} {rest : List Char} (h : Stops p rest) :
    rest.dropWhile p = rest := by
  cases rest with
  | nil => rfl
  | cons c rest => simp [stops_cons.mp h]

/-- A text divides in one way into a run of the class and a rest that does not go on with it. -/
theorem span_iff {p : Char → Bool} {text run rest : List Char} :
    text.takeWhile p = run ∧ text.dropWhile p = rest ↔
      text = run ++ rest ∧ (∀ c ∈ run, p c = true) ∧ Stops p rest := by
  constructor
  · rintro ⟨rfl, rfl⟩
    refine ⟨(List.takeWhile_append_dropWhile).symm, ?_, stops_dropWhile p text⟩
    intro c hc
    exact List.all_eq_true.mp List.all_takeWhile c hc
  · rintro ⟨rfl, hrun, hrest⟩
    rw [List.takeWhile_append_of_pos hrun, List.dropWhile_append_of_pos hrun,
      takeWhile_of_stops hrest, dropWhile_of_stops hrest, List.append_nil]
    exact ⟨rfl, rfl⟩

/-! ### Keywords and names -/

/-- At least one blank, and nothing else. -/
def IsBlanks (blanks : List Char) : Prop := blanks ≠ [] ∧ ∀ c ∈ blanks, isBlank c = true

/-- The spelling of a name: name characters, the first of which may open a name. -/
def IsName (name : List Char) : Prop :=
  (∀ c ∈ name, isNameChar c = true) ∧ ∃ c ∈ name.head?, isNameStart c = true

theorem keyword?_eq_some_iff {word text blanks rest : List Char} :
    keyword? word text = some (blanks, rest) ↔
      text = word ++ (blanks ++ rest) ∧ IsBlanks blanks ∧ Stops isBlank rest := by
  unfold keyword?
  constructor
  · intro h
    cases ha : after? word text with
    | none =>
        rw [ha] at h
        cases h
    | some after =>
        rw [ha] at h
        dsimp only at h
        have hne : after.takeWhile isBlank ≠ [] := by
          intro e
          rw [e] at h
          cases h
        split at h
        · next e => exact absurd e hne
        · obtain ⟨h1, h2⟩ := Prod.mk.inj (Option.some.inj h)
          obtain ⟨e, hrun, hstop⟩ := span_iff.mp ⟨h1, h2⟩
          rw [h1] at hne
          exact ⟨by rw [after?_eq_some_iff.mp ha, ← e], ⟨hne, hrun⟩, hstop⟩
  · rintro ⟨e, ⟨hne, hrun⟩, hstop⟩
    obtain ⟨h1, h2⟩ := span_iff.mpr ⟨rfl, hrun, hstop⟩
    rw [after?_eq_some_iff.mpr e]
    dsimp only
    rw [h1, h2]
    cases blanks with
    | nil => exact absurd rfl hne
    | cons c blanks => rfl

theorem name?_eq_some_iff {text name : List Char} :
    name? text = some name ↔
      ∃ rest, text = name ++ rest ∧ IsName name ∧ Stops isNameChar rest := by
  cases text with
  | nil =>
      constructor
      · intro h
        cases h
      · rintro ⟨rest, e, ⟨-, c, hc, -⟩, -⟩
        rw [(List.append_eq_nil_iff.mp e.symm).1] at hc
        cases hc
  | cons c text =>
      rw [name?]
      constructor
      · intro h
        by_cases hc : isNameStart c = true
        · rw [if_pos hc] at h
          obtain rfl := Option.some.inj h
          obtain ⟨e, hrun, hstop⟩ := span_iff.mp ⟨rfl, rfl⟩
          refine ⟨text.dropWhile isNameChar, by rw [List.cons_append, ← e], ⟨?_, c, rfl, hc⟩, hstop⟩
          intro d hd
          rcases List.mem_cons.mp hd with rfl | hd
          · exact isNameChar_of_isNameStart hc
          · exact hrun d hd
        · rw [if_neg hc] at h
          cases h
      · rintro ⟨rest, e, ⟨hrun, d, hd, hstart⟩, hstop⟩
        cases name with
        | nil => cases hd
        | cons d' name =>
            obtain rfl : d' = d := Option.some.inj hd
            rw [List.cons_append] at e
            obtain ⟨rfl, rfl⟩ := List.cons.inj e
            rw [if_pos hstart]
            have hname : ∀ x ∈ name, isNameChar x = true :=
              fun x hx => hrun x (List.mem_cons_of_mem _ hx)
            rw [(span_iff.mpr ⟨rfl, hname, hstop⟩).1]

/-! ### Word starts -/

/-- The character that stands right after `before` and `lead`, read from the left, is preceded by
this one. -/
def lastOr (before : Option Char) (lead : List Char) : Option Char := lead.getLast?.or before

@[simp] theorem lastOr_nil (before : Option Char) : lastOr before [] = before := rfl

@[simp] theorem lastOr_none (lead : List Char) : lastOr none lead = lead.getLast? := by
  simp [lastOr]

theorem lastOr_cons (before : Option Char) (c : Char) (lead : List Char) :
    lastOr before (c :: lead) = lastOr (some c) lead := by
  cases lead with
  | nil => rfl
  | cons d lead => simp [lastOr, List.getLast?_cons]

/-- What a search finds, its reader finds at a word start. -/
theorem exists_of_firstAtWordStart_eq_some {read : List Char → Option α} {found : α} :
    ∀ {before : Option Char} {text : List Char}, firstAtWordStart read before text = some found →
      ∃ lead rest, text = lead ++ rest ∧ rest ≠ [] ∧ startsWord (lastOr before lead) = true ∧
        read rest = some found
  | before, [], h => by cases h
  | before, c :: text, h => by
      unfold firstAtWordStart at h
      cases hr : (if startsWord before then read (c :: text) else none) with
      | some other =>
          rw [hr] at h
          obtain rfl := Option.some.inj h
          by_cases hs : startsWord before = true
          · rw [if_pos hs] at hr
            exact ⟨[], c :: text, rfl, by simp, hs, hr⟩
          · rw [if_neg hs] at hr
            cases hr
      | none =>
          rw [hr] at h
          obtain ⟨lead, rest, rfl, hne, hs, hread⟩ := exists_of_firstAtWordStart_eq_some h
          exact ⟨c :: lead, rest, rfl, hne, by rw [lastOr_cons]; exact hs, hread⟩

/-- A search finds something exactly when the reader does at some word start. -/
theorem firstAtWordStart_isSome_iff (read : List Char → Option α) :
    ∀ (before : Option Char) (text : List Char),
      (firstAtWordStart read before text).isSome = true ↔
        ∃ lead rest, text = lead ++ rest ∧ rest ≠ [] ∧
          startsWord (lastOr before lead) = true ∧ (read rest).isSome = true := by
  intro before text
  constructor
  · intro h
    obtain ⟨found, hfound⟩ := Option.isSome_iff_exists.mp h
    obtain ⟨lead, rest, e, hne, hs, hread⟩ := exists_of_firstAtWordStart_eq_some hfound
    exact ⟨lead, rest, e, hne, hs, Option.isSome_of_eq_some hread⟩
  · rintro ⟨lead, rest, rfl, hne, hs, hread⟩
    -- whatever is found before `rest` is found first
    induction lead generalizing before with
    | nil =>
        obtain ⟨c, rest, rfl⟩ := List.exists_cons_of_ne_nil hne
        obtain ⟨found, hfound⟩ := Option.isSome_iff_exists.mp hread
        rw [lastOr_nil] at hs
        rw [List.nil_append, firstAtWordStart, if_pos hs, hfound]
        rfl
    | cons c lead ih =>
        rw [lastOr_cons] at hs
        rw [List.cons_append, firstAtWordStart]
        cases (if startsWord before then read (c :: (lead ++ rest)) else none) with
        | some found => rfl
        | none => exact ih (some c) hs

/-- The same for a check of the text in place of a reader. -/
theorem firstAtWordStart_check_isSome_iff (holds : List Char → Bool) (text : List Char) :
    (firstAtWordStart (fun rest => if holds rest then some () else none) none text).isSome = true ↔
      ∃ lead rest, text = lead ++ rest ∧ rest ≠ [] ∧ startsWord lead.getLast? = true ∧
        holds rest = true := by
  have hcheck : ∀ rest, (if holds rest then some () else none).isSome = holds rest := by
    intro rest
    cases holds rest <;> rfl
  simp only [firstAtWordStart_isSome_iff, hcheck, lastOr_none]

end EditorAssist.Source
