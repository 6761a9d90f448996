import Mathlib.Data.List.DropRight
import EditorAssist.Document.Word
import EditorAssist.Proofs.DeclarationEnd

/-! # Words of a line

A word of a line is a run of name characters that no name character touches.  The word at a column
is the one that begins at the column, ends there, or goes on through it, so every column of a word
has the same word.

* `IsWordAt`: a word and the columns between which it stands;
* `wordFromStart_eq_some_iff`: the word at a column is the one between whose columns it lies;
* `wordFromStart_eq_none_iff`: there is none past the end of the line, and where no name character
  touches the column. -/

namespace EditorAssist.Document

open Text Source

variable {line word lead rest : List Char} {start stop column : Nat}

/-- The word stands in the line between two columns, and cannot be longer on either side. -/
def IsWordAt (line word : List Char) (start stop : Nat) : Prop :=
  word ≠ [] ∧ (∀ c ∈ word, isNameChar c = true) ∧
    ∃ lead rest, line = lead ++ (word ++ rest) ∧ lead.length = start ∧
      start + word.length = stop ∧ (∀ c ∈ lead.getLast?, isNameChar c = false) ∧
        Stops isNameChar rest

/-- Neither the character before the column nor the one after it is a name character. -/
def Untouched (shown : List Char) (column : Nat) : Prop :=
  ∀ index c, shown[index]? = some c → index + 1 = column ∨ index = column → isNameChar c = false

theorem IsWordAt.start_lt_stop (h : IsWordAt line word start stop) : start < stop := by
  obtain ⟨hne, -, lead, rest, -, -, hstop, -⟩ := h
  have hpos := List.length_pos_iff.mpr hne
  omega

theorem IsWordAt.stop_le_length (h : IsWordAt line word start stop) : stop ≤ line.length := by
  obtain ⟨-, -, lead, rest, rfl, hstart, hstop, -⟩ := h
  simp only [List.length_append]
  omega

/-- The word ends what stands before its last column. -/
theorem IsWordAt.take_stop (h : IsWordAt line word start stop) :
    line.take stop = line.take start ++ word := by
  obtain ⟨-, -, lead, rest, rfl, rfl, rfl, -⟩ := h
  rw [List.take_left, ← List.append_assoc, ← List.length_append, List.take_left]

/-! ### The runs at a column -/

/-- What stands before a column is a lead and the run that ends at the column. -/
theorem exists_lead_runBefore (line : List Char) (column : Nat) :
    ∃ lead, line.take column = lead ++ runBefore line column ∧
      (∀ c ∈ runBefore line column, isNameChar c = true) ∧
        ∀ c ∈ lead.getLast?, isNameChar c = false := by
  refine ⟨(line.take column).rdropWhile isNameChar, ?_, ?_, ?_⟩
  · exact (List.rdropWhile_append_rtakeWhile).symm
  · intro c hc
    exact List.mem_rtakeWhile_imp hc
  · intro c hc
    rw [List.rdropWhile, List.getLast?_reverse] at hc
    exact stops_dropWhile isNameChar _ c hc

theorem length_runBefore_le (line : List Char) (column : Nat) :
    (runBefore line column).length ≤ column := by
  obtain ⟨lead, htake, -⟩ := exists_lead_runBefore line column
  have hlength := congrArg List.length htake
  rw [List.length_take, List.length_append] at hlength
  omega

/-- What stands after a column is the run that begins at the column, and a rest. -/
theorem exists_runAfter_rest (line : List Char) (column : Nat) :
    ∃ rest, line.drop column = runAfter line column ++ rest ∧
      (∀ c ∈ runAfter line column, isNameChar c = true) ∧ Stops isNameChar rest :=
  ⟨(line.drop column).dropWhile isNameChar, span_iff.mp ⟨rfl, rfl⟩⟩

/-- The runs on both sides of a column that divides a word are the two parts of the word. -/
theorem runs_of_append {before after : List Char} (hbefore : ∀ c ∈ before, isNameChar c = true)
    (hafter : ∀ c ∈ after, isNameChar c = true) (hlead : ∀ c ∈ lead.getLast?, isNameChar c = false)
    (hrest : Stops isNameChar rest) :
    runBefore (lead ++ before ++ (after ++ rest)) (lead ++ before).length = before ∧
      runAfter (lead ++ before ++ (after ++ rest)) (lead ++ before).length = after := by
  constructor
  · rw [runBefore, List.take_left]
    exact rtakeWhile_append hbefore hlead
  · rw [runAfter, List.drop_left]
    exact (span_iff.mpr ⟨rfl, hafter, hrest⟩).1

theorem runBefore_eq_nil_iff :
    runBefore line column = [] ↔ ∀ c ∈ (line.take column).getLast?, isNameChar c = false := by
  obtain ⟨lead, htake, -, hlead⟩ := exists_lead_runBefore line column
  constructor
  · intro hnil
    rw [htake, hnil, List.append_nil]
    exact hlead
  · intro hlast
    have hspan : (line.take column ++ []).rtakeWhile isNameChar = [] :=
      rtakeWhile_append (by simp) hlast
    rw [List.append_nil] at hspan
    exact hspan

theorem runAfter_eq_nil_iff :
    runAfter line column = [] ↔ Stops isNameChar (line.drop column) := by
  constructor
  · intro hnil
    obtain ⟨rest, hdrop, -, hrest⟩ := exists_runAfter_rest line column
    rw [hdrop, hnil]
    exact hrest
  · intro hstops
    exact takeWhile_of_stops hstops

/-- No run touches the column exactly when no name character does. -/
theorem runs_eq_nil_iff (h : column ≤ line.length) :
    runBefore line column = [] ∧ runAfter line column = [] ↔ Untouched line column := by
  rw [runBefore_eq_nil_iff, runAfter_eq_nil_iff, Stops, List.head?_drop]
  constructor
  · rintro ⟨hbefore, hafter⟩ index c hc (rfl | rfl)
    · refine hbefore c ?_
      simp [List.getLast?_take, hc]
    · exact hafter c hc
  · intro huntouched
    refine ⟨?_, fun c hc => huntouched column c hc (.inr rfl)⟩
    intro c hc
    rw [List.getLast?_take] at hc
    split at hc
    · cases hc
    · next hcolumn =>
        rw [List.getElem?_eq_getElem (by omega), Option.some_or] at hc
        refine huntouched (column - 1) c ?_ (.inl (by omega))
        rw [List.getElem?_eq_getElem (by omega)]
        exact hc

/-! ### The word at a column -/

theorem wordFromStart_of_le (h : column ≤ line.length) :
    wordFromStart line column =
      if runBefore line column = [] ∧ runAfter line column = [] then none
      else some ⟨String.ofList (runBefore line column ++ runAfter line column),
        column - (runBefore line column).length, column + (runAfter line column).length⟩ := by
  rw [wordFromStart, if_neg (by omega)]

/-- The runs at a column make up a word, if they are not both empty. -/
theorem isWordAt_runs (h : column ≤ line.length)
    (hruns : ¬ (runBefore line column = [] ∧ runAfter line column = [])) :
    IsWordAt line (runBefore line column ++ runAfter line column)
      (column - (runBefore line column).length) (column + (runAfter line column).length) := by
  obtain ⟨lead, htake, hbefore, hlead⟩ := exists_lead_runBefore line column
  obtain ⟨rest, hdrop, hafter, hrest⟩ := exists_runAfter_rest line column
  have hlength := congrArg List.length htake
  rw [List.length_take, List.length_append] at hlength
  refine ⟨?_, ?_, lead, rest, ?_, by omega, ?_, hlead, hrest⟩
  · simpa using hruns
  · intro c hc
    rcases List.mem_append.mp hc with hc | hc
    · exact hbefore c hc
    · exact hafter c hc
  · rw [List.append_assoc, ← hdrop, ← List.append_assoc, ← htake, List.take_append_drop]
  · rw [List.length_append]
    omega

/-- The word at a column is the word that the column lies in or touches. -/
theorem wordFromStart_eq_some_iff {w : Word} :
    wordFromStart line column = some w ↔
      ∃ word start stop, IsWordAt line word start stop ∧ start ≤ column ∧ column ≤ stop ∧
        w = ⟨String.ofList word, start, stop⟩ := by
  constructor
  · intro h
    have hlength : column ≤ line.length := by
      by_contra hlong
      rw [wordFromStart, if_pos (by omega)] at h
      cases h
    rw [wordFromStart_of_le hlength] at h
    split at h
    · cases h
    · next hruns =>
        obtain rfl := Option.some.inj h
        have hword := isWordAt_runs hlength hruns
        refine ⟨_, _, _, hword, by omega, by omega, ?_⟩
        rw [Int.ofNat_sub (length_runBefore_le line column), Int.natCast_add]
  · rintro ⟨word, start, stop, hword, hlow, hhigh, rfl⟩
    have hlength := hword.stop_le_length
    rw [wordFromStart_of_le (by omega)]
    obtain ⟨hne, hrun, lead, rest, rfl, rfl, rfl, hlead, hrest⟩ := hword
    -- the column divides the word
    obtain ⟨before, after, rfl, hcolumn⟩ : ∃ before after, word = before ++ after ∧
        column = (lead ++ before).length :=
      ⟨word.take (column - lead.length), word.drop (column - lead.length),
        (List.take_append_drop _ _).symm, by rw [List.length_append, List.length_take]; omega⟩
    have hline : lead ++ (before ++ after ++ rest) = lead ++ before ++ (after ++ rest) := by
      simp only [List.append_assoc]
    rw [List.forall_mem_append] at hrun
    obtain ⟨hbefore, hafter⟩ := runs_of_append hrun.1 hrun.2 hlead hrest
    rw [hline, hcolumn, hbefore, hafter, if_neg (by simpa using hne)]
    simp only [List.length_append, Int.natCast_add, Option.some.injEq, Word.mk.injEq, true_and]
    omega

/-- There is no word past the end of the line, nor where no name character touches the column. -/
theorem wordFromStart_eq_none_iff :
    wordFromStart line column = none ↔ line.length < column ∨ Untouched line column := by
  by_cases h : column ≤ line.length
  · rw [wordFromStart_of_le h, ← runs_eq_nil_iff h]
    simp [Nat.not_lt.mpr h]
  · rw [wordFromStart, if_pos (by omega)]
    simp [Nat.lt_of_not_le h]

end EditorAssist.Document
