import EditorAssist.Cursor.Spot
import EditorAssist.Proofs.WordStart

/-! # The path of an import

The cursor stands in the path of an import exactly when the last quote of the text, of either kind,
follows `import` at a word start and an opening bracket, with only blanks between them
(`inImportPath_iff`).  What the quotes before the last one open or close does not matter. -/

namespace EditorAssist.Cursor

open Text Source

/-- The word that opens an import. -/
def importWord : List Char := ['i', 'm', 'p', 'o', 'r', 't']

/-- The text ends where the quoted path of an import is expected. -/
def OpensImport (text : List Char) : Prop :=
  ∃ front blanks inner, text = front ++ (importWord ++ (blanks ++ '(' :: inner)) ∧
    startsWord front.getLast? = true ∧ (∀ c ∈ blanks, isBlank c = true) ∧
    ∀ c ∈ inner, isBlank c = true

/-- The last quote of the text stands where the path of an import is expected. -/
def QuotesImport (text : List Char) : Prop :=
  ∃ lead quote path, text = lead ++ quote :: path ∧ isQuote quote = true ∧
    (∀ c ∈ path, isQuote c = false) ∧ OpensImport lead

theorem isBlank_eq_false_of_isQuote {c : Char} (h : isQuote c = true) : isBlank c = false := by
  unfold isQuote at h
  rcases Bool.or_eq_true _ _ |>.mp h with h | h
  · rw [beq_iff_eq.mp h]
    decide
  · rw [beq_iff_eq.mp h]
    decide

theorem afterBlanks?_eq_some_iff {c : Char} (hc : isBlank c = false) {text rest : List Char} :
    afterBlanks? c text = some rest ↔
      ∃ blanks, text = blanks ++ c :: rest ∧ ∀ b ∈ blanks, isBlank b = true := by
  unfold afterBlanks?
  rw [after?_eq_some_iff]
  constructor
  · intro h
    obtain ⟨e, hrun, -⟩ := span_iff.mp ⟨rfl, h⟩
    exact ⟨_, e, hrun⟩
  · rintro ⟨blanks, e, hrun⟩
    exact (span_iff.mpr ⟨e, hrun, stops_cons.mpr hc⟩).2

theorem importsToEnd_iff {text : List Char} :
    importsToEnd text = true ↔
      ∃ blanks inner quote path,
        text = importWord ++ (blanks ++ '(' :: (inner ++ quote :: path)) ∧
        (∀ c ∈ blanks, isBlank c = true) ∧ (∀ c ∈ inner, isBlank c = true) ∧
        isQuote quote = true ∧ ∀ c ∈ path, isQuote c = false := by
  have hbracket : isBlank '(' = false := by decide
  unfold importsToEnd
  constructor
  · intro h
    cases hr : (after? ['i', 'm', 'p', 'o', 'r', 't'] text).bind (afterBlanks? '(') with
    | none =>
        rw [hr] at h
        cases h
    | some rest =>
        rw [hr] at h
        dsimp only at h
        obtain ⟨tail, htail, hrest⟩ := Option.bind_eq_some_iff.mp hr
        obtain ⟨blanks, rfl, hblanks⟩ := (afterBlanks?_eq_some_iff hbracket).mp hrest
        obtain rfl := after?_eq_some_iff.mp htail
        cases hd : rest.dropWhile isBlank with
        | nil =>
            rw [hd] at h
            cases h
        | cons quote path =>
            rw [hd] at h
            obtain ⟨hq, hpath⟩ := Bool.and_eq_true _ _ |>.mp h
            obtain ⟨e, hinner, -⟩ := span_iff.mp ⟨rfl, hd⟩
            refine ⟨blanks, rest.takeWhile isBlank, quote, path, ?_, hblanks, hinner, hq, ?_⟩
            · rw [← e]
              rfl
            · intro c hc
              simpa using List.all_eq_true.mp hpath c hc
  · rintro ⟨blanks, inner, quote, path, rfl, hblanks, hinner, hq, hpath⟩
    have hrest : (after? ['i', 'm', 'p', 'o', 'r', 't']
        (importWord ++ (blanks ++ '(' :: (inner ++ quote :: path)))).bind (afterBlanks? '(') =
        some (inner ++ quote :: path) := by
      rw [Option.bind_eq_some_iff]
      exact ⟨_, after?_eq_some_iff.mpr rfl, (afterBlanks?_eq_some_iff hbracket).mpr
        ⟨blanks, rfl, hblanks⟩⟩
    have hstop : Stops isBlank (quote :: path) :=
      stops_cons.mpr (isBlank_eq_false_of_isQuote hq)
    rw [hrest]
    dsimp only
    rw [(span_iff.mpr ⟨rfl, hinner, hstop⟩).2]
    dsimp only
    rw [hq, Bool.true_and, List.all_eq_true]
    intro c hc
    simp [hpath c hc]

/-- **Only the last quote matters to the path of an import.** -/
theorem inImportPath_iff (text : List Char) : inImportPath text = true ↔ QuotesImport text := by
  unfold inImportPath
  rw [firstAtWordStart_check_isSome_iff]
  constructor
  · rintro ⟨front, rest, rfl, -, hs, himports⟩
    obtain ⟨blanks, inner, quote, path, rfl, hblanks, hinner, hq, hpath⟩ :=
      importsToEnd_iff.mp himports
    refine ⟨front ++ (importWord ++ (blanks ++ '(' :: inner)), quote, path, ?_, hq, hpath,
      front, blanks, inner, rfl, hs, hblanks, hinner⟩
    simp only [List.append_assoc, List.cons_append]
  · rintro ⟨lead, quote, path, rfl, hq, hpath, front, blanks, inner, rfl, hs, hblanks, hinner⟩
    refine ⟨front, importWord ++ (blanks ++ '(' :: (inner ++ quote :: path)), ?_, ?_, hs, ?_⟩
    · simp only [List.append_assoc, List.cons_append]
    · simp [importWord]
    · exact importsToEnd_iff.mpr ⟨blanks, inner, quote, path, rfl, hblanks, hinner, hq, hpath⟩

end EditorAssist.Cursor
