import EditorAssist.Assistant
import EditorAssist.Handbook.Mrya
import EditorAssist.Proofs.ImportPath
import EditorAssist.Proofs.Reading

/-! # Where nothing is suggested

Nothing should be suggested in a comment, nor in a literal that is no import path (`EndsQuiet`).  The
assistant looks for an import path before it looks for literals and comments, and only at the last
quote of the text, wherever that quote stands.  So the rule fails where that quote stands in the
comment or in the literal and follows `import` and an opening bracket there (`HiddenImport`), unless
the text also ends in a declaration or no import is known:

* `quotesImport_iff_hiddenImport`: a path that is seen in a comment or in such a literal is hidden;
* `ofText_of_endsQuiet`: the three spots that the end of such a text can be;
* `complete_eq_nil_iff_of_endsQuiet`: when nothing is suggested there, and what is otherwise. -/

namespace EditorAssist

open Text Source Cursor

/-! ### Quiet ends -/

/-- The text ends in a comment, or in a literal whose opening quote is not expected by an import. -/
def EndsQuiet (text : List Char) : Prop :=
  Mode.code.read text = .comment ∨ ∃ lead, LiteralAfter lead text ∧ ¬ OpensImport lead

theorem EndsQuiet.outsideCode {text : List Char} (h : EndsQuiet text) :
    (Mode.code.read text).outsideCode = true := by
  rcases h with hcomment | ⟨lead, hliteral, -⟩
  · rw [hcomment]
    rfl
  · obtain ⟨quote, hread⟩ := (read_eq_literal_iff text).mpr ⟨lead, hliteral⟩
    rw [hread]
    rfl

theorem EndsQuiet.inLiteralOrComment {text : List Char} (h : EndsQuiet text) :
    inLiteralOrComment text = true := by
  have hdetects := Mode.outsideCode_read .code text
  rw [h.outsideCode] at hdetects
  exact hdetects.symm

/-! ### Import paths in quiet places -/

/-- The last quote of the text stands in a literal or a comment, where the path of an import would be
expected. -/
def HiddenImport (text : List Char) : Prop :=
  ∃ lead quote path, text = lead ++ quote :: path ∧ isQuote quote = true ∧
    (∀ c ∈ path, isQuote c = false) ∧ OpensImport lead ∧
    (Mode.code.read lead).outsideCode = true

/-- The last quote of a text is the one that `lead` stands before, or comes after it. -/
theorem lastQuote_cases {lead lead' body path : List Char} {q q' : Char}
    (e : lead ++ q :: body = lead' ++ q' :: path) (hq : isQuote q = true)
    (hpath : ∀ c ∈ path, isQuote c = false) :
    lead' = lead ∨ ∃ mid, lead' = lead ++ q :: mid ∧ body = mid ++ q' :: path := by
  rcases List.append_eq_append_iff.mp e with ⟨mid, rfl, hm⟩ | ⟨mid, rfl, hm⟩
  · cases mid with
    | nil => exact .inl (by simp)
    | cons c mid =>
        cases hm
        exact .inr ⟨mid, rfl, rfl⟩
  · cases mid with
    | nil => exact .inl (by simp)
    | cons c mid =>
        -- the quote after `lead` would stand in the path
        cases hm
        have hfree : isQuote q = false := hpath q (by simp)
        rw [hq] at hfree
        cases hfree

/-- In a comment or in a literal of no import, an import path is seen only where it is hidden. -/
theorem quotesImport_iff_hiddenImport {text : List Char} (h : EndsQuiet text) :
    QuotesImport text ↔ HiddenImport text := by
  constructor
  · rintro ⟨lead', q', path, e, hq', hpath, hopens⟩
    refine ⟨lead', q', path, e, hq', hpath, hopens, ?_⟩
    rcases h with hcomment | ⟨lead, ⟨q, body, e', hcode, hq, hbody⟩, hnot⟩
    · cases hcode : (Mode.code.read lead').outsideCode with
      | true => rfl
      | false =>
          -- a quote in code would have opened a literal, not a comment
          have hopen : q' ∉ path := by
            intro hmem
            have hfree := hpath q' hmem
            rw [hq'] at hfree
            cases hfree
          rw [e, Mode.read_opened hcode hq' hopen] at hcomment
          cases hcomment
    · rcases lastQuote_cases (e'.symm.trans e) hq hpath with rfl | ⟨mid, rfl, rfl⟩
      · exact absurd hopens hnot
      · have hmid : q ∉ mid := fun hmem => hbody (List.mem_append_left _ hmem)
        rw [Mode.read_opened hcode hq hmid]
        rfl
  · rintro ⟨lead, quote, path, e, hq, hpath, hopens, -⟩
    exact ⟨lead, quote, path, e, hq, hpath, hopens⟩

/-! ### Suggestions -/

/-- The end of such a text is a declaration, an import path or a place of no suggestions. -/
theorem ofText_of_endsQuiet {before : String} (h : EndsQuiet before.toList) :
    Spot.ofText before =
      if namesDeclaration before.toList then .declaration
      else if inImportPath before.toList then .importPath else .literalOrComment := by
  unfold Spot.ofText
  rw [if_pos h.inLiteralOrComment]

/-- **When comments and literals are quiet.**  In a comment, or in a literal that no import opens,
nothing is suggested exactly when the text ends in a declaration, hides no import path, or there is
nothing to import.  Everywhere else there the suggestions are those of an import path. -/
theorem complete_eq_nil_iff_of_endsQuiet (a : Assistant) (text before : String)
    (h : EndsQuiet before.toList) :
    ((a.complete text before).suggestions = [] ↔
      namesDeclaration before.toList = true ∨ ¬ HiddenImport before.toList ∨
        a.importPaths.suggestions = []) ∧
      (namesDeclaration before.toList = false → HiddenImport before.toList →
        (a.complete text before).suggestions = a.importPaths.suggestions) := by
  have hanswer : (a.complete text before).suggestions =
      (a.suggestAt (Spot.ofText before) text).suggestions := rfl
  rw [← quotesImport_iff_hiddenImport h, ← inImportPath_iff, hanswer, ofText_of_endsQuiet h]
  cases hdeclares : namesDeclaration before.toList with
  | true => simp [Assistant.suggestAt, Answer.ofSuggestions]
  | false =>
      cases himports : inImportPath before.toList with
      | true => simp [Assistant.suggestAt]
      | false => simp [Assistant.suggestAt, Answer.ofSuggestions]

/-- An import that is commented out is still answered with what can be imported. -/
theorem complete_eq_nil_iff_of_endsQuiet_commented :
    let a : Assistant := ⟨.mrya, fun _ => ⟨.ok [], []⟩, none, Assistant.mryaExtension⟩
    EndsQuiet "// import(\"".toList ∧ HiddenImport "// import(\"".toList ∧
      (a.complete "" "// import(\"").suggestions = a.importPaths.suggestions := by
  intro a
  have hquiet : EndsQuiet "// import(\"".toList := .inl (by decide +kernel)
  have hopens : OpensImport "// import(".toList :=
    ⟨['/', '/', ' '], [], [], by decide +kernel, by decide +kernel, by simp, by simp⟩
  have hhidden : HiddenImport "// import(\"".toList :=
    ⟨"// import(".toList, '"', [], by decide +kernel, by decide, by simp, hopens,
      by decide +kernel⟩
  exact ⟨hquiet, hhidden,
    (complete_eq_nil_iff_of_endsQuiet a "" _ hquiet).2 (by decide +kernel) hhidden⟩

/-- Neither a comment nor a literal of the other quote hides an import from the assistant. -/
theorem quiet_end_with_suggestions :
    let a : Assistant := ⟨.mrya, fun _ => ⟨.ok [], []⟩, none, Assistant.mryaExtension⟩
    EndsQuiet "// import(\"".toList ∧ (a.complete "" "// import(\"").suggestions ≠ [] ∧
      EndsQuiet "\"import('".toList ∧ (a.complete "" "\"import('").suggestions ≠ [] := by
  intro a
  refine ⟨.inl (by decide +kernel), by decide +kernel, .inr ⟨[], ?_, ?_⟩, by decide +kernel⟩
  · exact ⟨'"', "import('".toList, by decide +kernel, rfl, by decide, by decide +kernel⟩
  · rintro ⟨front, blanks, inner, e, -⟩
    have hlength := congrArg List.length e
    simp [importWord] at hlength

end EditorAssist
