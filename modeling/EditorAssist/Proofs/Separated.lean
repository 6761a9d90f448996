import Mathlib.Data.List.Sort
import EditorAssist.Proofs.DeclarationEnd

/-! # Texts with a separator between them

A separator is a character that is neither a blank nor part of a word.  It ends every keyword, every
run of blanks and every name, so no declaration reaches over it, and a word may start after it as at
the start of a text.  The names of two texts with a separator between them are therefore the names
of the two (`namesFrom_append_cons`).  Since names are offered once and in ascending order, the
suggestions do not depend on the order of such texts or on how often they come:

* `Declared.read?_append_cons`: a declaration is read alike with and without the separator;
* `Declarations.ofText_ext`: the same names are the same declarations;
* `separated_texts`: the names of separated texts, and what is suggested for them. -/

namespace EditorAssist

open Text

namespace Source

/-- The character is neither a blank nor part of a word. -/
structure Separates (c : Char) : Prop where
  blank : isBlank c = false
  word : isWordChar c = false

section

variable {c : Char}

theorem Separates.isNameChar (h : Separates c) : isNameChar c = false := by
  cases hn : Text.isNameChar c with
  | false => rfl
  | true =>
      have hword := isWordChar_of_isNameChar hn
      rw [h.word] at hword
      cases hword

/-- No keyword holds a separator. -/
theorem Separates.notMem (h : Separates c) {word : List Char} (hw : IsName word) : c ∉ word := by
  intro hmem
  have hname := hw.1 c hmem
  rw [h.isNameChar] at hname
  cases hname

/-! ### Reading up to a separator -/

theorem after?_append_cons {head : List Char} (hc : c ∉ head) (a b : List Char) :
    after? head (a ++ c :: b) = (after? head a).map (· ++ c :: b) := by
  induction head generalizing a with
  | nil => rfl
  | cons d head ih =>
      have hne : d ≠ c := fun e => hc (by simp [e])
      cases a with
      | nil => simp [after?, hne]
      | cons x a =>
          rw [List.cons_append, after?, after?]
          by_cases hx : d = x
          · rw [if_pos hx, if_pos hx]
            exact ih (fun hmem => hc (List.mem_cons_of_mem _ hmem)) a
          · rw [if_neg hx, if_neg hx]
            rfl

/-- A run ends before a character that is not of its class. -/
theorem span_append_cons {p : Char → Bool} (hc : p c = false) (a b : List Char) :
    (a ++ c :: b).takeWhile p = a.takeWhile p ∧
      (a ++ c :: b).dropWhile p = a.dropWhile p ++ c :: b := by
  obtain ⟨e, hrun, hstop⟩ := span_iff.mp
    (⟨rfl, rfl⟩ : a.takeWhile p = _ ∧ a.dropWhile p = _)
  refine span_iff.mpr ⟨?_, hrun, ?_⟩
  · rw [← List.append_assoc, ← e]
  · cases hd : a.dropWhile p with
    | nil => exact stops_cons.mpr hc
    | cons x rest =>
        rw [hd, stops_cons] at hstop
        exact stops_cons.mpr hstop

theorem keyword?_append_cons (h : Separates c) {word : List Char} (hw : IsName word)
    (a b : List Char) :
    keyword? word (a ++ c :: b) =
      (keyword? word a).map fun found => (found.1, found.2 ++ c :: b) := by
  unfold keyword?
  rw [after?_append_cons (h.notMem hw)]
  cases after? word a with
  | none => rfl
  | some rest =>
      obtain ⟨htake, hdrop⟩ := span_append_cons h.blank rest b
      simp only [Option.map_some]
      rw [htake, hdrop]
      cases rest.takeWhile isBlank with
      | nil => rfl
      | cons x blanks => rfl

theorem name?_append_cons (h : Separates c) (a b : List Char) : name? (a ++ c :: b) = name? a := by
  cases a with
  | nil =>
      have hstart : isNameStart c = false := by
        cases hs : isNameStart c with
        | false => rfl
        | true =>
            have hname := isNameChar_of_isNameStart hs
            rw [h.isNameChar] at hname
            cases hname
      simp [name?, hstart]
  | cons x a =>
      rw [List.cons_append, name?, name?, (span_append_cons h.isNameChar a b).1]

theorem Declared.after?_append_cons (h : Separates c) {word : List Char} (hw : IsName word)
    (a b : List Char) : Declared.after? word (a ++ c :: b) = Declared.after? word a := by
  unfold Declared.after?
  rw [keyword?_append_cons h hw]
  cases keyword? word a with
  | none => rfl
  | some found =>
      simp only [Option.map_some]
      rw [name?_append_cons h]

/-- `const` before the separator is a name, as it is at the end of a text. -/
theorem Declared.variable?_append_cons (h : Separates c) (a b : List Char) :
    Declared.variable? (a ++ c :: b) = Declared.variable? a := by
  have hlet := keyword?_append_cons h (isName_keyword .variableName) a b
  rw [DeclarationKind.keyword] at hlet
  unfold Declared.variable?
  rw [hlet]
  cases keyword? ['l', 'e', 't'] a with
  | none => rfl
  | some found =>
      have hconst := Declared.after?_append_cons h isName_constWord found.2 b
      rw [constWord] at hconst
      simp only [Option.map_some]
      rw [hconst, name?_append_cons h]

/-- **A declaration is read alike with and without a separator after it.** -/
theorem Declared.read?_append_cons (h : Separates c) (kind : DeclarationKind) (a b : List Char) :
    Declared.read? kind (a ++ c :: b) = Declared.read? kind a := by
  cases kind with
  | variableName => exact Declared.variable?_append_cons h a b
  | functionName => exact Declared.after?_append_cons h (isName_keyword .functionName) a b
  | className => exact Declared.after?_append_cons h (isName_keyword .className) a b

/-! ### Searching over a separator -/

/-- A declaration is no longer than the text that it is read from. -/
theorem Declared.width_le {kind : DeclarationKind} {text : List Char} {d : Declared}
    (h : Declared.read? kind text = some d) : d.width ≤ text.length := by
  obtain ⟨offset, ⟨blanks, between, rest, rfl, -, hi, ho⟩, hw⟩ := Declared.read?_eq_some_iff.mp h
  obtain ⟨-, -, tail, rfl⟩ := hi.between
  simp only [List.length_append]
  omega

/-- Only whether a word may start matters of the character before a text. -/
theorem namesFrom_congr {before before' : Option Char} (h : startsWord before = startsWord before')
    (kind : DeclarationKind) (text : List Char) :
    namesFrom kind 0 before text = namesFrom kind 0 before' text := by
  cases text with
  | nil => simp [namesFrom]
  | cons x text => rw [namesFrom, namesFrom, h]

/-- **The names of two texts with a separator between them** are the names of the first and then
those of the second. -/
theorem namesFrom_append_cons (h : Separates c) (kind : DeclarationKind) (b : List Char) :
    ∀ (skip : Nat) (before : Option Char) (a : List Char), skip ≤ a.length →
      namesFrom kind skip before (a ++ c :: b) =
        namesFrom kind skip before a ++ namesFrom kind 0 none b
  | 0, before, [] => by
      intro _
      have hread : Declared.read? kind (c :: b) = none := by
        rw [← List.nil_append (c :: b), Declared.read?_append_cons h]
        cases kind <;> rfl
      have hstart : startsWord (some c) = startsWord none := by simp [startsWord, h.word]
      have hnil : namesFrom kind 0 before [] = [] := by rw [namesFrom]
      rw [hnil, List.nil_append, List.nil_append, namesFrom, hread, ite_self]
      exact namesFrom_congr hstart kind b
  | skip + 1, before, [] => by
      intro hle
      simp at hle
  | skip + 1, before, x :: a => by
      intro hle
      rw [List.cons_append, namesFrom, namesFrom]
      exact namesFrom_append_cons h kind b skip (some x) a (by simpa using hle)
  | 0, before, x :: a => by
      intro _
      have hread := Declared.read?_append_cons h kind (x :: a) b
      rw [List.cons_append] at hread ⊢
      rw [namesFrom, namesFrom, hread]
      cases hr : (if startsWord before then Declared.read? kind (x :: a) else none) with
      | none => exact namesFrom_append_cons h kind b 0 (some x) a (Nat.zero_le _)
      | some declared =>
          have hwidth : declared.width - 1 ≤ a.length := by
            by_cases hs : startsWord before = true
            · rw [if_pos hs] at hr
              have hle := Declared.width_le hr
              rw [List.length_cons] at hle
              omega
            · rw [if_neg hs] at hr
              cases hr
          dsimp only
          rw [namesFrom_append_cons h kind b _ (some x) a hwidth, List.cons_append]

end

/-! ### Names in ascending order -/

/-- Names in ascending order are strictly ascending once the repeats are gone. -/
theorem dropRepeats_pairwise :
    ∀ {names : List String}, names.Pairwise (· ≤ ·) → (dropRepeats names).Pairwise (· < ·)
  | [], _ => by simp [dropRepeats]
  | [name], _ => by simp [dropRepeats]
  | first :: next :: rest, h => by
      have ih := dropRepeats_pairwise h.of_cons
      rw [dropRepeats]
      by_cases he : first = next
      · rw [if_pos he]
        exact ih
      · rw [if_neg he, List.pairwise_cons]
        refine ⟨?_, ih⟩
        intro name hname
        have hnext : next ≤ name := by
          rcases List.mem_cons.mp (mem_dropRepeats.mp hname) with rfl | hname
          · exact String.le_refl name
          · exact List.rel_of_pairwise_cons h.of_cons hname
        rw [← String.not_le]
        intro hle
        exact he (String.le_antisymm (List.rel_of_pairwise_cons h List.mem_cons_self)
          (String.le_trans hnext hle))

theorem sortedNames_pairwise (names : List String) : (sortedNames names).Pairwise (· < ·) := by
  have hsorted : (names.mergeSort fun a b => decide (a ≤ b)).Pairwise
      fun a b => decide (a ≤ b) = true := by
    apply List.pairwise_mergeSort
    · intro a b c hab hbc
      rw [decide_eq_true_eq] at hab hbc ⊢
      exact String.le_trans hab hbc
    · intro a b
      simpa using String.le_total a b
  exact dropRepeats_pairwise (hsorted.imp fun h => of_decide_eq_true h)

/-- Two strictly ascending lists with the same names are the same list. -/
theorem eq_of_mem_iff {names names' : List String} (h : names.Pairwise (· < ·))
    (h' : names'.Pairwise (· < ·)) (hmem : ∀ name, name ∈ names ↔ name ∈ names') :
    names = names' := by
  have hantisymm : Std.Antisymm (fun a b : String => a < b) :=
    ⟨fun a b hab hba => absurd hba (String.lt_asymm hab)⟩
  have hirrefl : Std.Irrefl (fun a b : String => a < b) := ⟨String.lt_irrefl⟩
  exact h.eq_of_mem_iff h' hmem

theorem Declarations.names_pairwise (kind : DeclarationKind) (text : String) :
    ((Declarations.ofText text).names kind).Pairwise (· < ·) := by
  rw [Declarations.names_ofText]
  exact sortedNames_pairwise _

/-- Texts with the same names of each kind have the same declarations. -/
theorem Declarations.ofText_ext {text text' : String}
    (h : ∀ kind name, name ∈ (Declarations.ofText text).names kind ↔
      name ∈ (Declarations.ofText text').names kind) :
    Declarations.ofText text = Declarations.ofText text' := by
  have hnames : ∀ kind, (Declarations.ofText text).names kind =
      (Declarations.ofText text').names kind := fun kind =>
    eq_of_mem_iff (Declarations.names_pairwise kind text) (Declarations.names_pairwise kind text')
      (h kind)
  rw [Declarations.mk.injEq]
  exact ⟨hnames .variableName, hnames .functionName, hnames .className⟩

/-- The names of two texts with a separator between them are the names of either. -/
theorem Declarations.mem_names_append {c : Char} (h : Separates c) (kind : DeclarationKind)
    (a b name : String) :
    name ∈ (Declarations.ofText (a ++ String.singleton c ++ b)).names kind ↔
      name ∈ (Declarations.ofText a).names kind ∨ name ∈ (Declarations.ofText b).names kind := by
  have htext : (a ++ String.singleton c ++ b).toList = a.toList ++ c :: b.toList := by simp
  simp only [Declarations.names_ofText, declaredNames, mem_sortedNames]
  rw [htext, namesFrom_append_cons h kind b.toList 0 none a.toList (Nat.zero_le _),
    List.map_append, List.mem_append]

end Source

/-! ### Suggestions -/

open Source

/-- Suggestions depend on the text only through what it declares. -/
theorem complete_congr (assistant : Assistant) {text text' : String}
    (h : Declarations.ofText text = Declarations.ofText text') (before : String) :
    assistant.complete text before = assistant.complete text' before := by
  have hspot : ∀ spot, assistant.suggestAt spot text = assistant.suggestAt spot text' := by
    intro spot
    cases spot with
    | general => rw [Assistant.suggestAt, Assistant.suggestAt, Suggestion.general, h,
        Suggestion.general]
    | _ => rfl
  simp only [Assistant.complete, hspot]

/-- **Declarations of separated texts.**  With a separator between two texts, the names of each kind
are those of the one and those of the other.  So what is suggested does not depend on which of the
two comes first, and a text that comes twice counts once. -/
theorem separated_texts {c : Char} (h : Separates c) (a b : String) :
    (∀ kind name, name ∈ (Declarations.ofText (a ++ String.singleton c ++ b)).names kind ↔
      name ∈ (Declarations.ofText a).names kind ∨ name ∈ (Declarations.ofText b).names kind) ∧
    ∀ (assistant : Assistant) (before : String),
      assistant.complete (a ++ String.singleton c ++ b) before =
        assistant.complete (b ++ String.singleton c ++ a) before ∧
      assistant.complete (a ++ String.singleton c ++ a) before = assistant.complete a before := by
  refine ⟨fun kind name => Declarations.mem_names_append h kind a b name, ?_⟩
  intro assistant before
  constructor
  · apply complete_congr
    apply Declarations.ofText_ext
    intro kind name
    rw [Declarations.mem_names_append h, Declarations.mem_names_append h, or_comm]
  · apply complete_congr
    apply Declarations.ofText_ext
    intro kind name
    rw [Declarations.mem_names_append h, or_self]

/-- An unfinished `let const` before a semicolon declares `const`, wherever it stands. -/
theorem separated_texts_unfinished :
    Separates ';' ∧
    "const" ∈ (Declarations.ofText ("let const" ++ String.singleton ';' ++ "func f")).names
      .variableName ∧
    ∀ (assistant : Assistant) (before : String),
      assistant.complete ("let const" ++ String.singleton ';' ++ "func f") before =
        assistant.complete ("func f" ++ String.singleton ';' ++ "let const") before := by
  have hsemicolon : Separates ';' := ⟨by decide, by decide⟩
  obtain ⟨hnames, hsuggested⟩ := separated_texts hsemicolon "let const" "func f"
  have hconst : "const" ∈ (Declarations.ofText "let const").names .variableName := by
    decide +kernel
  exact ⟨hsemicolon, (hnames _ _).mpr (.inl hconst), fun assistant before =>
    (hsuggested assistant before).1⟩

end EditorAssist
