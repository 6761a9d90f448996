import EditorAssist.Proofs.WordStart
import EditorAssist.Source.Declarations

/-! # Occurrences of declarations

An occurrence is a declaration anywhere in a text, said without the search that collects it: the
keyword of a kind at a word start, blanks, for a variable `const` and blanks if a name still follows
them, and the name, as long as it can be (`Occurs`).  The search goes on after each name that it has
found, so an occurrence can be passed over.  That happens in one way only, where the name just found
is the keyword of the occurrence itself, as in `let let x` (`Declares.overlap`).

* `Declared.read?_eq_some_iff`: the reader at the head of a text finds what is declared there;
* `collected`: the occurrences that the search collects, with their places;
* `declarations_exact`: the names of a text are names of occurrences, and every occurrence is
  collected unless its keyword is the name of a collected one. -/

namespace EditorAssist.Source

open Text

/-! ### What an occurrence is -/

/-- The keyword that introduces a kind of declaration. -/
def DeclarationKind.keyword : DeclarationKind → List Char
  | .variableName => ['l', 'e', 't']
  | .functionName => ['f', 'u', 'n', 'c']
  | .className => ['c', 'l', 'a', 's', 's']

/-- The word that may stand before the name of a variable. -/
def constWord : List Char := ['c', 'o', 'n', 's', 't']

/-- The text goes on with the name, and the name cannot be longer. -/
def NameLeads (name text : List Char) : Prop :=
  ∃ rest, text = name ++ rest ∧ IsName name ∧ Stops isNameChar rest

/-- A word, blanks and a name lead the text. -/
def WordLeads (word blanks name text : List Char) : Prop :=
  ∃ rest, text = word ++ (blanks ++ rest) ∧ IsBlanks blanks ∧ NameLeads name rest

/-- What may follow the keyword and its blanks: `between`, and then the name. -/
inductive Introduces : DeclarationKind → (between name text : List Char) → Prop
  /-- The name itself.  For a variable, `const` is read as a name only if no other name follows. -/
  | name {kind : DeclarationKind} {name text : List Char} : NameLeads name text →
      (kind = .variableName → ∀ blanks other, ¬ WordLeads constWord blanks other text) →
      Introduces kind [] name text
  /-- `const` and blanks before the name of a variable. -/
  | const {blanks name text : List Char} : WordLeads constWord blanks name text →
      Introduces .variableName (constWord ++ blanks) name text

/-- A declaration of the kind at the head of the text; its name stands `offset` characters later. -/
def Declares (kind : DeclarationKind) (offset : Nat) (name text : List Char) : Prop :=
  ∃ blanks between rest, text = kind.keyword ++ (blanks ++ rest) ∧ IsBlanks blanks ∧
    Introduces kind between name rest ∧
    offset = kind.keyword.length + blanks.length + between.length

/-- A place of a keyword, the place of the name after it, and the name. -/
structure Occurrence where
  start : Nat
  nameStart : Nat
  name : List Char
deriving Repr, DecidableEq

/-- The occurrence stands in a text of which the first character has the place `position`, and
`before` stands before it. -/
def OccursAfter (kind : DeclarationKind) (before : Option Char) (position : Nat) (text : List Char)
    (o : Occurrence) : Prop :=
  ∃ lead rest offset, text = lead ++ rest ∧ o.start = position + lead.length ∧
    o.nameStart = o.start + offset ∧ startsWord (lastOr before lead) = true ∧
    Declares kind offset o.name rest

/-- The occurrence stands in the text. -/
def Occurs (kind : DeclarationKind) (text : List Char) (o : Occurrence) : Prop :=
  OccursAfter kind none 0 text o

/-! ### Names and keywords as runs -/

theorem name?_eq_some_iff_leads {text name : List Char} :
    name? text = some name ↔ NameLeads name text := name?_eq_some_iff

/-- Only one name leads a text. -/
theorem NameLeads.unique {a b text : List Char} (ha : NameLeads a text) (hb : NameLeads b text) :
    a = b := by
  rw [← name?_eq_some_iff_leads] at ha hb
  exact Option.some.inj (ha.symm.trans hb)

theorem NameLeads.stops_isBlank {name text : List Char} (h : NameLeads name text) :
    Stops isBlank text := by
  obtain ⟨rest, rfl, ⟨hrun, c, hc, -⟩, -⟩ := h
  cases name with
  | nil => cases hc
  | cons d name =>
      rw [List.cons_append, stops_cons]
      cases hb : isBlank d with
      | false => rfl
      | true =>
          have h := isNameChar_eq_false_of_isBlank hb
          rw [hrun d (by simp)] at h
          cases h

/-- No blank goes on a name. -/
theorem IsBlanks.stops_isNameChar {blanks : List Char} (h : IsBlanks blanks) (rest : List Char) :
    Stops isNameChar (blanks ++ rest) := by
  obtain ⟨hne, hrun⟩ := h
  cases blanks with
  | nil => exact absurd rfl hne
  | cons c blanks =>
      rw [List.cons_append, stops_cons]
      exact isNameChar_eq_false_of_isBlank (hrun c (by simp))

theorem isName_keyword (kind : DeclarationKind) : IsName kind.keyword := by
  cases kind with
  | variableName => exact ⟨List.all_eq_true.mp rfl, 'l', rfl, rfl⟩
  | functionName => exact ⟨List.all_eq_true.mp rfl, 'f', rfl, rfl⟩
  | className => exact ⟨List.all_eq_true.mp rfl, 'c', rfl, rfl⟩

theorem isName_constWord : IsName constWord := ⟨List.all_eq_true.mp rfl, 'c', rfl, rfl⟩

theorem Declares.keyword_leads {kind : DeclarationKind} {offset : Nat} {name text : List Char}
    (h : Declares kind offset name text) : NameLeads kind.keyword text := by
  obtain ⟨blanks, between, rest, rfl, hb, -, -⟩ := h
  exact ⟨blanks ++ rest, rfl, isName_keyword kind, hb.stops_isNameChar rest⟩

/-! ### The reader at the head of a text -/

theorem Declared.after?_eq_some_iff {word text : List Char} {d : Declared} :
    Declared.after? word text = some d ↔
      ∃ blanks, WordLeads word blanks d.name text ∧
        d.width = word.length + blanks.length + d.name.length := by
  obtain ⟨name, width⟩ := d
  unfold Declared.after?
  constructor
  · intro h
    cases hk : keyword? word text with
    | none =>
        rw [hk] at h
        cases h
    | some found =>
        obtain ⟨blanks, rest⟩ := found
        rw [hk] at h
        obtain ⟨found, hn, e⟩ := Option.map_eq_some_iff.mp h
        obtain ⟨rfl, rfl⟩ := Declared.mk.inj e
        obtain ⟨e, hb, -⟩ := keyword?_eq_some_iff.mp hk
        exact ⟨blanks, ⟨rest, e, hb, name?_eq_some_iff_leads.mp hn⟩, rfl⟩
  · rintro ⟨blanks, ⟨rest, e, hb, hn⟩, hw⟩
    dsimp only at hn hw
    rw [keyword?_eq_some_iff.mpr ⟨e, hb, hn.stops_isBlank⟩]
    dsimp only
    rw [name?_eq_some_iff_leads.mpr hn, hw]
    rfl

theorem Declared.after?_eq_none_iff {word text : List Char} :
    Declared.after? word text = none ↔ ∀ blanks name, ¬ WordLeads word blanks name text := by
  rw [Option.eq_none_iff_forall_ne_some]
  constructor
  · intro h blanks name hw
    exact h ⟨name, word.length + blanks.length + name.length⟩
      (Declared.after?_eq_some_iff.mpr ⟨blanks, hw, rfl⟩)
  · intro h d hd
    obtain ⟨blanks, hw, -⟩ := Declared.after?_eq_some_iff.mp hd
    exact h blanks d.name hw

/-- Without `const` the kinds are read alike. -/
theorem declares_iff_wordLeads {kind : DeclarationKind} (hk : kind ≠ .variableName) {offset : Nat}
    {name text : List Char} :
    Declares kind offset name text ↔
      ∃ blanks, WordLeads kind.keyword blanks name text ∧
        offset = kind.keyword.length + blanks.length := by
  constructor
  · rintro ⟨blanks, between, rest, e, hb, hi, ho⟩
    cases hi with
    | name hn _ => exact ⟨blanks, ⟨rest, e, hb, hn⟩, ho⟩
    | const _ => exact absurd rfl hk
  · rintro ⟨blanks, ⟨rest, e, hb, hn⟩, ho⟩
    exact ⟨blanks, [], rest, e, hb, .name hn (fun h => absurd h hk), ho⟩

theorem Declared.variable?_eq_some_iff {text : List Char} {d : Declared} :
    Declared.variable? text = some d ↔
      ∃ offset, Declares .variableName offset d.name text ∧ d.width = offset + d.name.length := by
  obtain ⟨name, width⟩ := d
  unfold Declared.variable?
  constructor
  · intro h
    cases hk : keyword? ['l', 'e', 't'] text with
    | none =>
        rw [hk] at h
        cases h
    | some found =>
        obtain ⟨blanks, rest⟩ := found
        obtain ⟨e, hb, -⟩ := keyword?_eq_some_iff.mp hk
        rw [hk] at h
        dsimp only at h
        cases hc : Declared.after? ['c', 'o', 'n', 's', 't'] rest with
        | some constant =>
            rw [hc] at h
            obtain ⟨rfl, rfl⟩ := Declared.mk.inj (Option.some.inj h)
            obtain ⟨blanks', hw, hwidth⟩ := Declared.after?_eq_some_iff.mp hc
            refine ⟨_, ⟨blanks, constWord ++ blanks', rest, e, hb, .const hw, rfl⟩, ?_⟩
            simp only [hwidth, DeclarationKind.keyword, constWord, List.length_append,
              List.length_cons, List.length_nil]
            omega
        | none =>
            rw [hc] at h
            obtain ⟨found, hn, e'⟩ := Option.map_eq_some_iff.mp h
            obtain ⟨rfl, rfl⟩ := Declared.mk.inj e'
            exact ⟨_, ⟨blanks, [], rest, e, hb, .name (name?_eq_some_iff_leads.mp hn)
              (fun _ => Declared.after?_eq_none_iff.mp hc), rfl⟩, rfl⟩
  · rintro ⟨offset, ⟨blanks, between, rest, e, hb, hi, ho⟩, hw⟩
    dsimp only at hi hw
    have e : text = ['l', 'e', 't'] ++ (blanks ++ rest) := e
    cases hi with
    | name hn hconst =>
        rw [keyword?_eq_some_iff.mpr ⟨e, hb, hn.stops_isBlank⟩]
        dsimp only
        have hread : Declared.after? ['c', 'o', 'n', 's', 't'] rest = none :=
          Declared.after?_eq_none_iff.mpr (hconst rfl)
        rw [hread, name?_eq_some_iff_leads.mpr hn, hw, ho]
        rfl
    | @const blanks' _ _ hconst =>
        have hstop : Stops isBlank rest := by
          obtain ⟨rest', rfl, -, -⟩ := hconst
          exact stops_cons.mpr (by decide)
        rw [keyword?_eq_some_iff.mpr ⟨e, hb, hstop⟩]
        dsimp only
        have hread : Declared.after? ['c', 'o', 'n', 's', 't'] rest =
            some ⟨name, 5 + blanks'.length + name.length⟩ :=
          Declared.after?_eq_some_iff.mpr ⟨blanks', hconst, rfl⟩
        rw [hread, hw, ho]
        simp only [DeclarationKind.keyword, constWord, List.length_append, List.length_cons,
          List.length_nil, Option.some.injEq, Declared.mk.injEq, true_and]
        omega

/-- The reader of a kind finds what is declared at the head of the text, and nothing else. -/
theorem Declared.read?_eq_some_iff {kind : DeclarationKind} {text : List Char} {d : Declared} :
    Declared.read? kind text = some d ↔
      ∃ offset, Declares kind offset d.name text ∧ d.width = offset + d.name.length := by
  have plain : ∀ k : DeclarationKind, k ≠ .variableName →
      (Declared.after? k.keyword text = some d ↔
        ∃ offset, Declares k offset d.name text ∧ d.width = offset + d.name.length) := by
    intro k hk
    simp only [Declared.after?_eq_some_iff, declares_iff_wordLeads hk]
    constructor
    · rintro ⟨blanks, hw, hwidth⟩
      exact ⟨_, ⟨blanks, hw, rfl⟩, hwidth⟩
    · rintro ⟨offset, ⟨blanks, hw, rfl⟩, hwidth⟩
      exact ⟨blanks, hw, hwidth⟩
  cases kind with
  | variableName => exact Declared.variable?_eq_some_iff
  | functionName => exact plain .functionName (by decide)
  | className => exact plain .className (by decide)

/-! ### How two declarations can overlap -/

/-- A text that ends where a word may start, counted from inside a text. -/
def EndsWord (lead : List Char) : Prop := ∀ c ∈ lead.getLast?, isWordChar c = false

theorem endsWord_of_startsWord {before : Option Char} {lead : List Char}
    (h : startsWord (lastOr before lead) = true) : EndsWord lead := by
  intro c hc
  simp only [lastOr, Option.mem_def.mp hc, Option.some_or, startsWord] at h
  simpa using h

theorem EndsWord.of_append {a b : List Char} (h : EndsWord (a ++ b)) : EndsWord b := by
  intro c hc
  apply h
  rw [List.getLast?_append, Option.mem_def.mp hc]
  rfl

/-- A word starts inside a run of word characters only at the beginning of the run. -/
theorem peel_word {run tail lead rest : List Char} (hrun : ∀ c ∈ run, isNameChar c = true)
    (e : run ++ tail = lead ++ rest) (hlead : EndsWord lead) :
    lead = [] ∨ ∃ lead', lead = run ++ lead' ∧ tail = lead' ++ rest := by
  rcases List.append_eq_append_iff.mp e with h | ⟨more, rfl, -⟩
  · exact .inr h
  · left
    cases hl : lead.getLast? with
    | none => exact List.getLast?_eq_none_iff.mp hl
    | some c =>
        have hword := isWordChar_of_isNameChar
          (hrun c (List.mem_append_left _ (List.mem_of_getLast? hl)))
        rw [hlead c hl] at hword
        cases hword

/-- What is no blank stands after a run of blanks, not in it. -/
theorem peel_blanks {run tail lead rest : List Char} (hrun : ∀ c ∈ run, isBlank c = true)
    (e : run ++ tail = lead ++ rest) (hrest : Stops isBlank rest) :
    ∃ lead', lead = run ++ lead' ∧ tail = lead' ++ rest := by
  rcases List.append_eq_append_iff.mp e with h | ⟨more, rfl, erest⟩
  · exact h
  · cases more with
    | nil => exact ⟨[], by simp, by simpa using erest.symm⟩
    | cons c more =>
        rw [erest, List.cons_append, stops_cons, hrun c (by simp)] at hrest
        cases hrest

theorem NameLeads.ne_nil {name text : List Char} (h : NameLeads name text) : text ≠ [] := by
  obtain ⟨rest, rfl, ⟨-, c, hc, -⟩, -⟩ := h
  cases name with
  | nil => cases hc
  | cons d name => simp

/-- A declaration that starts inside a name takes the whole name as its keyword. -/
theorem NameLeads.overlap {kind : DeclarationKind} {offset : Nat} {name other lead rest : List Char}
    (h : NameLeads name (lead ++ rest)) (h' : Declares kind offset other rest)
    (hlead : EndsWord lead) (hlt : lead.length < name.length) :
    lead = [] ∧ name = kind.keyword := by
  have hnil : lead = [] := by
    obtain ⟨tail, e, ⟨hrun, -⟩, -⟩ := h
    rcases peel_word hrun e.symm hlead with hnil | ⟨lead', rfl, -⟩
    · exact hnil
    · rw [List.length_append] at hlt
      omega
  subst hnil
  exact ⟨rfl, h.unique h'.keyword_leads⟩

/-- **Declarations overlap in one way.**  Where one of a kind starts inside another of the same kind,
its keyword is the whole name of the other. -/
theorem Declares.overlap {kind : DeclarationKind} {offset offset' : Nat}
    {name name' lead rest : List Char} (h : Declares kind offset name (lead ++ rest))
    (h' : Declares kind offset' name' rest) (hne : lead ≠ []) (hlead : EndsWord lead)
    (hlt : lead.length < offset + name.length) :
    lead.length = offset ∧ name = kind.keyword := by
  have hblank : Stops isBlank rest := h'.keyword_leads.stops_isBlank
  obtain ⟨blanks, between, after, e, hb, hi, rfl⟩ := h
  -- the keyword and the blanks after it lie in `lead`
  rcases peel_word (isName_keyword kind).1 e.symm hlead with hnil | ⟨lead₁, rfl, e₁⟩
  · exact absurd hnil hne
  obtain ⟨lead₂, rfl, e₂⟩ := peel_blanks hb.2 e₁ hblank
  have hlead₂ : EndsWord lead₂ := hlead.of_append.of_append
  simp only [List.length_append] at hlt ⊢
  cases hi with
  | name hn _ =>
      rw [e₂] at hn
      obtain ⟨rfl, hk⟩ := hn.overlap h' hlead₂ (by simp at hlt; omega)
      exact ⟨by simp, hk⟩
  | const hc =>
      obtain ⟨after', rfl, hb', hn⟩ := hc
      rcases peel_word isName_constWord.1 e₂ hlead₂ with rfl | ⟨lead₃, rfl, e₃⟩
      · -- `const` is not the keyword of a variable
        obtain ⟨tail, e', -⟩ := h'.keyword_leads
        rw [List.nil_append] at e₂
        rw [← e₂] at e'
        cases e'
      · obtain ⟨lead₄, rfl, e₄⟩ := peel_blanks hb'.2 e₃ hblank
        rw [e₄] at hn
        simp only [List.length_append] at hlt ⊢
        obtain ⟨rfl, hk⟩ := hn.overlap h' hlead₂.of_append.of_append (by omega)
        exact ⟨by simp; omega, hk⟩

/-! ### The occurrences that are collected -/

/-- The occurrences that the search of `namesFrom` collects, in order.  The first character of the
text has the place `position`. -/
def occurrencesFrom (kind : DeclarationKind) :
    (skip : Nat) → (before : Option Char) → (position : Nat) → List Char → List Occurrence
  | _, _, _, [] => []
  | skip + 1, _, position, c :: rest => occurrencesFrom kind skip (some c) (position + 1) rest
  | 0, before, position, c :: rest =>
    match (if startsWord before then Declared.read? kind (c :: rest) else none) with
    | some declared =>
      ⟨position, position + (declared.width - declared.name.length), declared.name⟩ ::
        occurrencesFrom kind (declared.width - 1) (some c) (position + 1) rest
    | none => occurrencesFrom kind 0 (some c) (position + 1) rest

/-- The occurrences of a kind that are collected from a text. -/
def collected (kind : DeclarationKind) (text : List Char) : List Occurrence :=
  occurrencesFrom kind 0 none 0 text

/-- The names of the collected occurrences are the names that the search gives. -/
theorem map_name_occurrencesFrom (kind : DeclarationKind) :
    ∀ (skip : Nat) (before : Option Char) (position : Nat) (text : List Char),
      (occurrencesFrom kind skip before position text).map Occurrence.name =
        namesFrom kind skip before text
  | _, _, _, [] => by simp [occurrencesFrom, namesFrom]
  | skip + 1, _, position, c :: rest => by
      rw [occurrencesFrom, namesFrom]
      exact map_name_occurrencesFrom kind skip (some c) (position + 1) rest
  | 0, before, position, c :: rest => by
      rw [occurrencesFrom, namesFrom]
      cases (if startsWord before then Declared.read? kind (c :: rest) else none) with
      | some declared =>
          simp only [List.map_cons]
          rw [map_name_occurrencesFrom kind (declared.width - 1) (some c) (position + 1) rest]
      | none => exact map_name_occurrencesFrom kind 0 (some c) (position + 1) rest

/-- An occurrence in the rest of a text is one in the text. -/
theorem OccursAfter.cons {kind : DeclarationKind} {before : Option Char} {position : Nat} {c : Char}
    {text : List Char} {o : Occurrence} (h : OccursAfter kind (some c) (position + 1) text o) :
    OccursAfter kind before position (c :: text) o := by
  obtain ⟨lead, rest, offset, rfl, hs, hn, hw, hd⟩ := h
  refine ⟨c :: lead, rest, offset, rfl, ?_, hn, by rw [lastOr_cons]; exact hw, hd⟩
  rw [hs, List.length_cons]
  omega

/-- Whatever is collected stands in the text. -/
theorem occursAfter_of_mem (kind : DeclarationKind) :
    ∀ (skip : Nat) (before : Option Char) (position : Nat) (text : List Char),
      ∀ o ∈ occurrencesFrom kind skip before position text, OccursAfter kind before position text o
  | _, _, _, [] => by
      intro o ho
      simp [occurrencesFrom] at ho
  | skip + 1, _, position, c :: rest => by
      intro o ho
      rw [occurrencesFrom] at ho
      exact (occursAfter_of_mem kind skip (some c) (position + 1) rest o ho).cons
  | 0, before, position, c :: rest => by
      intro o ho
      rw [occurrencesFrom] at ho
      cases hr : (if startsWord before then Declared.read? kind (c :: rest) else none) with
      | none =>
          rw [hr] at ho
          exact (occursAfter_of_mem kind 0 (some c) (position + 1) rest o ho).cons
      | some declared =>
          rw [hr] at ho
          rcases List.mem_cons.mp ho with rfl | ho
          · by_cases hs : startsWord before = true
            · rw [if_pos hs] at hr
              obtain ⟨offset, hd, hw⟩ := Declared.read?_eq_some_iff.mp hr
              refine ⟨[], c :: rest, offset, rfl, rfl, ?_, hs, hd⟩
              rw [hw, Nat.add_sub_cancel]
            · rw [if_neg hs] at hr
              cases hr
          · exact (occursAfter_of_mem kind _ (some c) (position + 1) rest o ho).cons

/-- The occurrence is passed over because its keyword is the name of one that is collected. -/
def PassedOver (kind : DeclarationKind) (found : List Occurrence) (o : Occurrence) : Prop :=
  ∃ e ∈ found, e.start < o.start ∧ e.nameStart = o.start ∧ e.name = kind.keyword

theorem PassedOver.cons {kind : DeclarationKind} {found : List Occurrence} {o : Occurrence}
    (h : PassedOver kind found o) (first : Occurrence) : PassedOver kind (first :: found) o := by
  obtain ⟨e, he, h⟩ := h
  exact ⟨e, List.mem_cons_of_mem _ he, h⟩

/-- Every occurrence that does not start among the characters to be skipped is collected or passed
over. -/
theorem mem_or_passedOver (kind : DeclarationKind) :
    ∀ (skip : Nat) (before : Option Char) (position : Nat) (text : List Char) (o : Occurrence),
      OccursAfter kind before position text o → position + skip ≤ o.start →
      o ∈ occurrencesFrom kind skip before position text ∨
        PassedOver kind (occurrencesFrom kind skip before position text) o
  | _, _, _, [] => by
      rintro o ⟨lead, rest, offset, e, -, -, -, hd⟩ -
      exact absurd (List.append_eq_nil_iff.mp e.symm).2 hd.keyword_leads.ne_nil
  | skip + 1, before, position, c :: text => by
      rintro o ⟨lead, rest, offset, e, hs, hn, hw, hd⟩ hskip
      rw [occurrencesFrom]
      cases lead with
      | nil =>
          rw [List.length_nil] at hs
          omega
      | cons d lead =>
          rw [List.cons_append] at e
          obtain ⟨rfl, rfl⟩ := List.cons.inj e
          rw [lastOr_cons] at hw
          rw [List.length_cons] at hs
          exact mem_or_passedOver kind skip (some c) (position + 1) (lead ++ rest) o
            ⟨lead, rest, offset, rfl, by omega, hn, hw, hd⟩ (by omega)
  | 0, before, position, c :: text => by
      rintro o ⟨lead, rest, offset, e, hs, hn, hw, hd⟩ -
      rw [occurrencesFrom]
      cases lead with
      | nil =>
          -- the occurrence stands here, and the reader finds it
          rw [List.nil_append] at e
          rw [lastOr_nil] at hw
          have hread : Declared.read? kind (c :: text) =
              some ⟨o.name, offset + o.name.length⟩ :=
            Declared.read?_eq_some_iff.mpr ⟨offset, by rw [e]; exact hd, rfl⟩
          rw [if_pos hw, hread]
          left
          obtain ⟨start, nameStart, name⟩ := o
          dsimp only [List.length_nil] at hs hn
          subst hn hs
          dsimp only
          rw [Nat.add_sub_cancel]
          exact List.mem_cons_self
      | cons d lead =>
          have hlead : EndsWord (d :: lead) := endsWord_of_startsWord hw
          rw [List.cons_append] at e
          obtain ⟨rfl, rfl⟩ := List.cons.inj e
          rw [lastOr_cons] at hw
          rw [List.length_cons] at hs
          have hrest : OccursAfter kind (some c) (position + 1) (lead ++ rest) o :=
            ⟨lead, rest, offset, rfl, by omega, hn, hw, hd⟩
          cases hr : (if startsWord before then Declared.read? kind (c :: (lead ++ rest)) else none)
            with
          | none => exact mem_or_passedOver kind 0 (some c) (position + 1) _ o hrest (by omega)
          | some declared =>
              obtain ⟨offset', hd', hw'⟩ : ∃ offset', Declares kind offset' declared.name
                  (c :: lead ++ rest) ∧ declared.width = offset' + declared.name.length := by
                by_cases hsw : startsWord before = true
                · rw [if_pos hsw] at hr
                  exact Declared.read?_eq_some_iff.mp hr
                · rw [if_neg hsw] at hr
                  cases hr
              by_cases hlt : (c :: lead).length < declared.width
              · -- it starts inside the declaration found here
                rw [hw'] at hlt
                obtain ⟨hoff, hname⟩ := hd'.overlap hd (by simp) hlead hlt
                rw [List.length_cons] at hoff
                refine .inr ⟨_, List.mem_cons_self, ?_, ?_, hname⟩
                · dsimp only
                  omega
                · dsimp only
                  rw [hw', Nat.add_sub_cancel]
                  omega
              · rw [List.length_cons] at hlt
                rcases mem_or_passedOver kind (declared.width - 1) (some c) (position + 1) _ o hrest
                  (by omega) with h | h
                · exact .inl (List.mem_cons_of_mem _ h)
                · exact .inr (h.cons _)

/-! ### The names of a text -/

theorem mem_dropRepeats {name : String} :
    ∀ {names : List String}, name ∈ dropRepeats names ↔ name ∈ names
  | [] => by simp [dropRepeats]
  | [other] => by simp [dropRepeats]
  | first :: next :: rest => by
      have ih := @mem_dropRepeats name (next :: rest)
      rw [dropRepeats]
      by_cases h : first = next
      · rw [if_pos h, ih, h]
        simp
      · rw [if_neg h, List.mem_cons, ih, ← List.mem_cons]

theorem mem_sortedNames {name : String} {names : List String} :
    name ∈ sortedNames names ↔ name ∈ names := by
  rw [sortedNames, mem_dropRepeats, List.mem_mergeSort]

/-- The names of a kind. -/
def Declarations.names (d : Declarations) : DeclarationKind → List String
  | .variableName => d.variableNames
  | .functionName => d.functionNames
  | .className => d.classNames

theorem Declarations.names_ofText (kind : DeclarationKind) (text : String) :
    (Declarations.ofText text).names kind = declaredNames kind text := by
  cases kind <;> rfl

/-- The names of a text are those of the collected occurrences. -/
theorem Declarations.mem_names_ofText {kind : DeclarationKind} {text name : String} :
    name ∈ (Declarations.ofText text).names kind ↔
      ∃ o ∈ collected kind text.toList, String.ofList o.name = name := by
  rw [Declarations.names_ofText, declaredNames, mem_sortedNames,
    ← map_name_occurrencesFrom kind 0 none 0, List.map_map, List.mem_map]
  rfl

/-- **The names of a text are exact.**  Every name is that of an occurrence of its kind, and the name
of every occurrence is there, unless the occurrence is passed over: then its keyword is the name of
an earlier occurrence that is collected.  What is collected stands in the text, and its names, in
order, are those that the search gives. -/
theorem declarations_exact (kind : DeclarationKind) (text : String) :
    (∀ name ∈ (Declarations.ofText text).names kind,
      ∃ o, Occurs kind text.toList o ∧ String.ofList o.name = name) ∧
    (∀ o, Occurs kind text.toList o →
      (o ∈ collected kind text.toList ∧
        String.ofList o.name ∈ (Declarations.ofText text).names kind) ∨
        PassedOver kind (collected kind text.toList) o) ∧
    (∀ o ∈ collected kind text.toList, Occurs kind text.toList o) ∧
    (collected kind text.toList).map Occurrence.name = namesFrom kind 0 none text.toList := by
  have hstands : ∀ o ∈ collected kind text.toList, Occurs kind text.toList o :=
    occursAfter_of_mem kind 0 none 0 text.toList
  refine ⟨?_, ?_, hstands, map_name_occurrencesFrom kind 0 none 0 text.toList⟩
  · intro name hname
    obtain ⟨o, ho, rfl⟩ := Declarations.mem_names_ofText.mp hname
    exact ⟨o, hstands o ho, rfl⟩
  · intro o ho
    rcases mem_or_passedOver kind 0 none 0 text.toList o ho (by omega) with h | h
    · exact .inl ⟨h, Declarations.mem_names_ofText.mpr ⟨o, h, rfl⟩⟩
    · exact .inr h

/-- In `let let x` the second declaration is passed over: its keyword is the name of the first. -/
theorem declarations_exact_repeated_keyword :
    Occurs .variableName "let let x".toList ⟨4, 8, ['x']⟩ ∧
      PassedOver .variableName (collected .variableName "let let x".toList) ⟨4, 8, ['x']⟩ ∧
      ∃ o, Occurs .variableName "let let x".toList o ∧ String.ofList o.name = "let" := by
  have hfound : collected .variableName "let let x".toList = [⟨0, 4, ['l', 'e', 't']⟩] := by
    decide
  have hoccurs : Occurs .variableName "let let x".toList ⟨4, 8, ['x']⟩ := by
    have hread : Declared.read? .variableName "let x".toList = some ⟨['x'], 5⟩ := by decide
    obtain ⟨offset, hd, hw⟩ := Declared.read?_eq_some_iff.mp hread
    obtain rfl : offset = 4 := by simpa using hw.symm
    exact ⟨"let ".toList, "let x".toList, 4, by decide, rfl, rfl, by decide, hd⟩
  have hname : "let" ∈ (Declarations.ofText "let let x").names .variableName := by
    rw [Declarations.mem_names_ofText, hfound]
    exact ⟨_, List.mem_cons_self, rfl⟩
  obtain ⟨hsound, hcomplete, -⟩ := declarations_exact .variableName "let let x"
  refine ⟨hoccurs, ?_, hsound "let" hname⟩
  rcases hcomplete _ hoccurs with ⟨hmem, -⟩ | hpassed
  · rw [hfound] at hmem
    exact absurd hmem (by decide)
  · exact hpassed

end EditorAssist.Source
