import Mathlib.Data.List.DropRight
import EditorAssist.Assistant
import EditorAssist.Proofs.Occurrence

/-! # Texts that end in a declaration

What a declaration looks like is said twice.  The detector of the cursor looks at the end of a text
and takes a name that is not there yet; the search of a document reads on from each keyword and
jumps over the names that it has found.  Both are compared with one description: a keyword at a word
start announces a name (`Announces`).

* `namesDeclaration_iff`: the detector holds exactly where a name is announced and nothing but name
  characters follow;
* `occurs_iff_announces`: an occurrence whose name ends the text is a name that is announced;
* `detector_agrees_with_search`: a name that the search finds at the end of the text is detected,
  and a detected name is found under the kind of its keyword, unless the search has taken that
  keyword for a name. -/

namespace EditorAssist

open Text

namespace Source

/-! ### The last run of a class -/

/-- A run that ends the text and cannot be longer is the last run of its class. -/
theorem rtakeWhile_append {p : Char → Bool} {lead run : List Char} (hrun : ∀ c ∈ run, p c = true)
    (hlead : ∀ c ∈ lead.getLast?, p c = false) : (lead ++ run).rtakeWhile p = run := by
  have hstop : Stops p lead.reverse := by
    intro c hc
    rw [List.head?_reverse] at hc
    exact hlead c hc
  have hspan := (span_iff.mpr ⟨List.reverse_append, fun c hc => hrun c (List.mem_reverse.mp hc),
    hstop⟩).1
  rw [List.rtakeWhile, hspan, List.reverse_reverse]

theorem isBlank_eq_false_of_isNameChar {c : Char} (h : isNameChar c = true) :
    isBlank c = false := by
  cases hb : isBlank c with
  | false => rfl
  | true =>
      rw [isNameChar_eq_false_of_isBlank hb] at h
      cases h

/-- Name characters are a name if they do not open with a digit. -/
theorem isName_of_not_isDigit {name : List Char} (hrun : ∀ c ∈ name, isNameChar c = true)
    (hne : name ≠ []) (hdigit : ∀ c ∈ name.head?, c.isDigit = false) : IsName name := by
  cases name with
  | nil => exact absurd rfl hne
  | cons c name =>
      refine ⟨hrun, c, rfl, ?_⟩
      have hc := hrun c (by simp)
      have hnot := hdigit c rfl
      simp only [isNameChar, inRanges, List.any_cons, Bool.or_eq_true, Bool.and_eq_true,
        decide_eq_true_eq] at hc
      rcases hc with ⟨hlow, hhigh⟩ | hstart
      · -- the codes of the digits
        have hcode : c.toNat = c.val.toNat := rfl
        simp only [Char.isDigit, UInt32.le_iff_toNat_le, Bool.and_eq_false_iff,
          decide_eq_false_iff_not, ge_iff_le] at hnot
        have hzero : '0'.val.toNat = 48 := rfl
        have hnine : '9'.val.toNat = 57 := rfl
        omega
      · simpa [isNameStart, inRanges] using hstart

/-! ### Announced names -/

/-- What may stand between the blanks after a keyword and the name. -/
inductive Between : DeclarationKind → List Char → Prop
  | nothing {kind : DeclarationKind} : Between kind []
  /-- `const` and further blanks, before the name of a variable. -/
  | const {blanks : List Char} : IsBlanks blanks → Between .variableName (constWord ++ blanks)

/-- At the end of `lead` a name of the kind is expected: after `front` the keyword stands at a word
start, then blanks, and then what may stand between them and the name. -/
def Announces (kind : DeclarationKind) (front lead : List Char) : Prop :=
  ∃ blanks between, lead = front ++ (kind.keyword ++ (blanks ++ between)) ∧
    startsWord front.getLast? = true ∧ IsBlanks blanks ∧ Between kind between

theorem IsBlanks.getLast?_append {blanks : List Char} (h : IsBlanks blanks) (lead : List Char) :
    ∃ c, (lead ++ blanks).getLast? = some c ∧ isBlank c = true := by
  obtain ⟨hne, hrun⟩ := h
  refine ⟨blanks.getLast hne, ?_, hrun _ (List.getLast_mem hne)⟩
  rw [List.getLast?_append, List.getLast?_eq_some_getLast hne, Option.some_or]

/-- A name is announced right after a blank. -/
theorem Announces.getLast? {kind : DeclarationKind} {front lead : List Char}
    (h : Announces kind front lead) : ∃ c, lead.getLast? = some c ∧ isBlank c = true := by
  obtain ⟨blanks, between, rfl, -, hb, hbetween⟩ := h
  cases hbetween with
  | nothing =>
      rw [List.append_nil, ← List.append_assoc]
      exact hb.getLast?_append _
  | const hb' =>
      simp only [← List.append_assoc]
      exact hb'.getLast?_append _

theorem Announces.isNameChar_getLast? {kind : DeclarationKind} {front lead : List Char}
    (h : Announces kind front lead) : ∀ c ∈ lead.getLast?, isNameChar c = false := by
  intro c hc
  obtain ⟨d, hd, hblank⟩ := h.getLast?
  obtain rfl : d = c := Option.some.inj (hd.symm.trans hc)
  exact isNameChar_eq_false_of_isBlank hblank

/-- The announced name characters are the last run of name characters. -/
theorem Announces.rtakeWhile {kind : DeclarationKind} {front lead name : List Char}
    (h : Announces kind front lead) (hname : ∀ c ∈ name, isNameChar c = true) :
    (lead ++ name).rtakeWhile isNameChar = name :=
  rtakeWhile_append hname h.isNameChar_getLast?

/-! ### Occurrences that end the text -/

theorem Introduces.between {kind : DeclarationKind} {between name text : List Char}
    (h : Introduces kind between name text) :
    Between kind between ∧ IsName name ∧ ∃ tail, text = between ++ (name ++ tail) := by
  cases h with
  | name hname _ =>
      obtain ⟨tail, rfl, hn, -⟩ := hname
      exact ⟨.nothing, hn, tail, rfl⟩
  | const hconst =>
      obtain ⟨rest, rfl, hb, tail, rfl, hn, -⟩ := hconst
      exact ⟨.const hb, hn, tail, by rw [List.append_assoc]⟩

/-- A name that ends the text is introduced by whatever may stand before it. -/
theorem Between.introduces {kind : DeclarationKind} {between name : List Char}
    (h : Between kind between) (hname : IsName name) :
    Introduces kind between name (between ++ name) := by
  have hleads : NameLeads name name :=
    ⟨[], (List.append_nil name).symm, hname, fun c hc => by cases hc⟩
  cases h with
  | const hb => exact .const ⟨name, List.append_assoc _ _ _, hb, hleads⟩
  | nothing =>
      refine .name hleads ?_
      rintro - blanks other ⟨rest, e, ⟨hne, hrun⟩, -⟩
      -- the name would hold the blanks after `const`
      obtain ⟨c, hc⟩ := List.exists_mem_of_ne_nil blanks hne
      have hmem : c ∈ [] ++ name := by
        rw [e]
        simp [hc]
      have hblank := isBlank_eq_false_of_isNameChar (hname.1 c hmem)
      rw [hrun c hc] at hblank
      cases hblank

/-- An occurrence whose name ends the text is a name that is announced. -/
theorem occurs_iff_announces {kind : DeclarationKind} {text : List Char} {o : Occurrence}
    (hend : o.nameStart + o.name.length = text.length) :
    Occurs kind text o ↔
      ∃ front lead, text = lead ++ o.name ∧ Announces kind front lead ∧ IsName o.name ∧
        o.start = front.length ∧ o.nameStart = lead.length := by
  constructor
  · rintro ⟨front, rest, offset, rfl, hs, hn, hw, blanks, between, after, rfl, hb, hi, ho⟩
    obtain ⟨hbetween, hname, tail, rfl⟩ := hi.between
    rw [lastOr_none] at hw
    have htail : tail = [] := by
      apply List.eq_nil_of_length_eq_zero
      simp only [List.length_append] at hend
      omega
    subst htail
    refine ⟨front, front ++ (kind.keyword ++ (blanks ++ between)), by simp,
      ⟨blanks, between, rfl, hw, hb, hbetween⟩, hname, by omega, ?_⟩
    simp only [List.length_append]
    omega
  · rintro ⟨front, lead, rfl, ⟨blanks, between, rfl, hw, hb, hbetween⟩, hname, hs, hn⟩
    rw [← lastOr_none] at hw
    refine ⟨front, kind.keyword ++ (blanks ++ (between ++ o.name)), _, by simp, by omega, ?_, hw,
      blanks, between, between ++ o.name, rfl, hb, hbetween.introduces hname, rfl⟩
    simp only [List.length_append] at hn
    omega

end Source

/-! ### The detector -/

namespace Cursor

open Source

theorem endsText_iff {text : List Char} : endsText text = true ↔ text = [] ∨ text = ['\n'] := by
  unfold endsText
  split
  · simp
  · simp
  · simp_all

theorem namesToEnd_iff {text : List Char} :
    namesToEnd text = true ↔
      ∃ name tail, text = name ++ tail ∧ (∀ c ∈ name, isNameChar c = true) ∧
        endsText tail = true := by
  unfold namesToEnd
  constructor
  · intro h
    obtain ⟨e, hrun, -⟩ := span_iff.mp ⟨rfl, rfl⟩
    exact ⟨_, _, e, hrun, h⟩
  · rintro ⟨name, tail, rfl, hrun, htail⟩
    have hstop : Stops isNameChar tail := by
      rcases endsText_iff.mp htail with rfl | rfl
      · intro c hc
        cases hc
      · exact stops_cons.mpr (by decide)
    rw [(span_iff.mpr ⟨rfl, hrun, hstop⟩).2]
    exact htail

theorem namesToEnd_of_forall {name : List Char} (h : ∀ c ∈ name, isNameChar c = true) :
    namesToEnd name = true := namesToEnd_iff.mpr ⟨name, [], by simp, h, rfl⟩

/-- Only a final line break can be a blank here, and it may go as well. -/
theorem namesToEnd_dropWhile_isBlank {text : List Char} (h : namesToEnd text = true) :
    namesToEnd (text.dropWhile isBlank) = true := by
  obtain ⟨name, tail, rfl, hname, htail⟩ := namesToEnd_iff.mp h
  cases name with
  | nil =>
      rcases endsText_iff.mp htail with rfl | rfl
      · rfl
      · decide
  | cons c name =>
      have hc : isBlank c = false := isBlank_eq_false_of_isNameChar (hname c (by simp))
      rw [List.cons_append, dropWhile_of_stops (stops_cons.mpr hc)]
      exact h

/-- A keyword reaches the end of the text over blanks and name characters.  It does not matter how
many of the blanks are counted among those after the keyword. -/
theorem keyword?_any_namesToEnd_iff {word text : List Char} :
    ((keyword? word text).any fun found => namesToEnd found.2) = true ↔
      ∃ blanks ending, text = word ++ (blanks ++ ending) ∧ IsBlanks blanks ∧
        namesToEnd ending = true := by
  rw [Option.any_eq_true]
  constructor
  · rintro ⟨⟨blanks, ending⟩, hk, hend⟩
    obtain ⟨e, hb, -⟩ := keyword?_eq_some_iff.mp hk
    exact ⟨blanks, ending, e, hb, hend⟩
  · rintro ⟨blanks, ending, rfl, hb, hend⟩
    obtain ⟨e, hrun, hstop⟩ := span_iff.mp
      (⟨rfl, rfl⟩ : ending.takeWhile isBlank = _ ∧ ending.dropWhile isBlank = _)
    refine ⟨(blanks ++ ending.takeWhile isBlank, ending.dropWhile isBlank),
      keyword?_eq_some_iff.mpr ⟨?_, ⟨?_, ?_⟩, hstop⟩, namesToEnd_dropWhile_isBlank hend⟩
    · rw [List.append_assoc blanks, ← e]
    · exact fun hnil => hb.1 (List.append_eq_nil_iff.mp hnil).1
    · exact List.forall_mem_append.mpr ⟨hb.2, hrun⟩

/-- `let` is read with or without `const`, the other two keywords alike. -/
theorem declaresToEnd_iff {text : List Char} :
    declaresToEnd text = true ↔
      ∃ kind blanks between ending,
        text = DeclarationKind.keyword kind ++ (blanks ++ (between ++ ending)) ∧ IsBlanks blanks ∧
        Between kind between ∧ namesToEnd ending = true := by
  unfold declaresToEnd
  constructor
  · intro h
    cases hk : keyword? ['l', 'e', 't'] text with
    | some found =>
        obtain ⟨blanks, rest⟩ := found
        obtain ⟨rfl, hb, -⟩ := keyword?_eq_some_iff.mp hk
        rw [hk] at h
        rcases Bool.or_eq_true _ _ |>.mp h with h | h
        · exact ⟨.variableName, blanks, [], rest, rfl, hb, .nothing, h⟩
        · obtain ⟨blanks', ending, rfl, hb', hend⟩ := keyword?_any_namesToEnd_iff.mp h
          refine ⟨.variableName, blanks, constWord ++ blanks', ending, ?_, hb, .const hb', hend⟩
          rw [List.append_assoc constWord]
          rfl
    | none =>
        rw [hk] at h
        rcases Bool.or_eq_true _ _ |>.mp h with h | h
        · obtain ⟨blanks, ending, rfl, hb, hend⟩ := keyword?_any_namesToEnd_iff.mp h
          exact ⟨.functionName, blanks, [], ending, rfl, hb, .nothing, hend⟩
        · obtain ⟨blanks, ending, rfl, hb, hend⟩ := keyword?_any_namesToEnd_iff.mp h
          exact ⟨.className, blanks, [], ending, rfl, hb, .nothing, hend⟩
  · rintro ⟨kind, blanks, between, ending, rfl, hb, hbetween, hend⟩
    cases hbetween with
    | @const blanks' hb' =>
        have hstop : Stops isBlank (constWord ++ blanks' ++ ending) := stops_cons.mpr (by decide)
        have hk : keyword? ['l', 'e', 't'] (DeclarationKind.variableName.keyword ++
            (blanks ++ (constWord ++ blanks' ++ ending))) =
            some (blanks, constWord ++ blanks' ++ ending) :=
          keyword?_eq_some_iff.mpr ⟨rfl, hb, hstop⟩
        have hconst := keyword?_any_namesToEnd_iff.mpr
          ⟨blanks', ending, List.append_assoc constWord blanks' ending, hb', hend⟩
        rw [hk]
        exact Bool.or_eq_true _ _ |>.mpr (.inr hconst)
    | nothing =>
        have hany : ((keyword? kind.keyword (kind.keyword ++ (blanks ++ ending))).any
            fun found => namesToEnd found.2) = true :=
          keyword?_any_namesToEnd_iff.mpr ⟨blanks, ending, rfl, hb, hend⟩
        rw [List.nil_append]
        cases kind with
        | variableName =>
            obtain ⟨⟨blanks', rest⟩, hk, hrest⟩ := Option.any_eq_true _ _ |>.mp hany
            rw [DeclarationKind.keyword] at hk ⊢
            rw [hk]
            exact Bool.or_eq_true _ _ |>.mpr (.inl hrest)
        | functionName => exact Bool.or_eq_true _ _ |>.mpr (.inl hany)
        | className => exact Bool.or_eq_true _ _ |>.mpr (.inr hany)

/-- **The detector of declarations.**  It holds exactly where a name is announced and nothing but
name characters follow, a final line break aside. -/
theorem namesDeclaration_iff (text : List Char) :
    namesDeclaration text = true ↔
      ∃ kind front lead ending, text = lead ++ ending ∧ Announces kind front lead ∧
        namesToEnd ending = true := by
  unfold namesDeclaration
  rw [firstAtWordStart_check_isSome_iff]
  constructor
  · rintro ⟨front, rest, rfl, -, hs, hdeclares⟩
    obtain ⟨kind, blanks, between, ending, rfl, hb, hbetween, hend⟩ :=
      declaresToEnd_iff.mp hdeclares
    refine ⟨kind, front, front ++ (kind.keyword ++ (blanks ++ between)), ending, ?_,
      ⟨blanks, between, rfl, hs, hb, hbetween⟩, hend⟩
    simp only [List.append_assoc]
  · rintro ⟨kind, front, lead, ending, rfl, ⟨blanks, between, rfl, hs, hb, hbetween⟩, hend⟩
    refine ⟨front, kind.keyword ++ (blanks ++ (between ++ ending)), ?_, ?_, hs, ?_⟩
    · simp only [List.append_assoc]
    · cases kind <;> simp [DeclarationKind.keyword]
    · exact declaresToEnd_iff.mpr ⟨kind, blanks, between, ending, rfl, hb, hbetween, hend⟩

/-- The same for a text that does not end in a line break. -/
theorem namesDeclaration_iff_of_getLast? {text : List Char} (h : text.getLast? ≠ some '\n') :
    namesDeclaration text = true ↔
      ∃ kind front lead name, text = lead ++ name ∧ Announces kind front lead ∧
        ∀ c ∈ name, isNameChar c = true := by
  rw [namesDeclaration_iff]
  constructor
  · rintro ⟨kind, front, lead, ending, rfl, ha, hend⟩
    obtain ⟨name, tail, rfl, hname, htail⟩ := namesToEnd_iff.mp hend
    rcases endsText_iff.mp htail with rfl | rfl
    · exact ⟨kind, front, lead, name, by rw [List.append_nil], ha, hname⟩
    · exact absurd (by simp) h
  · rintro ⟨kind, front, lead, name, rfl, ha, hname⟩
    exact ⟨kind, front, lead, name, rfl, ha, namesToEnd_of_forall hname⟩

end Cursor

/-! ### Agreement -/

open Source Cursor

theorem complete_of_namesDeclaration {before : String} (h : namesDeclaration before.toList = true)
    (a : Assistant) (text : String) : (a.complete text before).suggestions = [] := by
  have hspot : Spot.ofText before = .declaration := if_pos h
  simp [Assistant.complete, hspot, Assistant.suggestAt, Answer.ofSuggestions]

/-- **The detector and the search agree on declarations.**  Where the search of a kind finds a name
that ends the text, the cursor stands on a declaration and nothing is suggested.  Where the detector
holds and a name ends the text, a keyword announces that name, and the search has it under the kind
of the keyword, unless the keyword is itself the name of an earlier occurrence that the search has
collected. -/
theorem detector_agrees_with_search (before : String) :
    (∀ kind, ∀ o ∈ collected kind before.toList,
      o.nameStart + o.name.length = before.toList.length →
        Spot.ofText before = .declaration ∧
          ∀ (a : Assistant) (text : String), (a.complete text before).suggestions = []) ∧
    (before.toList.getLast? ≠ some '\n' → namesDeclaration before.toList = true →
      ∀ name, before.toList.rtakeWhile isNameChar = name → name ≠ [] →
        (∀ c ∈ name.head?, c.isDigit = false) →
        (∃ kind front lead, before.toList = lead ++ name ∧ Announces kind front lead) ∧
        ∀ kind front lead, before.toList = lead ++ name → Announces kind front lead →
          String.ofList name ∈ (Declarations.ofText before).names kind ∨
            ∃ o ∈ collected kind before.toList, o.start < front.length ∧
              o.nameStart = front.length ∧ o.name = kind.keyword) := by
  constructor
  · intro kind o ho hend
    have hoccurs : Occurs kind before.toList o := occursAfter_of_mem kind 0 none 0 _ o ho
    obtain ⟨front, lead, e, ha, hname, -⟩ := (occurs_iff_announces hend).mp hoccurs
    have hdetects : namesDeclaration before.toList = true := by
      rw [namesDeclaration_iff]
      exact ⟨kind, front, lead, o.name, e, ha, namesToEnd_of_forall hname.1⟩
    exact ⟨if_pos hdetects, complete_of_namesDeclaration hdetects⟩
  · intro hlast hdetects name hw hne hdigit
    obtain ⟨kind, front, lead, run, e, ha, hrun⟩ :=
      (namesDeclaration_iff_of_getLast? hlast).mp hdetects
    obtain rfl : run = name := by
      rw [← hw, e]
      exact (ha.rtakeWhile hrun).symm
    have hname : IsName run := isName_of_not_isDigit hrun hne hdigit
    refine ⟨⟨kind, front, lead, e, ha⟩, ?_⟩
    intro kind front lead e ha
    have hend : lead.length + run.length = before.toList.length := by rw [e, List.length_append]
    have hoccurs : Occurs kind before.toList ⟨front.length, lead.length, run⟩ :=
      (occurs_iff_announces hend).mpr ⟨front, lead, e, ha, hname, rfl, rfl⟩
    rcases mem_or_passedOver kind 0 none 0 _ _ hoccurs (by omega) with hmem | hpassed
    · exact .inl (Declarations.mem_names_ofText.mpr ⟨_, hmem, rfl⟩)
    · exact .inr hpassed

/-- In `let const x` the search finds `x`, so nothing is suggested.  In `let let x` it does not find
`x`, since it has taken the keyword that announces it for a name. -/
theorem detector_agrees_with_search_repeated_keyword :
    (⟨0, 10, ['x']⟩ ∈ collected .variableName "let const x".toList ∧
      ∀ (a : Assistant) (text : String), (a.complete text "let const x").suggestions = []) ∧
    "x" ∉ (Declarations.ofText "let let x").names .variableName ∧
      ∃ o ∈ collected .variableName "let let x".toList, o.start < 4 ∧ o.nameStart = 4 ∧
        o.name = ['l', 'e', 't'] := by
  have hfound : collected .variableName "let const x".toList = [⟨0, 10, ['x']⟩] := by decide
  have hcollected : collected .variableName "let let x".toList = [⟨0, 4, ['l', 'e', 't']⟩] := by
    decide
  have hmem : (⟨0, 10, ['x']⟩ : Occurrence) ∈ collected .variableName "let const x".toList := by
    rw [hfound]
    exact List.mem_cons_self
  have hmissing : "x" ∉ (Declarations.ofText "let let x").names .variableName := by
    rw [Declarations.mem_names_ofText, hcollected]
    decide
  have hannounced : Announces .variableName "let ".toList "let let ".toList :=
    ⟨[' '], [], by decide +kernel, by decide +kernel, ⟨by decide, List.all_eq_true.mp rfl⟩,
      .nothing⟩
  have hlast : "let let x".toList.getLast? ≠ some '\n' := by decide +kernel
  have hname : "let let x".toList.rtakeWhile isNameChar = ['x'] := by decide +kernel
  refine ⟨⟨hmem, ((detector_agrees_with_search "let const x").1 _ _ hmem (by decide +kernel)).2⟩,
    hmissing, ?_⟩
  obtain ⟨-, hagrees⟩ := (detector_agrees_with_search "let let x").2 hlast (by decide +kernel) ['x']
    hname (by decide) (by rintro c ⟨⟩; rfl)
  exact (hagrees .variableName "let ".toList "let let ".toList (by decide +kernel)
    hannounced).resolve_left hmissing

end EditorAssist
