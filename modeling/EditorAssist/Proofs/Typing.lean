import EditorAssist.Proofs.DeclarationEnd
import EditorAssist.Proofs.ImportPath
import EditorAssist.Proofs.Reading

/-! # Spots while text is typed

With every character that is typed the detectors look at the whole text again.  What they find at
its end changes in few ways:

* `namesDeclaration_append`: name characters go on a declaration;
* `quotesImport_append_iff`: without a quote, the path of an import is neither entered nor left;
* `Mode.outsideCode_read_of_plain`: without quotes and slashes, code is not left;
* `slashesOutside_iff_forall`: two slashes outside the literals are all that no later text undoes;
* `ofText_append`: what becomes of a spot when text is typed after it. -/

namespace EditorAssist

open Text Source Cursor

/-! ### What a spot says of the detectors -/

namespace Spot

theorem ofText_eq_declaration_iff {before : String} :
    ofText before = .declaration ↔ namesDeclaration before.toList = true := by
  unfold ofText
  grind

theorem ofText_eq_importPath_iff {before : String} :
    ofText before = .importPath ↔
      namesDeclaration before.toList = false ∧ inImportPath before.toList = true := by
  unfold ofText
  grind

theorem ofText_eq_member_iff {before receiver : String} :
    ofText before = .member receiver ↔
      namesDeclaration before.toList = false ∧ inImportPath before.toList = false ∧
        inLiteralOrComment before.toList = false ∧
        ∃ name, Cursor.receiver? before.toList = some name ∧ String.ofList name = receiver := by
  unfold ofText
  grind

theorem ofText_eq_general_iff {before : String} :
    ofText before = .general ↔
      namesDeclaration before.toList = false ∧ inImportPath before.toList = false ∧
        inLiteralOrComment before.toList = false ∧ Cursor.receiver? before.toList = none := by
  unfold ofText
  grind

end Spot

/-! ### Declarations -/

namespace Cursor

/-- No line break ends a text that goes on with name characters. -/
theorem getLast?_append_ne {text later : List Char} (h : text.getLast? ≠ some '\n')
    (hlater : ∀ c ∈ later, isNameChar c = true) : (text ++ later).getLast? ≠ some '\n' := by
  intro hlast
  rw [List.getLast?_append] at hlast
  cases hl : later.getLast? with
  | none =>
      rw [hl, Option.none_or] at hlast
      exact h hlast
  | some c =>
      rw [hl, Option.some_or] at hlast
      obtain rfl := Option.some.inj hlast
      exact absurd (hlater _ (List.mem_of_getLast? hl)) (by decide)

/-- Name characters go on the declaration that they are typed after. -/
theorem namesDeclaration_append {text later : List Char} (hlast : text.getLast? ≠ some '\n')
    (h : namesDeclaration text = true) (hlater : ∀ c ∈ later, isNameChar c = true) :
    namesDeclaration (text ++ later) = true := by
  obtain ⟨kind, front, lead, name, rfl, ha, hname⟩ := (namesDeclaration_iff_of_getLast? hlast).mp h
  rw [namesDeclaration_iff_of_getLast? (getLast?_append_ne hlast hlater)]
  exact ⟨kind, front, lead, name ++ later, by rw [List.append_assoc], ha,
    List.forall_mem_append.mpr ⟨hname, hlater⟩⟩

/-- Nothing is declared after a character that is neither a blank nor part of a name. -/
theorem namesDeclaration_eq_false {lead name : List Char} {c : Char} (hc : lead.getLast? = some c)
    (hblank : isBlank c = false) (hrest : isNameChar c = false)
    (hname : ∀ d ∈ name, isNameChar d = true) : namesDeclaration (lead ++ name) = false := by
  have hbreak : lead.getLast? ≠ some '\n' := by
    intro h
    obtain rfl : c = '\n' := Option.some.inj (hc.symm.trans h)
    exact absurd hblank (by decide)
  rw [← Bool.not_eq_true, namesDeclaration_iff_of_getLast? (getLast?_append_ne hbreak hname)]
  rintro ⟨kind, front, lead', name', e, ha, hname'⟩
  have hrun : name = name' := by
    rw [← ha.rtakeWhile hname', ← e]
    refine (rtakeWhile_append hname ?_).symm
    intro d hd
    obtain rfl : c = d := Option.some.inj (hc.symm.trans hd)
    exact hrest
  -- the same name is announced after a blank and stands after `c`
  subst hrun
  obtain rfl : lead = lead' := List.append_cancel_right e
  obtain ⟨d, hd, hb⟩ := ha.getLast?
  obtain rfl : c = d := Option.some.inj (hc.symm.trans hd)
  rw [hblank] at hb
  cases hb

theorem namesDeclaration_eq_false_of_getLast? {text : List Char} {c : Char}
    (hc : text.getLast? = some c) (hblank : isBlank c = false) (hrest : isNameChar c = false) :
    namesDeclaration text = false := by
  rw [← List.append_nil text]
  exact namesDeclaration_eq_false hc hblank hrest (List.forall_mem_nil _)

/-! ### Import paths -/

/-- Without a quote, the path of an import is neither entered nor left. -/
theorem quotesImport_append_iff {text later : List Char} (h : ∀ c ∈ later, isQuote c = false) :
    QuotesImport (text ++ later) ↔ QuotesImport text := by
  constructor
  · rintro ⟨lead, quote, path, e, hq, hpath, hopens⟩
    have hnot : quote ∉ later := by
      intro hmem
      have hfree := h quote hmem
      rw [hq] at hfree
      cases hfree
    rcases List.append_eq_append_iff.mp e with ⟨mid, rfl, hlater⟩ | ⟨mid, rfl, hmid⟩
    · exact absurd (by rw [hlater]; simp) hnot
    · cases mid with
      | nil => exact absurd (by rw [← List.nil_append later, ← hmid]; simp) hnot
      | cons c mid =>
          cases hmid
          exact ⟨lead, quote, mid, rfl, hq, fun c hc => hpath c (List.mem_append_left _ hc), hopens⟩
  · rintro ⟨lead, quote, path, rfl, hq, hpath, hopens⟩
    exact ⟨lead, quote, path ++ later, by simp, hq, List.forall_mem_append.mpr ⟨hpath, h⟩, hopens⟩

theorem inImportPath_append {text later : List Char} (h : ∀ c ∈ later, isQuote c = false) :
    inImportPath (text ++ later) = inImportPath text := by
  rw [Bool.eq_iff_iff, inImportPath_iff, inImportPath_iff, quotesImport_append_iff h]

/-! ### Receivers -/

theorem receiverToEnd?_eq_some_iff {text name : List Char} :
    receiverToEnd? text = some name ↔
      IsName name ∧ ∃ tail, text = name ++ '.' :: tail ∧ endsText tail = true := by
  have hdot : isNameChar '.' = false := by decide
  unfold receiverToEnd?
  constructor
  · intro h
    cases hn : name? text with
    | none =>
        rw [hn] at h
        cases h
    | some found =>
        rw [hn] at h
        obtain ⟨rest, rfl, hname, -⟩ := name?_eq_some_iff.mp hn
        dsimp only at h
        rw [List.drop_left] at h
        split at h
        · next tail =>
            by_cases hend : endsText tail = true
            · rw [if_pos hend] at h
              obtain rfl := Option.some.inj h
              exact ⟨hname, tail, rfl, hend⟩
            · rw [if_neg hend] at h
              cases h
        · cases h
  · rintro ⟨hname, tail, rfl, hend⟩
    rw [name?_eq_some_iff.mpr ⟨'.' :: tail, rfl, hname, stops_cons.mpr hdot⟩]
    dsimp only
    rw [List.drop_left]
    exact if_pos hend

/-- A receiver is found only before a dot that ends the text, a final line break aside. -/
theorem receiver?_isSome {text : List Char} (h : (receiver? text).isSome = true) :
    ∃ lead tail, text = lead ++ '.' :: tail ∧ endsText tail = true := by
  unfold receiver? at h
  obtain ⟨lead, rest, rfl, -, -, hread⟩ := (firstAtWordStart_isSome_iff _ _ _).mp h
  obtain ⟨name, hname⟩ := Option.isSome_iff_exists.mp hread
  obtain ⟨-, tail, rfl, hend⟩ := receiverToEnd?_eq_some_iff.mp hname
  exact ⟨lead ++ name, tail, by rw [List.append_assoc], hend⟩

theorem receiver?_eq_none {text : List Char} {c : Char} (hc : text.getLast? = some c)
    (hdot : c ≠ '.') (hbreak : c ≠ '\n') : receiver? text = none := by
  rw [← Option.not_isSome_iff_eq_none]
  intro h
  obtain ⟨lead, tail, rfl, hend⟩ := receiver?_isSome h
  rcases endsText_iff.mp hend with rfl | rfl
  · exact hdot (by simpa using hc.symm)
  · exact hbreak (by simpa using hc.symm)

end Cursor

/-! ### Literals and comments -/

namespace Source

/-- A character that neither opens a literal nor helps to open a comment. -/
def Plain (c : Char) : Prop := isQuote c = false ∧ c ≠ '/'

theorem plain_of_isNameChar {c : Char} (h : isNameChar c = true) : Plain c := by
  constructor
  · cases hq : isQuote c with
    | false => rfl
    | true =>
        rcases Bool.or_eq_true _ _ |>.mp hq with e | e
        · rw [beq_iff_eq.mp e] at h
          exact absurd h (by decide)
        · rw [beq_iff_eq.mp e] at h
          exact absurd h (by decide)
  · rintro rfl
    exact absurd h (by decide)

theorem Mode.outsideCode_step_of_plain {m : Mode} {c : Char} (hm : m.outsideCode = false)
    (hc : Plain c) : (m.step c).outsideCode = false := by
  have hcode : ofCode c = .code := by
    unfold ofCode
    rw [if_neg (by simp [hc.1]), if_neg hc.2]
  cases m with
  | code => rw [step, hcode, outsideCode]
  | slash => rw [step, if_neg hc.2, hcode, outsideCode]
  | literal quote => cases hm
  | comment => cases hm

/-- Without quotes and slashes, code is not left. -/
theorem Mode.outsideCode_read_of_plain {m : Mode} {text : List Char} (hm : m.outsideCode = false)
    (h : ∀ c ∈ text, Plain c) : (m.read text).outsideCode = false := by
  induction text generalizing m with
  | nil => exact hm
  | cons c text ih =>
      rw [read_cons]
      exact ih (outsideCode_step_of_plain hm (h c (by simp)))
        (fun d hd => h d (List.mem_cons_of_mem _ hd))

theorem outsideCode_read_code (text : List Char) :
    (Mode.code.read text).outsideCode = inLiteralOrComment text := Mode.outsideCode_read .code text

/-- Text without quotes and slashes does not lead from code into a literal or a comment. -/
theorem inLiteralOrComment_append {text later : List Char} (h : inLiteralOrComment text = false)
    (hlater : ∀ c ∈ later, Plain c) : inLiteralOrComment (text ++ later) = false := by
  rw [← outsideCode_read_code] at h ⊢
  rw [Mode.read_append]
  exact Mode.outsideCode_read_of_plain h hlater

open Piece

/-- Two slashes stand outside the literals: all that comes before them is closed. -/
def SlashesOutside (text : List Char) : Prop :=
  ∃ pieces rest, text = spell pieces ++ '/' :: '/' :: rest

/-- The first two slashes outside the literals open a comment, be they these or earlier ones. -/
theorem SlashesOutside.opensComment {text : List Char} (h : SlashesOutside text) :
    opensComment none text = true := by
  obtain ⟨pieces, rest, rfl⟩ := h
  induction pieces with
  | nil => exact opensComment_slashes rest
  | cons p pieces ih =>
      cases p with
      | plain c free =>
          rw [spell_plain]
          by_cases hs : c = '/' ∧ (spell pieces ++ '/' :: '/' :: rest).head? = some '/'
          · obtain ⟨rfl, hh⟩ := hs
            obtain ⟨tail, e⟩ := List.head?_eq_some_iff.mp hh
            rw [e]
            exact opensComment_slashes tail
          · rw [opensComment_plain free hs]
            exact ih
      | literal quote body opens free =>
          rw [spell_literal, opensComment_quote opens, opensComment_closed free]
          exact ih

theorem SlashesOutside.append {text : List Char} (h : SlashesOutside text) (later : List Char) :
    SlashesOutside (text ++ later) := by
  obtain ⟨pieces, rest, rfl⟩ := h
  exact ⟨pieces, rest ++ later, by simp⟩

theorem OpensComment.slashesOutside {text : List Char} (h : OpensComment text) :
    SlashesOutside text := by
  obtain ⟨pieces, rest, -, e⟩ := h
  exact ⟨pieces, rest, e⟩

/-- A quote does not make the slashes of a text. -/
theorem SlashesOutside.of_concat {text : List Char} {quote : Char} (hq : isQuote quote = true)
    (h : SlashesOutside (text ++ [quote])) : SlashesOutside text := by
  obtain ⟨pieces, rest, e⟩ := h
  rcases List.eq_nil_or_concat rest with rfl | ⟨rest, c, rfl⟩
  · have hlast : quote = '/' := by simpa using congrArg List.getLast? e
    rw [hlast] at hq
    exact absurd hq (by decide)
  · refine ⟨pieces, rest, ?_⟩
    simp only [List.concat_eq_append, ← List.cons_append, ← List.append_assoc] at e
    exact (List.append_inj' e rfl).1

/-- **What no later text undoes.**  The end of a text stays outside code, whatever follows, exactly
when two slashes stand outside the literals of the text.  An open literal can still be closed. -/
theorem slashesOutside_iff_forall (text : List Char) :
    SlashesOutside text ↔ ∀ later, inLiteralOrComment (text ++ later) = true := by
  constructor
  · intro h later
    unfold inLiteralOrComment
    rw [(h.append later).opensComment, Bool.or_true]
  · intro h
    have hnow := h []
    rw [List.append_nil, inLiteralOrComment, Bool.or_eq_true] at hnow
    rcases hnow with hopen | hcomment
    · obtain ⟨pieces, quote, body, hq, hbody, rfl⟩ := (openQuote_isSome_iff text).mp hopen
      -- the quote that closes the literal leads back into code
      have hclosed : openQuote none (spell pieces ++ quote :: body ++ [quote]) = none := by
        rw [List.append_assoc, openQuote_spell, List.cons_append, openQuote_quote hq,
          openQuote_closed hbody]
        rfl
      have hafter := h [quote]
      rw [inLiteralOrComment, hclosed, Option.isSome_none, Bool.false_or, opensComment_iff]
        at hafter
      exact hafter.slashesOutside.of_concat hq
    · exact ((opensComment_iff text).mp hcomment).slashesOutside

end Source

/-! ### Typing -/

/-- The end of a text after which a receiver is found, when no line break ends it. -/
theorem getLast?_of_member {before receiver : String} (hlast : before.toList.getLast? ≠ some '\n')
    (h : Spot.ofText before = .member receiver) : before.toList.getLast? = some '.' := by
  obtain ⟨-, -, -, name, hname, -⟩ := Spot.ofText_eq_member_iff.mp h
  obtain ⟨lead, tail, e, hend⟩ := receiver?_isSome (Option.isSome_of_eq_some hname)
  rw [e] at hlast ⊢
  rcases endsText_iff.mp hend with rfl | rfl
  · simp
  · exact absurd (by simp) hlast

/-- After a receiver and its dot, text without quotes and slashes leads to a spot of no special
kind, as soon as it ends neither in a declaration nor in a dot. -/
theorem ofText_append_of_member {before receiver later : String}
    (h : Spot.ofText before = .member receiver) (hplain : ∀ c ∈ later.toList, Plain c)
    (hdeclares : namesDeclaration (before ++ later).toList = false)
    (hreceiver : receiver? (before ++ later).toList = none) :
    Spot.ofText (before ++ later) = .general := by
  obtain ⟨-, himport, hcode, -⟩ := Spot.ofText_eq_member_iff.mp h
  refine Spot.ofText_eq_general_iff.mpr ⟨hdeclares, ?_, ?_, hreceiver⟩
  · rw [String.toList_append, inImportPath_append fun c hc => (hplain c hc).1]
    exact himport
  · rw [String.toList_append]
    exact inLiteralOrComment_append hcode hplain

/-- A member that is being typed. -/
theorem ofText_append_name {before receiver later : String}
    (hlast : before.toList.getLast? ≠ some '\n') (h : Spot.ofText before = .member receiver)
    (hne : later ≠ "") (hlater : ∀ c ∈ later.toList, isNameChar c = true) :
    Spot.ofText (before ++ later) = .general := by
  have hne' : later.toList ≠ [] := by simpa using hne
  have hend : (before ++ later).toList.getLast? = some (later.toList.getLast hne') := by
    rw [String.toList_append, List.getLast?_append, List.getLast?_eq_some_getLast hne',
      Option.some_or]
  have hname := hlater _ (List.getLast_mem hne')
  apply ofText_append_of_member h fun c hc => plain_of_isNameChar (hlater c hc)
  · rw [String.toList_append]
    exact namesDeclaration_eq_false (getLast?_of_member hlast h) (by decide) (by decide) hlater
  · apply receiver?_eq_none hend
    · intro e
      rw [e] at hname
      exact absurd hname (by decide)
    · intro e
      rw [e] at hname
      exact absurd hname (by decide)

/-- A member that has been put in with its brackets. -/
theorem ofText_append_call {before receiver later : String}
    (h : Spot.ofText before = .member receiver) (hlater : ∀ c ∈ later.toList, isNameChar c = true) :
    Spot.ofText (before ++ (later ++ "()")) = .general := by
  have hend : (before ++ (later ++ "()")).toList.getLast? = some ')' := by
    simp [String.toList_append]
  have hbrackets : ∀ c ∈ "()".toList, Plain c := by
    intro c hc
    have hc' : c = '(' ∨ c = ')' := by simpa using hc
    rcases hc' with rfl | rfl
    · exact ⟨by decide, by decide⟩
    · exact ⟨by decide, by decide⟩
  apply ofText_append_of_member h
  · rw [String.toList_append]
    exact List.forall_mem_append.mpr ⟨fun c hc => plain_of_isNameChar (hlater c hc), hbrackets⟩
  · exact namesDeclaration_eq_false_of_getLast? hend (by decide) (by decide)
  · exact receiver?_eq_none hend (by decide) (by decide)

/-- **What becomes of a spot when text is typed after it.**  Name characters go on a declaration.
Without a quote, the path of an import is not left, though a declaration in it comes first.  After a
receiver and its dot, name characters lead to a spot of no special kind, and so do the brackets that
are put in with them.  A comment, and nothing else, is outside code for good. -/
theorem ofText_append (before later : String) :
    (before.toList.getLast? ≠ some '\n' → Spot.ofText before = .declaration →
      (∀ c ∈ later.toList, isNameChar c = true) → Spot.ofText (before ++ later) = .declaration) ∧
    (Spot.ofText before = .importPath → (∀ c ∈ later.toList, isQuote c = false) →
      inImportPath (before ++ later).toList = true ∧
        Spot.ofText (before ++ later) =
          if namesDeclaration (before ++ later).toList then .declaration else .importPath) ∧
    (before.toList.getLast? ≠ some '\n' → ∀ receiver, Spot.ofText before = .member receiver →
      later ≠ "" → (∀ c ∈ later.toList, isNameChar c = true) →
        Spot.ofText (before ++ later) = .general ∧
          Spot.ofText (before ++ later ++ "()") = .general) ∧
    (SlashesOutside before.toList ↔
      ∀ rest : String, inLiteralOrComment (before ++ rest).toList = true) := by
  refine ⟨?_, ?_, ?_, ?_⟩
  · intro hlast h hlater
    rw [Spot.ofText_eq_declaration_iff] at h ⊢
    rw [String.toList_append]
    exact namesDeclaration_append hlast h hlater
  · intro h hlater
    have himport : inImportPath (before ++ later).toList = true := by
      rw [String.toList_append, inImportPath_append hlater]
      exact (Spot.ofText_eq_importPath_iff.mp h).2
    refine ⟨himport, ?_⟩
    unfold Spot.ofText
    rw [if_pos himport]
  · intro hlast receiver h hne hlater
    rw [String.append_assoc]
    exact ⟨ofText_append_name hlast h hne hlater, ofText_append_call h hlater⟩
  · rw [slashesOutside_iff_forall]
    constructor
    · intro h rest
      rw [String.toList_append]
      exact h rest.toList
    · intro h rest
      have hrest := h (String.ofList rest)
      rwa [String.toList_append, String.toList_ofList] at hrest

/-- A name, a declaration in a path, a member and a comment that are typed on. -/
theorem ofText_append_typed :
    Spot.ofText "let const x" = .declaration ∧ Spot.ofText ("let const x" ++ "_1") = .declaration ∧
    Spot.ofText "import(\"" = .importPath ∧ Spot.ofText ("import(\"" ++ "let x") = .declaration ∧
    Spot.ofText "(window." = .member "window" ∧ Spot.ofText ("(window." ++ "fill") = .general ∧
      Spot.ofText ("(window." ++ "fill" ++ "()") = .general ∧
    SlashesOutside "'a' // 'b".toList ∧ inLiteralOrComment ("'a' // 'b" ++ "'").toList = true := by
  have hdeclares : Spot.ofText "let const x" = .declaration := by decide +kernel
  have himports : Spot.ofText "import(\"" = .importPath := by decide +kernel
  have hmember : Spot.ofText "(window." = .member "window" := by decide +kernel
  have hslashes : SlashesOutside "'a' // 'b".toList :=
    ⟨[.literal '\'' ['a'] rfl (by decide), .plain ' ' rfl], [' ', '\'', 'b'], by decide +kernel⟩
  have hpath := ((ofText_append "import(\"" "let x").2.1 himports (by simp [isQuote])).2
  rw [if_pos (by decide +kernel)] at hpath
  obtain ⟨hname, hcall⟩ := (ofText_append "(window." "fill").2.2.1 (by decide +kernel) "window"
    hmember (by decide +kernel) (List.all_eq_true.mp rfl)
  have hgrown := (ofText_append _ "_1").1 (by decide +kernel) hdeclares (List.all_eq_true.mp rfl)
  exact ⟨hdeclares, hgrown, himports, hpath, hmember, hname, hcall, hslashes,
    (ofText_append _ "").2.2.2.mp hslashes "'"⟩

end EditorAssist
