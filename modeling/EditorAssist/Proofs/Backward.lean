import Mathlib.Data.List.DropRight
import EditorAssist.Proofs.Suppression
import EditorAssist.Proofs.Typing
import EditorAssist.Proofs.Words

/-! # The detectors, read from the end

The detectors of the cursor try every word start from the left.  All that they look for ends the
text, so one pass from its end decides the same, and there is only one place where it can begin:

* `namesDeclaration_iff_endsInDeclaration`: a name, blanks and a keyword are taken away;
* `inImportPath_iff_lastQuote`: what follows the last quote is taken away;
* `receiver_iff_wordAt`: the dot is taken away, and the word at that column is the receiver. -/

namespace EditorAssist.Cursor

open Text Source Document

/-! ### What ends a text -/

/-- A text divides in one way into a run of the class that ends it and a lead that does not end
with the class. -/
theorem rspan_iff {p : Char → Bool} {text lead run : List Char} :
    text.rdropWhile p = lead ∧ text.rtakeWhile p = run ↔
      text = lead ++ run ∧ (∀ c ∈ run, p c = true) ∧ ∀ c ∈ lead.getLast?, p c = false := by
  constructor
  · rintro ⟨rfl, rfl⟩
    refine ⟨List.rdropWhile_append_rtakeWhile.symm, fun c hc => List.mem_rtakeWhile_imp hc, ?_⟩
    intro c hc
    rw [List.rdropWhile, List.getLast?_reverse] at hc
    exact stops_dropWhile p _ c hc
  · rintro ⟨rfl, hrun, hlead⟩
    have htake : (lead ++ run).rtakeWhile p = run := rtakeWhile_append hrun hlead
    have hwhole := List.rdropWhile_append_rtakeWhile (p := p) (l := lead ++ run)
    rw [htake] at hwhole
    exact ⟨List.append_cancel_right hwhole, htake⟩

theorem dropEndWhile_eq_iff {p : Char → Bool} {text lead : List Char} :
    dropEndWhile p text = lead ↔
      ∃ run, text = lead ++ run ∧ (∀ c ∈ run, p c = true) ∧ ∀ c ∈ lead.getLast?, p c = false := by
  constructor
  · intro h
    exact ⟨text.rtakeWhile p, rspan_iff.mp ⟨h, rfl⟩⟩
  · rintro ⟨run, h⟩
    exact (rspan_iff.mpr h).1

/-- What stands before a word that ends the text. -/
def before? (word text : List Char) : Option (List Char) :=
  (after? word.reverse text.reverse).map List.reverse

/-- What stands before the blanks that end the text, if there are any. -/
def beforeBlanks? (text : List Char) : Option (List Char) :=
  match text.rtakeWhile isBlank with
  | [] => none
  | _ => some (text.rdropWhile isBlank)

/-- The word ends the text and stands at a word start. -/
def endsInWord (word text : List Char) : Bool :=
  (before? word text).any fun front => startsWord front.getLast?

theorem before?_eq_some_iff {word text front : List Char} :
    before? word text = some front ↔ text = front ++ word := by
  unfold before?
  rw [Option.map_eq_some_iff]
  constructor
  · rintro ⟨rest, hrest, rfl⟩
    rw [after?_eq_some_iff] at hrest
    simpa using congrArg List.reverse hrest
  · rintro rfl
    exact ⟨front.reverse, after?_eq_some_iff.mpr List.reverse_append, List.reverse_reverse front⟩

theorem endsInWord_iff {word text : List Char} :
    endsInWord word text = true ↔
      ∃ front, text = front ++ word ∧ startsWord front.getLast? = true := by
  simp only [endsInWord, Option.any_eq_true, before?_eq_some_iff]

theorem beforeBlanks?_eq_some_iff {text lead : List Char} :
    beforeBlanks? text = some lead ↔
      ∃ blanks, text = lead ++ blanks ∧ IsBlanks blanks ∧
        ∀ c ∈ lead.getLast?, isBlank c = false := by
  unfold beforeBlanks?
  constructor
  · intro h
    split at h
    · cases h
    · next hne =>
        obtain ⟨e, hrun, hlead⟩ := rspan_iff.mp ⟨Option.some.inj h, rfl⟩
        exact ⟨_, e, ⟨hne, hrun⟩, hlead⟩
  · rintro ⟨blanks, e, ⟨hne, hrun⟩, hlead⟩
    obtain ⟨hdrop, htake⟩ := rspan_iff.mpr ⟨e, hrun, hlead⟩
    rw [htake, hdrop]
    cases blanks with
    | nil => exact absurd rfl hne
    | cons c blanks => rfl

/-! ### Declarations -/

/-- A keyword of a declaration ends the text: one of the three, or `let` with `const` after it. -/
def endsInKeyword (text : List Char) : Bool :=
  endsInWord DeclarationKind.variableName.keyword text ||
    endsInWord DeclarationKind.functionName.keyword text ||
    endsInWord DeclarationKind.className.keyword text ||
    ((before? constWord text).bind beforeBlanks?).any
      (endsInWord DeclarationKind.variableName.keyword)

/-- Read from the end, the text has name characters, if any, then blanks, and then a keyword. -/
def endsInDeclaration (text : List Char) : Bool :=
  (beforeBlanks? (text.rdropWhile isNameChar)).any endsInKeyword

/-- The last character of a word is no blank. -/
theorem isBlank_getLast?_append {word : List Char} (h : IsName word) (front : List Char) :
    ∀ c ∈ (front ++ word).getLast?, isBlank c = false := by
  intro c hc
  obtain ⟨hrun, d, hd, -⟩ := h
  have hne : word ≠ [] := List.ne_nil_of_mem (List.mem_of_mem_head? hd)
  rw [List.getLast?_append, List.getLast?_eq_some_getLast hne, Option.some_or] at hc
  obtain rfl := Option.some.inj hc
  exact isBlank_eq_false_of_isNameChar (hrun _ (List.getLast_mem hne))

theorem endsInKeyword_iff {text : List Char} :
    endsInKeyword text = true ↔
      (∃ kind, endsInWord (DeclarationKind.keyword kind) text = true) ∨
        ∃ lead blanks, text = lead ++ blanks ++ constWord ∧ IsBlanks blanks ∧
          endsInWord DeclarationKind.variableName.keyword lead = true := by
  simp only [endsInKeyword, Bool.or_eq_true, Option.any_eq_true, Option.bind_eq_some_iff,
    before?_eq_some_iff, beforeBlanks?_eq_some_iff]
  constructor
  · rintro (((h | h) | h) | ⟨lead, ⟨_, rfl, blanks, rfl, hb, -⟩, h⟩)
    · exact .inl ⟨_, h⟩
    · exact .inl ⟨_, h⟩
    · exact .inl ⟨_, h⟩
    · exact .inr ⟨lead, blanks, rfl, hb, h⟩
  · rintro (⟨kind, h⟩ | ⟨lead, blanks, rfl, hb, h⟩)
    · left
      cases kind with
      | variableName => exact .inl (.inl h)
      | functionName => exact .inl (.inr h)
      | className => exact .inr h
    · right
      obtain ⟨front, rfl, -⟩ := endsInWord_iff.mp h
      exact ⟨_, ⟨_, rfl, blanks, rfl, hb, isBlank_getLast?_append (isName_keyword _) front⟩, h⟩

/-- A name is announced exactly when blanks end the text, and before them a keyword. -/
theorem exists_announces_iff {lead : List Char} :
    (∃ kind front, Announces kind front lead) ↔
      (beforeBlanks? lead).any endsInKeyword = true := by
  simp only [Option.any_eq_true, beforeBlanks?_eq_some_iff]
  constructor
  · rintro ⟨kind, front, blanks, between, rfl, hs, hb, hbetween⟩
    have hkeyword : endsInWord kind.keyword (front ++ kind.keyword) = true :=
      endsInWord_iff.mpr ⟨front, rfl, hs⟩
    cases hbetween with
    | nothing =>
        refine ⟨front ++ kind.keyword, ⟨blanks, by simp, hb, ?_⟩, ?_⟩
        · exact isBlank_getLast?_append (isName_keyword kind) front
        · exact endsInKeyword_iff.mpr (.inl ⟨kind, hkeyword⟩)
    | @const blanks' hb' =>
        refine ⟨front ++ DeclarationKind.variableName.keyword ++ blanks ++ constWord,
          ⟨blanks', by simp, hb', ?_⟩, ?_⟩
        · exact isBlank_getLast?_append isName_constWord _
        · exact endsInKeyword_iff.mpr (.inr ⟨_, blanks, rfl, hb, hkeyword⟩)
  · rintro ⟨text, ⟨blanks, rfl, hb, -⟩, h⟩
    rcases endsInKeyword_iff.mp h with ⟨kind, h⟩ | ⟨text, blanks', rfl, hb', h⟩
    · obtain ⟨front, rfl, hs⟩ := endsInWord_iff.mp h
      exact ⟨kind, front, blanks, [], by simp, hs, hb, .nothing⟩
    · obtain ⟨front, rfl, hs⟩ := endsInWord_iff.mp h
      exact ⟨.variableName, front, blanks', constWord ++ blanks, by simp, hs, hb', .const hb⟩

theorem endsInDeclaration_iff {text : List Char} :
    endsInDeclaration text = true ↔
      ∃ kind front lead name, text = lead ++ name ∧ Announces kind front lead ∧
        ∀ c ∈ name, isNameChar c = true := by
  unfold endsInDeclaration
  rw [← exists_announces_iff]
  constructor
  · rintro ⟨kind, front, ha⟩
    obtain ⟨e, hname, -⟩ := rspan_iff.mp ⟨rfl, rfl⟩
    exact ⟨kind, front, _, _, e, ha, hname⟩
  · rintro ⟨kind, front, lead, name, rfl, ha, hname⟩
    obtain ⟨hlead, -⟩ := rspan_iff.mpr ⟨rfl, hname, ha.isNameChar_getLast?⟩
    rw [hlead]
    exact ⟨kind, front, ha⟩

/-- **Declarations from the end.**  The detector of declarations holds exactly when name characters,
blanks and a keyword are found in this order from the end of the text, a final line break aside. -/
theorem namesDeclaration_iff_endsInDeclaration (text : List Char) :
    namesDeclaration text = true ↔
      endsInDeclaration text = true ∨
        ∃ shorter, text = shorter ++ ['\n'] ∧ endsInDeclaration shorter = true := by
  rw [namesDeclaration_iff]
  constructor
  · rintro ⟨kind, front, lead, ending, rfl, ha, hend⟩
    obtain ⟨name, tail, rfl, hname, htail⟩ := namesToEnd_iff.mp hend
    have hdeclares : endsInDeclaration (lead ++ name) = true :=
      endsInDeclaration_iff.mpr ⟨kind, front, lead, name, rfl, ha, hname⟩
    rcases endsText_iff.mp htail with rfl | rfl
    · left
      rwa [List.append_nil]
    · right
      exact ⟨lead ++ name, by rw [List.append_assoc], hdeclares⟩
  · rintro (h | ⟨shorter, rfl, h⟩)
    · obtain ⟨kind, front, lead, name, rfl, ha, hname⟩ := endsInDeclaration_iff.mp h
      exact ⟨kind, front, lead, name, rfl, ha, namesToEnd_of_forall hname⟩
    · obtain ⟨kind, front, lead, name, rfl, ha, hname⟩ := endsInDeclaration_iff.mp h
      exact ⟨kind, front, lead, name ++ ['\n'], by rw [List.append_assoc], ha,
        namesToEnd_iff.mpr ⟨name, ['\n'], rfl, hname, rfl⟩⟩

-- A final line break is no blank between keyword and name here, so it has to be taken away first.
example : endsInDeclaration "let x\n".toList = false ∧ endsInDeclaration "let\n".toList = true ∧
    namesDeclaration "let x\n".toList = true := by
  decide +kernel

/-! ### Import paths -/

/-- The last quote of the text, of either kind, has the place. -/
def LastQuoteAt (text : List Char) (place : Nat) : Prop :=
  (∃ quote, text[place]? = some quote ∧ isQuote quote = true) ∧
    ∀ later c, place < later → text[later]? = some c → isQuote c = false

theorem lastQuoteAt_iff {text : List Char} {place : Nat} :
    LastQuoteAt text place ↔
      ∃ lead quote path, text = lead ++ quote :: path ∧ lead.length = place ∧
        isQuote quote = true ∧ ∀ c ∈ path, isQuote c = false := by
  constructor
  · rintro ⟨⟨quote, hquote, hq⟩, hlater⟩
    obtain ⟨hlt, rfl⟩ := List.getElem?_eq_some_iff.mp hquote
    refine ⟨text.take place, text[place], text.drop (place + 1), ?_, ?_, hq, ?_⟩
    · rw [← List.drop_eq_getElem_cons hlt, List.take_append_drop]
    · rw [List.length_take]
      omega
    · intro c hc
      obtain ⟨index, hindex⟩ := List.mem_iff_getElem?.mp hc
      rw [List.getElem?_drop] at hindex
      exact hlater (place + 1 + index) c (by omega) hindex
  · rintro ⟨lead, quote, path, rfl, rfl, hq, hpath⟩
    refine ⟨⟨quote, by simp, hq⟩, ?_⟩
    intro later c hlt hc
    obtain ⟨index, rfl⟩ : ∃ index, later = lead.length + (index + 1) :=
      ⟨later - lead.length - 1, by omega⟩
    rw [List.getElem?_append_right (by omega), Nat.add_sub_cancel_left,
      List.getElem?_cons_succ] at hc
    exact hpath c (List.mem_of_getElem? hc)

theorem exists_lastQuoteAt_iff {text : List Char} :
    (∃ place, LastQuoteAt text place ∧ OpensImport (text.take place)) ↔ QuotesImport text := by
  constructor
  · rintro ⟨place, hlast, hopens⟩
    obtain ⟨lead, quote, path, rfl, rfl, hq, hpath⟩ := lastQuoteAt_iff.mp hlast
    rw [List.take_left] at hopens
    exact ⟨lead, quote, path, rfl, hq, hpath, hopens⟩
  · rintro ⟨lead, quote, path, rfl, hq, hpath, hopens⟩
    refine ⟨lead.length, lastQuoteAt_iff.mpr ⟨lead, quote, path, rfl, rfl, hq, hpath⟩, ?_⟩
    rwa [List.take_left]

/-- A quote that ends the text is the last one. -/
theorem quotesImport_concat_iff {text : List Char} {quote : Char} (hq : isQuote quote = true) :
    QuotesImport (text ++ [quote]) ↔ OpensImport text := by
  constructor
  · rintro ⟨lead, other, path, e, -, hpath, hopens⟩
    rcases lastQuote_cases e hq hpath with rfl | ⟨mid, -, hmid⟩
    · exact hopens
    · exact absurd hmid (by simp)
  · intro hopens
    exact ⟨text, quote, [], rfl, hq, List.forall_mem_nil _, hopens⟩

/-- **Import paths from the last quote.**  The cursor stands in the path of an import exactly when
the text before the last quote, of either kind, ends where a path is expected.  Text without a quote
changes nothing about it, and a further quote starts again: what stands before that one decides. -/
theorem inImportPath_iff_lastQuote (text : List Char) :
    (inImportPath text = true ↔
      ∃ place, LastQuoteAt text place ∧ OpensImport (text.take place)) ∧
    ∀ later, (∀ c ∈ later, isQuote c = false) →
      inImportPath (text ++ later) = inImportPath text ∧
      ∀ quote, isQuote quote = true →
        (inImportPath (text ++ later ++ [quote]) = true ↔ OpensImport (text ++ later)) := by
  refine ⟨?_, fun later hlater => ⟨inImportPath_append hlater, fun quote hq => ?_⟩⟩
  · rw [inImportPath_iff, exists_lastQuoteAt_iff]
  · rw [inImportPath_iff, quotesImport_concat_iff hq]

/-- A path goes on over a line break, and the quote that closes it leads out of it.  A quote after
`import` and a bracket in the path is taken for the first one of a path. -/
theorem inImportPath_iff_lastQuote_reopened :
    inImportPath "import ( 'lib/\na".toList = true ∧ ¬ OpensImport "import ( 'lib/\na".toList ∧
      inImportPath "import ( 'lib/\na'".toList = false ∧
      OpensImport "import ( 'import(".toList := by
  obtain ⟨-, htyped⟩ := inImportPath_iff_lastQuote "import ( '".toList
  obtain ⟨hsame, hclosed⟩ := htyped "lib/\na".toList (by simp [isQuote])
  obtain ⟨-, hreopened⟩ := htyped "import(".toList (by simp [isQuote])
  have hleft : inImportPath "import ( 'lib/\na'".toList = false := by decide +kernel
  refine ⟨hsame.trans (by decide +kernel), ?_, hleft, (hreopened '"' rfl).mp (by decide +kernel)⟩
  intro hopens
  exact absurd (((hclosed '\'' rfl).mpr hopens).symm.trans hleft) (by decide)

/-! ### Receivers -/

/-- A name stands after the lead at a word start, and a dot after the name ends the text. -/
def ReceiverAfter (text lead name : List Char) : Prop :=
  text = lead ++ name ++ ['.'] ∧ startsWord lead.getLast? = true ∧ IsName name

theorem isNameChar_eq_false_of_startsWord {lead : List Char}
    (h : startsWord lead.getLast? = true) : ∀ c ∈ lead.getLast?, isNameChar c = false := by
  intro c hc
  cases hname : isNameChar c with
  | false => rfl
  | true =>
      rw [hc, startsWord, isWordChar_of_isNameChar hname] at h
      cases h

theorem isDigit_eq_false_of_isNameStart {c : Char} (h : isNameStart c = true) :
    c.isDigit = false := by
  simp only [isNameStart, inRanges, nameStartRanges, List.any_cons, List.any_nil, Bool.or_false,
    Bool.or_eq_true, Bool.and_eq_true, decide_eq_true_eq] at h
  rw [← Bool.not_eq_true, Char.isDigit_iff_toNat]
  have hzero : '0'.toNat = 48 := rfl
  have hnine : '9'.toNat = 57 := rfl
  omega

/-- The name before the dot is the last run of name characters, so it starts in one place only. -/
theorem ReceiverAfter.unique {text lead lead' name name' : List Char}
    (h : ReceiverAfter text lead name) (h' : ReceiverAfter text lead' name') :
    lead' = lead ∧ name' = name := by
  obtain ⟨rfl, hs, hname⟩ := h
  obtain ⟨e, hs', hname'⟩ := h'
  have hbody : lead ++ name = lead' ++ name' := List.append_cancel_right e
  have hrun : name = name' := by
    rw [← rtakeWhile_append hname.1 (isNameChar_eq_false_of_startsWord hs), hbody]
    exact rtakeWhile_append hname'.1 (isNameChar_eq_false_of_startsWord hs')
  subst hrun
  exact ⟨(List.append_cancel_right hbody).symm, rfl⟩

theorem receiver?_eq_some_iff {text name : List Char} (h : text.getLast? ≠ some '\n') :
    receiver? text = some name ↔ ∃ lead, ReceiverAfter text lead name := by
  -- whatever the search finds is a receiver; that it finds one at all comes second
  have hfound : ∀ found, receiver? text = some found → ∃ lead, ReceiverAfter text lead found := by
    intro found hfound
    obtain ⟨lead, rest, rfl, -, hs, hread⟩ := exists_of_firstAtWordStart_eq_some hfound
    obtain ⟨hname, tail, rfl, hend⟩ := receiverToEnd?_eq_some_iff.mp hread
    rw [lastOr_none] at hs
    rcases endsText_iff.mp hend with rfl | rfl
    · exact ⟨lead, by simp, hs, hname⟩
    · exact absurd (by simp) h
  refine ⟨hfound name, ?_⟩
  rintro ⟨lead, hafter⟩
  have hsome : (receiver? text).isSome = true := by
    obtain ⟨e, hs, hname⟩ := hafter
    refine (firstAtWordStart_isSome_iff _ _ _).mpr ⟨lead, name ++ ['.'], ?_, by simp, ?_, ?_⟩
    · rw [e, List.append_assoc]
    · rwa [lastOr_none]
    · rw [receiverToEnd?_eq_some_iff.mpr ⟨hname, [], rfl, rfl⟩]
      rfl
  obtain ⟨found, hreceiver⟩ := Option.isSome_iff_exists.mp hsome
  obtain ⟨lead', hafter'⟩ := hfound found hreceiver
  rw [hreceiver, (hafter.unique hafter').2]

/-- The receiver is a word of the line, and ends before the dot. -/
theorem ReceiverAfter.isWordAt {text lead name : List Char} (h : ReceiverAfter text lead name) :
    IsWordAt text name lead.length (text.length - 1) := by
  obtain ⟨rfl, hs, hrun, c, hc, -⟩ := h
  refine ⟨List.ne_nil_of_mem (List.mem_of_mem_head? hc), hrun, lead, ['.'], by simp, rfl, ?_,
    isNameChar_eq_false_of_startsWord hs, stops_cons.mpr (by decide)⟩
  simp only [List.length_append, List.length_singleton]
  omega

/-- A word before the final dot is a receiver if it does not open with a digit and a word can start
there. -/
theorem receiverAfter_of_isWordAt {text name : List Char} {start : Nat}
    (hdot : text.getLast? = some '.') (h : IsWordAt text name start (text.length - 1))
    (hdigit : ∀ c ∈ name.head?, c.isDigit = false)
    (hs : startsWord (text.take start).getLast? = true) :
    ReceiverAfter text (text.take start) name := by
  obtain ⟨hne, hrun, lead, rest, rfl, rfl, hstop, -⟩ := h
  rw [List.take_left] at hs ⊢
  -- one character is left over, which is the dot
  have hlength : rest.length = 1 := by
    simp only [List.length_append] at hstop
    have hpos := List.length_pos_iff.mpr hne
    omega
  obtain ⟨c, rfl⟩ := List.length_eq_one_iff.mp hlength
  obtain rfl : c = '.' := by simpa using hdot
  exact ⟨by simp, hs, isName_of_not_isDigit hrun hne hdigit⟩

/-- A word can start at a place if it is the first, or no word character stands before it. -/
theorem startsWord_take_iff {text : List Char} {start : Nat} (h : start ≤ text.length) :
    startsWord (text.take start).getLast? = true ↔
      start = 0 ∨ ∃ c, text[start - 1]? = some c ∧ isWordChar c = false := by
  rw [List.getLast?_take]
  split
  · next hstart => simp [hstart, startsWord]
  · next hstart =>
      rw [List.getElem?_eq_getElem (by omega), Option.some_or]
      simp [hstart, startsWord]

theorem exists_receiverAfter_iff {text name : List Char} :
    (∃ lead, ReceiverAfter text lead name) ↔
      text.getLast? = some '.' ∧ ∃ start, IsWordAt text name start (text.length - 1) ∧
        (∀ c ∈ name.head?, c.isDigit = false) ∧
        (start = 0 ∨ ∃ c, text[start - 1]? = some c ∧ isWordChar c = false) := by
  constructor
  · rintro ⟨lead, hafter⟩
    have hword := hafter.isWordAt
    obtain ⟨rfl, hs, hname⟩ := hafter
    refine ⟨by simp, lead.length, hword, ?_, ?_⟩
    · obtain ⟨-, c, hc, hstart⟩ := hname
      intro d hd
      obtain rfl : c = d := Option.some.inj (hc.symm.trans hd)
      exact isDigit_eq_false_of_isNameStart hstart
    · rw [← startsWord_take_iff (by simp), List.append_assoc, List.take_left]
      exact hs
  · rintro ⟨hdot, start, hword, hdigit, hs⟩
    have hlength := hword.start_lt_stop
    rw [← startsWord_take_iff (by omega)] at hs
    exact ⟨_, receiverAfter_of_isWordAt hdot hword hdigit hs⟩

theorem wordAt_eq_some_iff {line word : List Char} {start stop column : Nat} :
    wordAt line column = .ok (some ⟨String.ofList word, start, stop⟩) ↔
      IsWordAt line word start stop ∧ start ≤ column ∧ column ≤ stop := by
  have hcolumn : wordAt line column = .ok (wordFromStart line column) := rfl
  rw [hcolumn, Except.ok.injEq, wordFromStart_eq_some_iff]
  constructor
  · rintro ⟨word', start', stop', hat, hlow, hhigh, e⟩
    obtain ⟨hword, hstart, hstop⟩ := Word.mk.inj e
    obtain rfl := String.ofList_injective hword
    obtain rfl : start = start' := by omega
    obtain rfl : stop = stop' := by omega
    exact ⟨hat, hlow, hhigh⟩
  · rintro ⟨hat, hlow, hhigh⟩
    exact ⟨word, start, stop, hat, hlow, hhigh, rfl⟩

/-- The word at the last column ends there, or there is none. -/
theorem wordAt_last_eq_some_iff {text word : List Char} {start : Nat} (h : text ≠ []) :
    wordAt text (text.length - 1) = .ok (some ⟨String.ofList word, start, text.length - 1⟩) ↔
      IsWordAt text word start (text.length - 1) := by
  have hpos := List.length_pos_iff.mpr h
  have hcolumn : (text.length : Int) - 1 = (text.length - 1 : Nat) := by omega
  rw [hcolumn, wordAt_eq_some_iff]
  refine ⟨fun hword => hword.1, fun hword => ⟨hword, ?_, le_refl _⟩⟩
  exact hword.start_lt_stop.le

/-- **Receivers from the dot.**  The receiver at the end of a text that no line break ends is the
word at the column of the final dot, if it does not open with a digit and a word can start there.
It cannot be longer, and there is no other place where a receiver could start. -/
theorem receiver_iff_wordAt (text : List Char) (h : text.getLast? ≠ some '\n') :
    (∀ name, receiver? text = some name ↔
      text.getLast? = some '.' ∧ ∃ start : Nat,
        wordAt text (text.length - 1) = .ok (some ⟨String.ofList name, start, text.length - 1⟩) ∧
        (∀ c ∈ name.head?, c.isDigit = false) ∧
        (start = 0 ∨ ∃ c, text[start - 1]? = some c ∧ isWordChar c = false)) ∧
    ∀ name, receiver? text = some name →
      ∃ lead, ReceiverAfter text lead name ∧ IsWordAt text name lead.length (text.length - 1) ∧
        ∀ lead' name', ReceiverAfter text lead' name' → lead' = lead ∧ name' = name := by
  constructor
  · intro name
    rw [receiver?_eq_some_iff h, exists_receiverAfter_iff]
    refine and_congr_right fun hdot => exists_congr fun start => and_congr_left' ?_
    exact (wordAt_last_eq_some_iff (List.ne_nil_of_mem (List.mem_of_getLast? hdot))).symm
  · intro name hname
    obtain ⟨lead, hafter⟩ := (receiver?_eq_some_iff h).mp hname
    exact ⟨lead, hafter, hafter.isWordAt, fun lead' name' => hafter.unique⟩

/-- In a chain the last name is the receiver.  After a letter beyond ASCII the word at the dot is no
receiver, since no word can start there. -/
theorem receiver_iff_wordAt_chain :
    receiver? "a.b_2.".toList = some "b_2".toList ∧
      wordAt "a.b_2.".toList 5 = .ok (some ⟨"b_2", 2, 5⟩) ∧
    receiver? "éb.".toList = none ∧ wordAt "éb.".toList 2 = .ok (some ⟨"b", 1, 2⟩) := by
  have hchain : wordAt "a.b_2.".toList 5 = .ok (some ⟨"b_2", 2, 5⟩) := by decide +kernel
  have hletter : wordAt "éb.".toList 2 = .ok (some ⟨"b", 1, 2⟩) := by decide +kernel
  have hreceiver := ((receiver_iff_wordAt "a.b_2.".toList (by decide +kernel)).1 "b_2".toList).mpr
    ⟨by decide +kernel, 2, hchain, by rintro c ⟨⟩; rfl, .inr ⟨'.', by decide +kernel⟩⟩
  refine ⟨hreceiver, hchain, ?_, hletter⟩
  rw [Option.eq_none_iff_forall_ne_some]
  intro name hname
  obtain ⟨-, start, hword, -, hs⟩ :=
    ((receiver_iff_wordAt "éb.".toList (by decide +kernel)).1 name).mp hname
  have hsame := Option.some.inj (Except.ok.inj (hletter.symm.trans hword))
  have hstart : (1 : Int) = start := congrArg Word.start hsame
  obtain rfl : start = 1 := by omega
  rcases hs with hzero | ⟨c, hc, hnot⟩
  · cases hzero
  · obtain rfl : 'é' = c := Option.some.inj hc
    exact absurd hnot (by decide +kernel)

end EditorAssist.Cursor
