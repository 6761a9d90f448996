import EditorAssist.Proofs.Hovering
import EditorAssist.Proofs.Walking

/-! # The lines that requests share

A text is cut into lines at its line feeds, and nothing is lost: the lines, joined again, are the
text.  Suggestions are made from the part of a line before the position, and hovers from the word at
it.  Both read the line as it is shown, without the carriage returns at its end.

* `WithoutReturns`: a line as it is stored and as it is shown;
* `textBefore_natCast`, `textBefore_eq_error_iff`: what stands before a column, and which line
  numbers cannot be read;
* `ReadsLine`: what both kinds of request read of a line;
* `requests_share_lines`: all of this for a document of a store. -/

namespace EditorAssist

namespace Document

variable {text : String} {visible : List Char}

/-! ### Lines as they are shown -/

/-- The shown line is the stored one without the carriage returns at its end. -/
def WithoutReturns (stored shown : List Char) : Prop :=
  (∃ count, stored = shown ++ List.replicate count '\r') ∧ shown.getLast? ≠ some '\r'

theorem withoutReturns_shown (stored : List Char) : WithoutReturns stored (shown stored) := by
  obtain ⟨returns, hstored, hreturns, hlast⟩ :=
    Cursor.dropEndWhile_eq_iff.mp (rfl : shown stored = _)
  refine ⟨⟨returns.length, ?_⟩, ?_⟩
  · have hsame : returns = List.replicate returns.length '\r' := by
      rw [List.eq_replicate_iff]
      simpa using hreturns
    rw [← hsame]
    exact hstored
  · intro hreturn
    simpa using hlast '\r' hreturn

theorem notMem_of_mem_lines (h : visible ∈ lines text) : '\n' ∉ visible := by
  obtain ⟨stored, hstored, rfl⟩ := List.mem_map.mp h
  obtain ⟨⟨count, hwhole⟩, -⟩ := withoutReturns_shown stored
  intro hmem
  refine Text.notMem_of_mem_split hstored ?_
  rw [hwhole]
  exact List.mem_append_left _ hmem

/-! ### The line with a number -/

theorem length_lines (text : String) : (lines text).length = (storedLines text).length :=
  List.length_map _

theorem line?_eq_error_iff {number : Int} {e : Missing} :
    line? text number = .error e ↔
      number < -(storedLines text).length ∧ e = .ofBack number.natAbs .line := by
  rw [← length_lines]
  cases number with
  | ofNat number =>
      refine ⟨fun h => ?_, fun h => absurd h.1 (by simp)⟩
      cases h
  | negSucc back =>
      by_cases hback : back < (lines text).length
      · have hline : line? text (.negSucc back) = .ok _ := if_pos hback
        rw [hline]
        refine ⟨fun h => ?_, fun h => absurd h.1 (by omega)⟩
        cases h
      · have hline : line? text (.negSucc back) = .error _ := if_neg hback
        rw [hline, Except.error.injEq]
        refine ⟨fun h => ⟨by omega, h.symm⟩, fun h => h.2.symm⟩

theorem mem_lines_of_line? {number : Int} (h : line? text number = .ok (some visible)) :
    visible ∈ lines text := by
  cases number with
  | ofNat number =>
      exact List.mem_of_getElem? (Except.ok.inj h)
  | negSucc back =>
      by_cases hback : back < (lines text).length
      · have hline : line? text (.negSucc back) = .ok _ := if_pos hback
        exact List.mem_of_getElem? (Except.ok.inj (hline.symm.trans h))
      · have hline : line? text (.negSucc back) = .error _ := if_neg hback
        cases hline.symm.trans h

/-! ### What stands before a column -/

theorem takeTo_natCast (line : List Char) (column : Nat) :
    takeTo line column = line.take column := by
  rw [takeTo, clamp_natCast, ← List.take_eq_take_min]

theorem textBefore_natCast (text : String) (number column : Nat) :
    textBefore text number column =
      .ok ((lines text)[number]?.map fun line => String.ofList (line.take column)) := by
  simp only [← takeTo_natCast]
  rfl

theorem textBefore_eq_error_iff {number column : Int} {e : Missing} :
    textBefore text number column = .error e ↔
      number < -(storedLines text).length ∧ e = .ofBack number.natAbs .line := by
  rw [← line?_eq_error_iff, textBefore]
  cases line? text number with
  | error e' => simp [Except.map]
  | ok found => simp [Except.map]

theorem textBefore_eq_some_iff {number column : Int} {before : String} :
    textBefore text number column = .ok (some before) ↔
      ∃ visible, line? text number = .ok (some visible) ∧
        before = String.ofList (takeTo visible column) := by
  rw [textBefore]
  cases line? text number with
  | error e' => simp [Except.map]
  | ok found => cases found <;> simp [Except.map, eq_comm]

theorem notMem_of_textBefore {number column : Int} {before : String}
    (h : textBefore text number column = .ok (some before)) : '\n' ∉ before.toList := by
  obtain ⟨visible, hline, rfl⟩ := textBefore_eq_some_iff.mp h
  rw [String.toList_ofList]
  intro hmem
  exact notMem_of_mem_lines (mem_lines_of_line? hline) (List.mem_of_mem_take hmem)

/-- What stands before a column is the beginning of what stands before a later one. -/
theorem textBefore_of_le {number : Int} {column later : Nat} {before : String}
    (hle : column ≤ later) (h : textBefore text number column = .ok (some before)) :
    ∃ between, textBefore text number later = .ok (some (before ++ between)) := by
  obtain ⟨visible, hline, rfl⟩ := textBefore_eq_some_iff.mp h
  refine ⟨String.ofList ((visible.take later).drop column), ?_⟩
  rw [textBefore_eq_some_iff]
  refine ⟨visible, hline, ?_⟩
  rw [takeTo_natCast, takeTo_natCast, ← String.ofList_append, ← Nat.min_eq_left hle,
    ← List.take_take, Nat.min_eq_left hle, List.take_append_drop]

/-- The lines are never none, no line holds a line feed, and joined by line feeds they are the
text. -/
structure CutsAtLineFeeds (text : String) (stored : List (List Char)) : Prop where
  ne_nil : stored ≠ []
  notMem : ∀ line ∈ stored, '\n' ∉ line
  joined : String.ofList (['\n'].intercalate stored) = text

theorem cutsAtLineFeeds (text : String) : CutsAtLineFeeds text (storedLines text) where
  ne_nil := List.cons_ne_nil _ _
  notMem := fun _ h => Text.notMem_of_mem_split h
  joined := by rw [storedLines, Text.intercalate_split, String.ofList_toList]

end Document

namespace Session

open Document

variable {a : Assistant} {store : Store} {uri text : String}

/-- The part of a numbered line before a column, in a document of the store. -/
def Store.textBefore (store : Store) (uri : String) (line column : Int) :
    Except Missing (Option String) :=
  match store.get? uri with
  | none => .ok none
  | some text => Document.textBefore text line column

theorem Store.textBefore_of_get? (h : store.get? uri = some text) :
    store.textBefore uri = Document.textBefore text := by
  funext line column
  rw [Store.textBefore, h]

/-- Both kinds of request about a numbered line read the same characters: suggestions those before
the column, and hovers the word among them that touches the column. -/
structure ReadsLine (a : Assistant) (store : Store) (uri text : String) (number : Nat)
    (visible : List Char) : Prop where
  before : ∀ column : Nat,
    store.textBefore uri number column = .ok (some (String.ofList (visible.take column)))
  suggestions : ∀ column : Nat,
    suggestionsIn a store uri ⟨number, column⟩ =
      a.complete text (String.ofList (visible.take column))
  hover : ∀ column : Nat,
    hoverIn a store uri ⟨number, column⟩ =
      (wordFromStart visible column).bind fun word =>
        (a.explain word.text).map fun entry =>
          ⟨entry, entry.markdown, number, word.start, word.stop⟩

theorem readsLine (a : Assistant) (h : store.get? uri = some text) {number : Nat}
    {visible : List Char} (hline : (lines text)[number]? = some visible) :
    ReadsLine a store uri text number visible := by
  have hbefore : ∀ column : Nat, Document.textBefore text number column =
      .ok (some (String.ofList (visible.take column))) := by
    intro column
    rw [textBefore_natCast, hline, Option.map_some]
  constructor
  · intro column
    rw [Store.textBefore_of_get? h, hbefore]
  · intro column
    simp only [suggestionsIn, h, suggestionsOn, textBefore?, hbefore]
  · intro column
    simp only [hoverIn, h, hoverOn, wordAt?, hline, Option.bind_some]
    cases wordFromStart visible column <;> rfl

theorem requests_past_lines (a : Assistant) (h : store.get? uri = some text) {p : Position}
    (hpast : (lines text).length ≤ p.line) :
    suggestionsIn a store uri p = .ofSuggestions [] ∧ hoverIn a store uri p = none := by
  have hline : (lines text)[p.line]? = none := List.getElem?_eq_none_iff.mpr hpast
  constructor
  · simp only [suggestionsIn, h, suggestionsOn, textBefore?, textBefore_natCast, hline,
      Option.map_none]
  · simp only [hoverIn, h, hoverOn, wordAt?, hline, Option.bind_none]

/-- The word that a hover shows stands between what is before its first and before its last
column. -/
theorem textBefore_of_hoverIn {p : Position} {hover : Hover} (h : store.get? uri = some text)
    (hhover : hoverIn a store uri p = some hover) :
    ∃ word before, wordAt? text p = some ⟨word, hover.start, hover.stop⟩ ∧
      store.textBefore uri p.line hover.start = .ok (some before) ∧
      store.textBefore uri p.line hover.stop = .ok (some (before ++ word)) := by
  have hon : hoverOn a text p = some hover := by rw [← hhover, hoverIn, h]
  obtain ⟨visible, hline, hfits⟩ := hoverOn_eq_some_iff.mp hon
  obtain ⟨word, start, stop, hstart, hstop, hword, -⟩ := hfits.word
  have hlow := hfits.start_le
  have hhigh := hfits.le_stop
  have hreads := readsLine a h hline
  refine ⟨String.ofList word, String.ofList (visible.take start), ?_, ?_, ?_⟩
  · rw [wordAt?, hline, Option.bind_some, wordFromStart_eq_some_iff]
    exact ⟨word, start, stop, hword, by omega, by omega, by rw [hstart, hstop]⟩
  · rw [hstart, hreads.before]
  · rw [hstop, hreads.before, hword.take_stop, String.ofList_append]

/-- **Requests share their lines.**  The lines of an open document are its text, cut at the line
feeds.  There is something before a column exactly on these lines: the first characters of the line
as it is shown, which is the line that suggestions and hovers read.  It holds no line feed, it grows
with the column, and between the columns of a word that a hover shows it grows by that word.  Only a
line that is counted back beyond the first one cannot be read. -/
theorem requests_share_lines (a : Assistant) {store : Store} {uri text : String}
    (h : store.get? uri = some text) :
    CutsAtLineFeeds text (storedLines text) ∧
    (∀ number column : Nat,
      (store.textBefore uri number column = .ok none ↔ (storedLines text).length ≤ number) ∧
      ((storedLines text).length ≤ number →
        suggestionsIn a store uri ⟨number, column⟩ = .ofSuggestions [] ∧
          hoverIn a store uri ⟨number, column⟩ = none)) ∧
    (∀ (number : Nat) (stored : List Char), (storedLines text)[number]? = some stored →
      ∃ visible, WithoutReturns stored visible ∧ ReadsLine a store uri text number visible) ∧
    (∀ (line column : Int) (before : String),
      store.textBefore uri line column = .ok (some before) → '\n' ∉ before.toList) ∧
    (∀ (line : Int) (column later : Nat) (before : String), column ≤ later →
      store.textBefore uri line column = .ok (some before) →
      ∃ between, store.textBefore uri line later = .ok (some (before ++ between))) ∧
    (∀ p hover, hoverIn a store uri p = some hover →
      ∃ word before, wordAt? text p = some ⟨word, hover.start, hover.stop⟩ ∧
        store.textBefore uri p.line hover.start = .ok (some before) ∧
        store.textBefore uri p.line hover.stop = .ok (some (before ++ word))) ∧
    (∀ (line column : Int) (e : Missing), store.textBefore uri line column = .error e ↔
      line < -(storedLines text).length ∧ e = .ofBack line.natAbs .line) := by
  have hsame := Store.textBefore_of_get? h
  refine ⟨cutsAtLineFeeds text, ?_, ?_, ?_, ?_, fun p hover => textBefore_of_hoverIn h, ?_⟩
  · intro number column
    rw [hsame, textBefore_natCast, Except.ok.injEq, Option.map_eq_none_iff,
      List.getElem?_eq_none_iff, ← length_lines]
    exact ⟨Iff.rfl, fun hpast => requests_past_lines a h hpast⟩
  · intro number stored hstored
    refine ⟨shown stored, withoutReturns_shown stored, readsLine a h ?_⟩
    rw [lines, List.getElem?_map, hstored, Option.map_some]
  · intro line column before hbefore
    rw [hsame] at hbefore
    exact notMem_of_textBefore hbefore
  · intro line column later before hle hbefore
    rw [hsame] at hbefore ⊢
    exact textBefore_of_le hle hbefore
  · intro line column e
    rw [hsame]
    exact textBefore_eq_error_iff

/-- A hover shows the word between two columns of a line that carriage returns end.  After the last
line there is nothing, and before the first one nothing can be read. -/
theorem requests_share_lines_word :
    let store := Store.empty.put "a.mrya" "x output\r\r\nlet "
    let a : Assistant := ⟨.mrya, fun _ => ⟨.ok [], []⟩, none, ".mrya"⟩
    store.get? "a.mrya" = some "x output\r\r\nlet " ∧
      (∃ word before, wordAt? "x output\r\r\nlet " ⟨0, 4⟩ = some ⟨word, 2, 8⟩ ∧
        store.textBefore "a.mrya" 0 2 = .ok (some before) ∧
        store.textBefore "a.mrya" 0 8 = .ok (some (before ++ word))) ∧
      hoverIn a store "a.mrya" ⟨2, 0⟩ = none ∧
      store.textBefore "a.mrya" (-3) 0 = .error .line := by
  intro store a
  have hknown : store.get? "a.mrya" = some "x output\r\r\nlet " := by decide +kernel
  have hhover : hoverIn a store "a.mrya" ⟨0, 4⟩ = some
      ⟨⟨"output", "Prints a value to the console.\n\nExample: `output(\"Hello\")`"⟩,
        "**output**\n\nPrints a value to the console.\n\nExample: `output(\"Hello\")`", 0, 2, 8⟩ := by
    decide +kernel
  have hlength : (storedLines "x output\r\r\nlet ").length = 2 := by decide +kernel
  obtain ⟨-, hpast, -, -, -, hword, herror⟩ := requests_share_lines a hknown
  rw [hlength] at hpast herror
  refine ⟨hknown, hword _ _ hhover, ((hpast 2 0).2 le_rfl).2, (herror _ _ _).mpr ?_⟩
  exact ⟨by decide, by decide⟩

end Session

end EditorAssist
