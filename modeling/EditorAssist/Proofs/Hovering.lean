import EditorAssist.Proofs.Requests
import EditorAssist.Proofs.Words

/-! # What hovers show

A hover shows the entry of the word that its position touches, with the key in bold, and the columns
of that word.  Every column of the word gives the same hover.

* `HoversWord`: what a hover says of a line and a position;
* `SaysNothing`: the reasons for which nothing is said;
* `hoverOn_eq_some_iff`, `hoverOn_eq_none_iff`: a text and a position decide which of them it is;
* `hover_right_and_stable`: the replies of a session after every history. -/

namespace EditorAssist.Session

open Document

/-- The hover is about a word of the line that the position touches. -/
structure HoversWord (h : Handbook) (shown : List Char) (p : Position) (hover : Hover) : Prop where
  /-- The key is shown in bold, and the description below it. -/
  value : hover.value = "**" ++ hover.entry.key ++ "**\n\n" ++ hover.entry.description
  line : hover.line = p.line
  start_le : hover.start ≤ p.character
  le_stop : p.character ≤ hover.stop
  start_lt_stop : hover.start < hover.stop
  stop_le_length : hover.stop ≤ shown.length
  /-- The columns are those of a run of name characters that cannot be longer, and the entry is the
  one that this word stands for. -/
  word : ∃ (word : List Char) (start stop : Nat), hover.start = start ∧ hover.stop = stop ∧
    IsWordAt shown word start stop ∧ h.explain (String.ofList word) = some hover.entry

/-- There is nothing to say at a position of a document, of which a text may be known. -/
inductive SaysNothing (h : Handbook) (known : Option String) (p : Position) : Prop
  | unknownDocument : known = none → SaysNothing h known p
  | pastLines {text : String} : known = some text → (lines text).length ≤ p.line →
      SaysNothing h known p
  | pastColumns {text : String} {shown : List Char} : known = some text →
      (lines text)[p.line]? = some shown → shown.length < p.character → SaysNothing h known p
  | untouched {text : String} {shown : List Char} : known = some text →
      (lines text)[p.line]? = some shown → Untouched shown p.character → SaysNothing h known p
  | unexplained {text : String} {shown word : List Char} {start stop : Nat} : known = some text →
      (lines text)[p.line]? = some shown → IsWordAt shown word start stop →
      start ≤ p.character → p.character ≤ stop → h.explain (String.ofList word) = none →
      SaysNothing h known p

theorem inRange_iff {value : Int} : inRange value = true ↔ 0 ≤ value ∧ value ≤ maxCoordinate := by
  simp [inRange]

/-- Two numbers are a position exactly when both are in range. -/
theorem ofInts_eq_ok_iff {line character : Int} {p : Position} :
    Position.ofInts line character = .ok p ↔
      line = p.line ∧ character = p.character ∧ p.line ≤ maxCoordinate ∧
        p.character ≤ maxCoordinate := by
  unfold Position.ofInts
  constructor
  · intro h
    split at h
    · cases h
    · next hline =>
        split at h
        · cases h
        · next hcharacter =>
            rw [Bool.not_eq_true', Bool.not_eq_false, inRange_iff] at hline hcharacter
            cases h
            dsimp only
            omega
  · rintro ⟨rfl, rfl, hline, hcharacter⟩
    have hl : inRange p.line = true := inRange_iff.mpr (by omega)
    have hc : inRange p.character = true := inRange_iff.mpr (by omega)
    simp [hl, hc]

section texts

variable {a : Assistant} {text : String} {shown : List Char} {p : Position} {hover : Hover}

/-- A hover shows the word that the position touches, and nothing else. -/
theorem hoverOn_eq_some_iff :
    hoverOn a text p = some hover ↔
      ∃ shown, (lines text)[p.line]? = some shown ∧ HoversWord a.handbook shown p hover := by
  unfold hoverOn wordAt?
  constructor
  · intro h
    split at h
    · cases h
    · next w hw =>
        obtain ⟨shown, hshown, hword⟩ := Option.bind_eq_some_iff.mp hw
        obtain ⟨word, start, stop, hat, hlow, hhigh, rfl⟩ := wordFromStart_eq_some_iff.mp hword
        obtain ⟨entry, hentry, rfl⟩ := Option.map_eq_some_iff.mp h
        have hlt := hat.start_lt_stop
        have hle := hat.stop_le_length
        refine ⟨shown, hshown, rfl, rfl, ?_, ?_, ?_, ?_, word, start, stop, rfl, rfl, hat, hentry⟩
        all_goals dsimp only; omega
  · rintro ⟨shown, hshown, hfits⟩
    obtain ⟨word, start, stop, hstart, hstop, hat, hentry⟩ := hfits.word
    have hlow := hfits.start_le
    have hhigh := hfits.le_stop
    have hword : wordFromStart shown p.character = some ⟨String.ofList word, start, stop⟩ :=
      wordFromStart_eq_some_iff.mpr ⟨word, start, stop, hat, by omega, by omega, rfl⟩
    rw [hshown, Option.bind_some, hword]
    dsimp only
    have hvalue : hover.entry.markdown = hover.value := hfits.value.symm
    rw [Assistant.explain, hentry, Option.map_some, hvalue, ← hfits.line, ← hstart, ← hstop]

/-- Every column of the word gives the same hover. -/
theorem HoversWord.at_column {h : Handbook} (hfits : HoversWord h shown p hover) {column : Nat}
    (hlow : hover.start ≤ column) (hhigh : column ≤ hover.stop) :
    HoversWord h shown ⟨p.line, column⟩ hover :=
  ⟨hfits.value, hfits.line, hlow, hhigh, hfits.start_lt_stop, hfits.stop_le_length, hfits.word⟩

theorem hoverOn_eq_none_iff :
    hoverOn a text p = none ↔ SaysNothing a.handbook (some text) p := by
  unfold hoverOn wordAt?
  constructor
  · intro h
    cases hshown : (lines text)[p.line]? with
    | none => exact .pastLines rfl (List.getElem?_eq_none_iff.mp hshown)
    | some shown =>
        rw [hshown, Option.bind_some] at h
        cases hword : wordFromStart shown p.character with
        | none =>
            rcases wordFromStart_eq_none_iff.mp hword with hpast | huntouched
            · exact .pastColumns rfl hshown hpast
            · exact .untouched rfl hshown huntouched
        | some w =>
            rw [hword] at h
            obtain ⟨word, start, stop, hat, hlow, hhigh, rfl⟩ := wordFromStart_eq_some_iff.mp hword
            exact .unexplained rfl hshown hat hlow hhigh (Option.map_eq_none_iff.mp h)
  · intro h
    cases h with
    | unknownDocument hknown => cases hknown
    | pastLines hknown hpast =>
        obtain rfl := Option.some.inj hknown
        rw [List.getElem?_eq_none_iff.mpr hpast]
        rfl
    | pastColumns hknown hshown hpast =>
        obtain rfl := Option.some.inj hknown
        rw [hshown, Option.bind_some, wordFromStart_eq_none_iff.mpr (.inl hpast)]
    | untouched hknown hshown huntouched =>
        obtain rfl := Option.some.inj hknown
        rw [hshown, Option.bind_some, wordFromStart_eq_none_iff.mpr (.inr huntouched)]
    | unexplained hknown hshown hat hlow hhigh hentry =>
        obtain rfl := Option.some.inj hknown
        rw [hshown, Option.bind_some,
          wordFromStart_eq_some_iff.mpr ⟨_, _, _, hat, hlow, hhigh, rfl⟩]
        exact Option.map_eq_none_iff.mpr hentry

end texts

/-! ### Hovers of a session -/

/-- The text that requests see in a document, if there is one. -/
def seen? (s : Session) (uri : String) : Option String := s.readStore?.bind (Store.get? · uri)

theorem run_hover_of_started {s : Session} {store : Store} (hstore : s.readStore? = some store)
    {line character : Int} {p : Position} (hp : Position.ofInts line character = .ok p)
    (uri : String) :
    (s.run (.hover uri line character)).2.reply =
      .ok (.hover ((s.seen? uri).bind fun text => hoverOn s.assistant text p)) := by
  rw [run_hover hp, hstore, seen?, hstore, Option.bind_some]
  dsimp only
  cases store.get? uri <;> rfl

/-- **Hovers are right and stable.**  In every session, a hover that shows something shows the key
and the description of the entry of the word that its position touches: its columns lie on the line
as it is shown, on both sides of the position, and they are those of a whole run of name characters.
Every column between them gives the same hover, the last one included.  Once a start has been
answered, a hover shows nothing exactly when the document is not known, the line or the column lies
past the end, no name character touches the column, or the word there stands for no entry.  Before
that it fails. -/
theorem hover_right_and_stable (settings : Settings) (lister : Folder.Lister) (steps : List Step)
    (uri : String) {line character : Int} {p : Position}
    (hp : Position.ofInts line character = .ok p) :
    let origin := ofSettings settings lister
    let s := (origin.runAll steps).1
    let hovered := fun column => (s.run (.hover uri line column)).2.reply
    (∀ hover, hovered character = .ok (.hover (some hover)) →
      ∃ text shown, s.seen? uri = some text ∧ (lines text)[p.line]? = some shown ∧
        HoversWord settings.handbook shown p hover ∧
        ∀ column : Nat, hover.start ≤ column → column ≤ hover.stop →
          hoverOn s.assistant text ⟨p.line, column⟩ = some hover ∧
            (column ≤ maxCoordinate → hovered column = .ok (.hover (some hover)))) ∧
    (0 < storeNumber (history origin steps) →
      (hovered character = .ok (.hover none) ↔
        SaysNothing settings.handbook (s.seen? uri) p)) ∧
    (storeNumber (history origin steps) = 0 → hovered character = .error .notStarted) := by
  intro origin s hovered
  have hs : Agrees origin.assistant s (history origin steps) := agrees_history settings lister steps
  have hbook : s.assistant.handbook = settings.handbook := congrArg Assistant.handbook hs.assistant
  rcases hs.readStore? with ⟨hnone, hzero⟩ | ⟨store, hsome, hpos, -⟩
  · have hfails : hovered character = .error .notStarted := by
      dsimp only [hovered]
      rw [run_hover hp, hnone]
      rfl
    refine ⟨?_, fun hpos => absurd hzero (by omega), fun _ => hfails⟩
    intro hover hhover
    rw [hfails] at hhover
    cases hhover
  · have hreply : ∀ column q, Position.ofInts line column = .ok q → hovered column =
        .ok (.hover ((s.seen? uri).bind fun text => hoverOn s.assistant text q)) :=
      fun column q hq => run_hover_of_started hsome hq uri
    refine ⟨?_, fun _ => ?_, fun hzero => absurd hzero (by omega)⟩
    · intro hover hhover
      rw [hreply character p hp, Except.ok.injEq, Reply.hover.injEq] at hhover
      obtain ⟨text, htext, hon⟩ := Option.bind_eq_some_iff.mp hhover
      obtain ⟨shown, hshown, hfits⟩ := hoverOn_eq_some_iff.mp hon
      refine ⟨text, shown, htext, hshown, hbook ▸ hfits, ?_⟩
      intro column hlow hhigh
      have hsame : hoverOn s.assistant text ⟨p.line, column⟩ = some hover :=
        hoverOn_eq_some_iff.mpr ⟨shown, hshown, hfits.at_column hlow hhigh⟩
      refine ⟨hsame, fun hmax => ?_⟩
      have hq : Position.ofInts line column = .ok ⟨p.line, column⟩ := by
        obtain ⟨hline, -, hlineMax, -⟩ := ofInts_eq_ok_iff.mp hp
        exact ofInts_eq_ok_iff.mpr ⟨hline, rfl, hlineMax, hmax⟩
      rw [hreply column _ hq, htext, Option.bind_some, hsame]
    · rw [hreply character p hp, Except.ok.injEq, Reply.hover.injEq, ← hbook]
      cases hseen : s.seen? uri with
      | none => exact ⟨fun _ => .unknownDocument rfl, fun _ => rfl⟩
      | some text => exact hoverOn_eq_none_iff

/-- The column after the last character of a word still gives it, and the carriage return after it
is past the end of the line. -/
theorem hover_right_and_stable_word :
    let origin := ofSettings {} fun _ => ⟨.ok [], []⟩
    let s := (origin.runAll [.start [] none none, .openDocument "a.mrya" "x output\r\n"]).1
    Position.ofInts 0 4 = .ok ⟨0, 4⟩ ∧
      ∃ hover, (s.run (.hover "a.mrya" 0 4)).2.reply = .ok (.hover (some hover)) ∧
        HoversWord (Settings.handbook {}) "x output".toList ⟨0, 4⟩ hover ∧
        hover.start = 2 ∧ hover.stop = 8 ∧
        hover.value =
          "**output**\n\nPrints a value to the console.\n\nExample: `output(\"Hello\")`" ∧
        (s.run (.hover "a.mrya" 0 8)).2.reply = .ok (.hover (some hover)) ∧
        SaysNothing (Settings.handbook {}) (s.seen? "a.mrya") ⟨0, 9⟩ := by
  intro origin s
  have hp : Position.ofInts 0 4 = .ok ⟨0, 4⟩ := rfl
  have hreply : (s.run (.hover "a.mrya" 0 4)).2.reply = .ok (.hover (some
      ⟨⟨"output", "Prints a value to the console.\n\nExample: `output(\"Hello\")`"⟩,
        "**output**\n\nPrints a value to the console.\n\nExample: `output(\"Hello\")`",
        0, 2, 8⟩)) := by
    decide +kernel
  obtain ⟨hright, -, -⟩ := hover_right_and_stable {} (fun _ => ⟨.ok [], []⟩)
    [.start [] none none, .openDocument "a.mrya" "x output\r\n"] "a.mrya" hp
  have hpast : Position.ofInts 0 9 = .ok ⟨0, 9⟩ := rfl
  obtain ⟨-, hnothing, -⟩ := hover_right_and_stable {} (fun _ => ⟨.ok [], []⟩)
    [.start [] none none, .openDocument "a.mrya" "x output\r\n"] "a.mrya" hpast
  obtain ⟨text, shown, hseen, hshown, hfits, hstable⟩ := hright _ hreply
  have htext : s.seen? "a.mrya" = some "x output\r\n" := by decide +kernel
  obtain rfl := Option.some.inj (hseen.symm.trans htext)
  have hline : (lines "x output\r\n")[0]? = some "x output".toList := by decide +kernel
  obtain rfl := Option.some.inj (hshown.symm.trans hline)
  refine ⟨hp, _, hreply, hfits, rfl, rfl, rfl, ?_, ?_⟩
  · exact (hstable 8 (by decide) (by decide)).2 (by decide)
  · exact (hnothing (by decide +kernel)).mp (by decide +kernel)

/-- Before a start no document is known, and a hover fails instead of showing nothing. -/
theorem hover_before_start_fails :
    let s := ((ofSettings {} fun _ => ⟨.ok [], []⟩).runAll []).1
    Position.ofInts 0 0 = .ok ⟨0, 0⟩ ∧ s.seen? "a.mrya" = none ∧
      (s.run (.hover "a.mrya" 0 0)).2.reply ≠ .ok (.hover none) := by
  decide +kernel

end EditorAssist.Session
