import Mathlib.Data.List.Basic
import Mathlib.Data.List.TakeWhile
import EditorAssist.Session.Basic

/-! # What a session owes to its history

The history of a session is the list of its steps, each with whether it was answered.  Which
documents a request sees, and which root, is said here on the history alone, without the stores that
a session keeps:

* `storeNumber`: stores are numbered by the starts that were answered;
* `readNumber`: requests read the store that was current at the first of them that was answered;
* `HoldsText`: the last text that a document was given while a store was current, if the document was
  not closed after that;
* `rootAfter`: the root that was named last.

`Agrees` ties a session to its history; every step keeps it (`Agrees.run`), and so does every run. -/

namespace EditorAssist.Session

/-! ### Histories -/

/-- The step was answered. -/
def Outcome.answers (o : Outcome) : Bool :=
  match o.reply with
  | .ok _ => true
  | .error _ => false

/-- A step, and whether it was answered. -/
structure Event where
  step : Step
  answered : Bool
deriving Repr, DecidableEq

/-- The steps of a session, each with whether it was answered. -/
def history (s : Session) : List Step → List Event
  | [] => []
  | step :: steps => ⟨step, (s.run step).2.answers⟩ :: history (s.run step).1 steps

namespace Event

/-- A start that gave a new store. -/
def renews (e : Event) : Bool :=
  match e.step with
  | .start .. => e.answered
  | _ => false

/-- A request that was answered. -/
def asks (e : Event) : Bool :=
  match e.step with
  | .complete .. | .hover .. => e.answered
  | _ => false

/-- The document was opened with the text, or changed to it. -/
def Gives (e : Event) (uri text : String) : Prop :=
  e.answered = true ∧ (e.step = .openDocument uri text ∨ e.step = .changeDocument uri text)

/-- The document was closed. -/
def Closes (e : Event) (uri : String) : Prop :=
  e.answered = true ∧ e.step = .closeDocument uri

/-- The text of the document was given or taken. -/
def Touches (e : Event) (uri : String) : Prop := (∃ text, e.Gives uri text) ∨ e.Closes uri

/-- The root that the event set, if it set one. -/
def root? (e : Event) : Option (Option String) :=
  match e.answered, e.step with
  | true, .setRoot root => some root
  | true, .start folders rootUri rootPath =>
    match namedRoot? folders rootUri rootPath with
    | .ok (some root) => some (some root)
    | _ => none
  | _, _ => none

end Event

/-- The document that a step opens, changes or closes. -/
def Step.document? : Step → Option String
  | .openDocument uri _ | .changeDocument uri _ | .closeDocument uri => some uri
  | _ => none

theorem Event.Touches.document? {e : Event} {uri : String} (h : e.Touches uri) :
    e.step.document? = some uri := by
  rcases h with ⟨text, -, hs | hs⟩ | ⟨-, hs⟩ <;> rw [hs] <;> rfl

/-- The number of the current store; there is none at number zero. -/
def storeNumber (h : List Event) : Nat := h.countP Event.renews

/-- The number of the store that the next request reads: the one that was current at the first
request that was answered, or else the current one. -/
def readNumber (h : List Event) : Nat := storeNumber (h.takeWhile fun e => !e.asks)

/-- The document got the text while the numbered store was current, and nothing happened to it
afterwards while that store was current. -/
def HoldsText (h : List Event) (number : Nat) (uri text : String) : Prop :=
  ∃ past e later, h = past ++ e :: later ∧ storeNumber past = number ∧ e.Gives uri text ∧
    ∀ between next rest, later = between ++ next :: rest →
      storeNumber (past ++ e :: between) = number → ¬ next.Touches uri

/-- The root that was set last. -/
def rootAfter (h : List Event) : Option String := (h.reverse.findSome? Event.root?).getD none

/-! ### One more event -/

theorem storeNumber_append (a b : List Event) :
    storeNumber (a ++ b) = storeNumber a + storeNumber b := List.countP_append

theorem storeNumber_concat_of_renews {e : Event} (hr : e.renews = true) (h : List Event) :
    storeNumber (h ++ [e]) = storeNumber h + 1 := by
  simp [storeNumber, List.countP_append, hr]

theorem storeNumber_concat_of_not_renews {e : Event} (hr : e.renews = false) (h : List Event) :
    storeNumber (h ++ [e]) = storeNumber h := by
  simp [storeNumber, List.countP_append, hr]

theorem readNumber_append_of_asked {h : List Event} (asked : ∃ e ∈ h, e.asks = true)
    (more : List Event) : readNumber (h ++ more) = readNumber h := by
  obtain ⟨e, he, ha⟩ := asked
  have hall : ¬ (h.all fun e => !e.asks) = true := by
    rw [List.all_eq_true]
    intro hall
    have hnot := hall e he
    rw [ha] at hnot
    cases hnot
  unfold readNumber
  rw [List.takeWhile_append]
  split
  · next hlen =>
      have heq := (List.takeWhile_prefix (l := h) fun e => !e.asks).eq_of_length hlen
      exact absurd (heq ▸ List.all_takeWhile) hall
  · rfl

theorem readNumber_of_not_asked {h : List Event} (unasked : ∀ e ∈ h, e.asks = false) :
    readNumber h = storeNumber h := by
  unfold readNumber
  rw [List.takeWhile_eq_self_iff.mpr]
  intro e he
  simp [unasked e he]

/-- The first answered request settles what is read, and a start after it does not. -/
theorem readNumber_concat_of_asks {h : List Event} (unasked : ∀ e ∈ h, e.asks = false) {e : Event}
    (he : e.asks = true) : readNumber (h ++ [e]) = storeNumber h := by
  unfold readNumber
  rw [List.takeWhile_append_of_pos (by intro x hx; simp [unasked x hx])]
  simp [he]

theorem rootAfter_concat (h : List Event) (e : Event) :
    rootAfter (h ++ [e]) = e.root?.getD (rootAfter h) := by
  unfold rootAfter
  rw [List.reverse_append, List.findSome?_append]
  cases hr : e.root? with
  | none => simp [hr]
  | some root => simp [hr]

theorem HoldsText.le_storeNumber {h : List Event} {number : Nat} {uri text : String}
    (ht : HoldsText h number uri text) : number ≤ storeNumber h := by
  obtain ⟨past, e, later, rfl, rfl, -⟩ := ht
  rw [storeNumber_append]
  omega

/-- What one more event does to a document: it gives the text, or leaves it as it was. -/
theorem holdsText_concat {h : List Event} {e : Event} {number : Nat} {uri text : String} :
    HoldsText (h ++ [e]) number uri text ↔
      (storeNumber h = number ∧ e.Gives uri text) ∨
        (HoldsText h number uri text ∧ ¬ (storeNumber h = number ∧ e.Touches uri)) := by
  constructor
  · rintro ⟨past, e', later, heq, hn, hg, hl⟩
    rcases List.eq_nil_or_concat' later with rfl | ⟨later', last, rfl⟩
    · -- the event that gives the text is the last one
      obtain ⟨rfl, he⟩ := List.append_inj' heq rfl
      obtain rfl := List.singleton_inj.mp he
      exact .inl ⟨hn, hg⟩
    · have heq' : h ++ [e] = (past ++ e' :: later') ++ [last] := by
        rw [heq, List.append_assoc, List.cons_append]
      obtain ⟨rfl, he⟩ := List.append_inj' heq' rfl
      obtain rfl := List.singleton_inj.mp he
      refine .inr ⟨⟨past, e', later', rfl, hn, hg, ?_⟩, ?_⟩
      · intro between next rest hb hnum
        exact hl between next (rest ++ [e]) (by rw [hb, List.append_assoc, List.cons_append]) hnum
      · rintro ⟨hnum, ht⟩
        exact hl later' e [] rfl hnum ht
  · rintro (⟨hn, hg⟩ | ⟨⟨past, e', later, rfl, hn, hg, hl⟩, hnot⟩)
    · refine ⟨h, e, [], rfl, hn, hg, ?_⟩
      intro between next rest hb
      simp at hb
    · refine ⟨past, e', later ++ [e], by rw [List.append_assoc, List.cons_append], hn, hg, ?_⟩
      intro between next rest hb hnum ht
      rcases List.eq_nil_or_concat' rest with rfl | ⟨rest', last, rfl⟩
      · obtain ⟨rfl, he⟩ := List.append_inj' hb rfl
        obtain rfl := List.singleton_inj.mp he
        exact hnot ⟨hnum, ht⟩
      · have hb' : later ++ [e] = (between ++ next :: rest') ++ [last] := by
          rw [hb, List.append_assoc, List.cons_append]
        obtain ⟨rfl, -⟩ := List.append_inj' hb' rfl
        exact hl between next rest' rfl hnum ht

theorem holdsText_concat_of_not_touches {h : List Event} {e : Event} {uri : String}
    (ht : ¬ e.Touches uri) (number : Nat) (text : String) :
    HoldsText (h ++ [e]) number uri text ↔ HoldsText h number uri text := by
  rw [holdsText_concat]
  constructor
  · rintro (⟨-, hg⟩ | ⟨hh, -⟩)
    · exact absurd (.inl ⟨text, hg⟩) ht
    · exact hh
  · intro hh
    exact .inr ⟨hh, fun hn => ht hn.2⟩

theorem holdsText_concat_of_ne {h : List Event} {e : Event} {number : Nat}
    (hne : storeNumber h ≠ number) (uri text : String) :
    HoldsText (h ++ [e]) number uri text ↔ HoldsText h number uri text := by
  rw [holdsText_concat]
  constructor
  · rintro (⟨hn, -⟩ | ⟨hh, -⟩)
    · exact absurd hn hne
    · exact hh
  · intro hh
    exact .inr ⟨hh, fun hn => hne hn.1⟩

/-! ### Sessions and their histories -/

/-- The store holds the documents that the numbered store has by the history. -/
def StoreHolds (store : Store) (h : List Event) (number : Nat) : Prop :=
  ∀ uri text, store.get? uri = some text ↔ HoldsText h number uri text

/-- The current store is the one of the history. -/
def CurrentFits (h : List Event) : Option Store → Prop
  | none => storeNumber h = 0
  | some store => 0 < storeNumber h ∧ StoreHolds store h (storeNumber h)

/-- Requests read the store that the history says. -/
def ReadingFits (h : List Event) : Reading → Prop
  | .undecided => ∀ e ∈ h, e.asks = false
  | .current => (∃ e ∈ h, e.asks = true) ∧ 0 < readNumber h ∧ readNumber h = storeNumber h
  | .earlier store => (∃ e ∈ h, e.asks = true) ∧ 0 < readNumber h ∧
      readNumber h < storeNumber h ∧ StoreHolds store h (readNumber h)

/-- The session is the one that an assistant comes to by the history. -/
structure Agrees (a : Assistant) (s : Session) (h : List Event) : Prop where
  assistant : s.assistant = { a with root := rootAfter h }
  current : CurrentFits h s.store
  reading : ReadingFits h s.reading

section steps

variable {a : Assistant} {s : Session} {h : List Event} {e : Event} {reading : Reading}

theorem exists_asked_concat (asked : ∃ e ∈ h, e.asks = true) (e : Event) :
    ∃ x ∈ h ++ [e], x.asks = true := by
  obtain ⟨x, hx, ha⟩ := asked
  exact ⟨x, List.mem_append_left _ hx, ha⟩

theorem StoreHolds.concat_of_ne {store : Store} {number : Nat} (hh : StoreHolds store h number)
    (hne : storeNumber h ≠ number) : StoreHolds store (h ++ [e]) number := by
  intro uri text
  rw [holdsText_concat_of_ne hne]
  exact hh uri text

theorem StoreHolds.concat_of_not_touches {store : Store} {number : Nat}
    (hh : StoreHolds store h number) (ht : ∀ uri, ¬ e.Touches uri) :
    StoreHolds store (h ++ [e]) number := by
  intro uri text
  rw [holdsText_concat_of_not_touches (ht uri)]
  exact hh uri text

theorem CurrentFits.concat_quiet {store : Option Store} (hc : CurrentFits h store)
    (hr : e.renews = false) (ht : ∀ uri, ¬ e.Touches uri) : CurrentFits (h ++ [e]) store := by
  have hn := storeNumber_concat_of_not_renews hr h
  cases store with
  | none => exact hn.trans hc
  | some store =>
      rw [CurrentFits, hn]
      exact ⟨hc.1, hc.2.concat_of_not_touches ht⟩

/-- A new store has no documents. -/
theorem CurrentFits.concat_renews (hr : e.renews = true) : CurrentFits (h ++ [e]) (some .empty) := by
  have hn := storeNumber_concat_of_renews hr h
  refine ⟨by omega, ?_⟩
  intro uri text
  rw [hn, holdsText_concat_of_ne (by omega), Store.get?_empty]
  constructor
  · intro hnone
    cases hnone
  · intro ht
    have hle := ht.le_storeNumber
    omega

theorem Event.Gives.unique {uri uri' text text' : String} (hg : e.Gives uri text)
    (hg' : e.Gives uri' text') : uri' = uri ∧ text' = text := by
  obtain ⟨-, hs⟩ := hg
  obtain ⟨-, hs'⟩ := hg'
  rcases hs with hs | hs <;> rcases hs' with hs' | hs' <;> rw [hs] at hs' <;> cases hs' <;>
    exact ⟨rfl, rfl⟩

theorem Event.Gives.not_closes {uri uri' text : String} (hg : e.Gives uri text) :
    ¬ e.Closes uri' := by
  rintro ⟨-, hs'⟩
  rcases hg.2 with hs | hs <;> rw [hs] at hs' <;> cases hs'

/-- Giving a text puts it into the current store. -/
theorem CurrentFits.concat_gives {store : Store} {uri text : String}
    (hc : CurrentFits h (some store)) (hr : e.renews = false) (hg : e.Gives uri text) :
    CurrentFits (h ++ [e]) (some (store.put uri text)) := by
  have hn := storeNumber_concat_of_not_renews hr h
  refine ⟨by rw [hn]; exact hc.1, ?_⟩
  intro uri' text'
  rw [hn]
  by_cases hu : uri' = uri
  · subst hu
    rw [Store.get?_put_self, holdsText_concat]
    constructor
    · intro ht
      obtain rfl := Option.some.inj ht
      exact .inl ⟨rfl, hg⟩
    · rintro (⟨-, hg'⟩ | ⟨-, hnot⟩)
      · rw [(hg.unique hg').2]
      · exact absurd ⟨rfl, .inl ⟨text, hg⟩⟩ hnot
  · have ht : ¬ e.Touches uri' := by
      rintro (⟨t, hg'⟩ | hcl)
      · exact hu (hg.unique hg').1
      · exact hg.not_closes hcl
    rw [Store.get?_put_of_ne hu, holdsText_concat_of_not_touches ht]
    exact hc.2 uri' text'

/-- Closing a document takes it out of the current store. -/
theorem CurrentFits.concat_closes {store : Store} {uri : String} (hc : CurrentFits h (some store))
    (hr : e.renews = false) (hcl : e.Closes uri) :
    CurrentFits (h ++ [e]) (some (store.erase uri)) := by
  have hn := storeNumber_concat_of_not_renews hr h
  refine ⟨by rw [hn]; exact hc.1, ?_⟩
  intro uri' text'
  rw [hn]
  by_cases hu : uri' = uri
  · subst hu
    rw [Store.get?_erase_self, holdsText_concat]
    constructor
    · intro hnone
      cases hnone
    · rintro (⟨-, hg⟩ | ⟨-, hnot⟩)
      · exact absurd hcl hg.not_closes
      · exact absurd ⟨rfl, .inr hcl⟩ hnot
  · have ht : ¬ e.Touches uri' := by
      rintro (⟨t, hg⟩ | hcl')
      · exact hg.not_closes hcl
      · have hs := hcl'.2
        rw [hcl.2] at hs
        cases hs
        exact hu rfl
    rw [Store.get?_erase_of_ne hu, holdsText_concat_of_not_touches ht]
    exact hc.2 uri' text'

/-- An event that is neither a start nor a request leaves what is read, whatever it does to the
current store. -/
theorem ReadingFits.concat_plain (hf : ReadingFits h reading) (hr : e.renews = false)
    (ha : e.asks = false) : ReadingFits (h ++ [e]) reading := by
  have hn := storeNumber_concat_of_not_renews hr h
  cases reading with
  | undecided =>
      intro x hx
      rcases List.mem_append.mp hx with hx | hx
      · exact hf x hx
      · rw [List.mem_singleton.mp hx]
        exact ha
  | current =>
      obtain ⟨asked, hpos, heq⟩ := hf
      refine ⟨exists_asked_concat asked e, ?_, ?_⟩
      · rw [readNumber_append_of_asked asked]
        exact hpos
      · rw [readNumber_append_of_asked asked, hn]
        exact heq
  | earlier store =>
      obtain ⟨asked, hpos, hlt, hholds⟩ := hf
      rw [ReadingFits, readNumber_append_of_asked asked, hn]
      exact ⟨exists_asked_concat asked e, hpos, hlt, hholds.concat_of_ne (by omega)⟩

/-- The first answered request settles what is read. -/
theorem ReadingFits.concat_asks (hf : ReadingFits h s.reading) (hr : e.renews = false)
    (ha : e.asks = true) (hpos : 0 < storeNumber h) : ReadingFits (h ++ [e]) s.settled.reading := by
  have hn := storeNumber_concat_of_not_renews hr h
  have asked : ∃ x ∈ h ++ [e], x.asks = true := ⟨e, by simp, ha⟩
  unfold settled
  cases hreading : s.reading with
  | undecided =>
      rw [hreading] at hf
      refine ⟨asked, ?_, ?_⟩
      · rw [readNumber_concat_of_asks hf ha]
        exact hpos
      · rw [readNumber_concat_of_asks hf ha, hn]
  | current =>
      rw [hreading] at hf
      obtain ⟨asked', hpos', heq⟩ := hf
      simp only [hreading, ReadingFits]
      rw [readNumber_append_of_asked asked', hn]
      exact ⟨asked, hpos', heq⟩
  | earlier store =>
      rw [hreading] at hf
      obtain ⟨asked', hpos', hlt, hholds⟩ := hf
      simp only [hreading, ReadingFits]
      rw [readNumber_append_of_asked asked', hn]
      exact ⟨asked, hpos', hlt, hholds.concat_of_ne (by omega)⟩

/-- A start leaves what is read, and makes an earlier store of a current one. -/
theorem ReadingFits.concat_renews (hf : ReadingFits h s.reading) (hc : CurrentFits h s.store)
    (hr : e.renews = true) (ha : e.asks = false) :
    ReadingFits (h ++ [e]) s.withNewStore.reading := by
  have hn := storeNumber_concat_of_renews hr h
  have ht : ∀ uri, ¬ e.Touches uri := by
    intro uri h
    unfold Event.renews at hr
    split at hr
    · next hstep =>
        have hd := h.document?
        rw [hstep] at hd
        cases hd
    · cases hr
  unfold withNewStore
  cases hreading : s.reading with
  | undecided =>
      rw [hreading] at hf
      intro x hx
      rcases List.mem_append.mp hx with hx | hx
      · exact hf x hx
      · rw [List.mem_singleton.mp hx]
        exact ha
  | current =>
      rw [hreading] at hf
      obtain ⟨asked, hpos, heq⟩ := hf
      cases hstore : s.store with
      | none =>
          rw [hstore] at hc
          have hzero : storeNumber h = 0 := hc
          omega
      | some store =>
          rw [hstore] at hc
          simp only [ReadingFits]
          rw [readNumber_append_of_asked asked, hn]
          rw [heq] at hpos ⊢
          exact ⟨exists_asked_concat asked e, hpos, by omega, hc.2.concat_of_not_touches ht⟩
  | earlier store =>
      rw [hreading] at hf
      obtain ⟨asked, hpos, hlt, hholds⟩ := hf
      simp only [ReadingFits]
      rw [readNumber_append_of_asked asked, hn]
      exact ⟨exists_asked_concat asked e, hpos, by omega, hholds.concat_of_ne (by omega)⟩

/-- A step that fails changes nothing. -/
theorem Agrees.concat_failed (hs : Agrees a s h) (step : Step) :
    Agrees a s (h ++ [⟨step, false⟩]) := by
  have hr : (⟨step, false⟩ : Event).renews = false := by cases step <;> rfl
  have ha : (⟨step, false⟩ : Event).asks = false := by cases step <;> rfl
  have hroot : (⟨step, false⟩ : Event).root? = none := rfl
  have ht : ∀ uri, ¬ (⟨step, false⟩ : Event).Touches uri := by
    rintro uri (⟨text, hg, -⟩ | ⟨hcl, -⟩)
    · cases hg
    · cases hcl
  refine ⟨?_, hs.current.concat_quiet hr ht, hs.reading.concat_plain hr ha⟩
  rw [rootAfter_concat, hroot]
  exact hs.assistant

/-- A step that acts on the current store keeps the session in line if what it does to the store is
what it does to the history. -/
theorem Agrees.onStore (hs : Agrees a s h) {act : Store → Except Error Store}
    {notes : List Log.Note} {step : Step} (hr : (⟨step, true⟩ : Event).renews = false)
    (ha : (⟨step, true⟩ : Event).asks = false) (hroot : (⟨step, true⟩ : Event).root? = none)
    (hact : ∀ store next, act store = .ok next → CurrentFits h (some store) →
      CurrentFits (h ++ [⟨step, true⟩]) (some next)) :
    Agrees a (s.onStore act notes).1 (h ++ [⟨step, (s.onStore act notes).2.answers⟩]) := by
  unfold Session.onStore
  cases hstore : s.store with
  | none => exact hs.concat_failed step
  | some store =>
      dsimp only
      cases hok : act store with
      | error err => exact hs.concat_failed step
      | ok next =>
          refine ⟨?_, hact store next hok (hstore ▸ hs.current), hs.reading.concat_plain hr ha⟩
          rw [rootAfter_concat]
          dsimp only [Outcome.answered, Outcome.answers]
          rw [hroot]
          exact hs.assistant

/-- The store that requests read, if there is one, holds what the history says. -/
theorem Agrees.readStore? (hs : Agrees a s h) :
    (s.readStore? = none ∧ storeNumber h = 0) ∨
      ∃ store, s.readStore? = some store ∧ 0 < storeNumber h ∧ StoreHolds store h (readNumber h) := by
  have hc := hs.current
  have hf := hs.reading
  unfold Session.readStore?
  cases hreading : s.reading with
  | earlier store =>
      rw [hreading] at hf
      obtain ⟨-, hpos, hlt, hholds⟩ := hf
      exact .inr ⟨store, rfl, by omega, hholds⟩
  | undecided =>
      rw [hreading] at hf
      dsimp only
      cases hstore : s.store with
      | none => exact .inl ⟨rfl, by rw [hstore] at hc; exact hc⟩
      | some store =>
          rw [hstore] at hc
          rw [readNumber_of_not_asked hf]
          exact .inr ⟨store, rfl, hc.1, hc.2⟩
  | current =>
      rw [hreading] at hf
      dsimp only
      cases hstore : s.store with
      | none => exact .inl ⟨rfl, by rw [hstore] at hc; exact hc⟩
      | some store =>
          rw [hstore] at hc
          rw [hf.2.2]
          exact .inr ⟨store, rfl, hc.1, hc.2⟩

theorem settled_assistant (s : Session) : s.settled.assistant = s.assistant := by
  unfold settled
  split <;> rfl

theorem settled_store (s : Session) : s.settled.store = s.store := by
  unfold settled
  split <;> rfl

theorem Agrees.request (hs : Agrees a s h) {step : Step} {line character : Int}
    {answer : Store → Position → Outcome} (hr : (⟨step, true⟩ : Event).renews = false)
    (ha : (⟨step, true⟩ : Event).asks = true) (hroot : (⟨step, true⟩ : Event).root? = none)
    (hd : step.document? = none)
    (hanswer : ∀ store p, (answer store p).answers = true) :
    Agrees a (s.request line character answer).1
      (h ++ [⟨step, (s.request line character answer).2.answers⟩]) := by
  unfold Session.request
  cases Position.ofInts line character with
  | error err => exact hs.concat_failed step
  | ok p =>
      rcases hs.readStore? with ⟨hnone, -⟩ | ⟨store, hsome, hpos, -⟩
      · rw [hnone]
        exact hs.concat_failed step
      · rw [hsome]
        dsimp only
        rw [hanswer store p]
        refine ⟨?_, ?_, hs.reading.concat_asks hr ha hpos⟩
        · rw [settled_assistant, rootAfter_concat, hroot]
          exact hs.assistant
        · rw [settled_store]
          refine hs.current.concat_quiet hr ?_
          intro uri ht
          rw [ht.document?] at hd
          cases hd

/-- A start that is answered gives a new store, and the root that it names. -/
theorem Agrees.start (hs : Agrees a s h) (folders : List String)
    (rootUri rootPath : Option String) :
    Agrees a (s.start folders rootUri rootPath).1
      (h ++ [⟨.start folders rootUri rootPath, (s.start folders rootUri rootPath).2.answers⟩]) := by
  unfold Session.start
  cases checkStoreRoot rootUri rootPath with
  | error err => exact hs.concat_failed _
  | ok u =>
      have hr : (⟨.start folders rootUri rootPath, true⟩ : Event).renews = true := rfl
      have hreading := hs.reading.concat_renews hs.current hr rfl
      dsimp only
      unfold Session.nameRoot
      cases hnamed : namedRoot? folders rootUri rootPath with
      | error err =>
          refine ⟨?_, .concat_renews hr, hreading⟩
          dsimp only [Outcome.answered, Outcome.answers]
          rw [rootAfter_concat]
          simp only [Event.root?, hnamed, Option.getD_none]
          exact hs.assistant
      | ok named =>
          refine ⟨?_, .concat_renews hr, hreading⟩
          dsimp only [Outcome.answered, Outcome.answers, withRoot, withNewStore]
          rw [rootAfter_concat, hs.assistant]
          cases named with
          | none => simp [Event.root?, hnamed]
          | some root => simp [Event.root?, hnamed]

end steps

/-- **Every step keeps a session in line with its history.** -/
theorem Agrees.run {a : Assistant} {s : Session} {h : List Event} (hs : Agrees a s h)
    (step : Step) : Agrees a (s.run step).1 (h ++ [⟨step, (s.run step).2.answers⟩]) := by
  cases step with
  | start folders rootUri rootPath => exact hs.start folders rootUri rootPath
  | openDocument uri text =>
      refine hs.onStore rfl rfl rfl ?_
      intro store next hok hc
      unfold openIn at hok
      cases hpath : Location.toPath uri with
      | error err =>
          rw [hpath] at hok
          cases hok
      | ok path =>
          rw [hpath] at hok
          obtain rfl := Except.ok.inj hok
          exact hc.concat_gives rfl ⟨rfl, .inl rfl⟩
  | changeDocument uri text =>
      refine hs.onStore rfl rfl rfl ?_
      intro store next hok hc
      unfold changeIn at hok
      cases hget : store.get? uri with
      | none =>
          rw [hget] at hok
          cases hok
      | some old =>
          rw [hget] at hok
          obtain rfl := Except.ok.inj hok
          exact hc.concat_gives rfl ⟨rfl, .inr rfl⟩
  | closeDocument uri =>
      refine hs.onStore rfl rfl rfl ?_
      intro store next hok hc
      obtain rfl := Except.ok.inj hok
      exact hc.concat_closes rfl ⟨rfl, rfl⟩
  | setRoot root =>
      refine ⟨?_, hs.current.concat_quiet rfl ?_, hs.reading.concat_plain rfl rfl⟩
      · rw [rootAfter_concat]
        simp only [Session.run, withRoot, hs.assistant, Outcome.answered, Outcome.answers,
          Event.root?, Option.getD_some]
      · intro uri ht
        cases ht.document?
  | complete uri line character => exact hs.request rfl rfl rfl rfl (fun store p => rfl)
  | hover uri line character => exact hs.request rfl rfl rfl rfl (fun store p => rfl)

theorem runAll_cons (s : Session) (step : Step) (steps : List Step) :
    (s.runAll (step :: steps)).1 = ((s.run step).1.runAll steps).1 := rfl

theorem Agrees.runAll {a : Assistant} {s : Session} {h : List Event} (hs : Agrees a s h)
    (steps : List Step) : Agrees a (s.runAll steps).1 (h ++ history s steps) := by
  induction steps generalizing s h with
  | nil =>
      rw [history, List.append_nil]
      exact hs
  | cons step steps ih =>
      have hrun := ih (hs.run step)
      rw [List.append_assoc, List.singleton_append] at hrun
      exact hrun

/-- A session is in line with its history from its beginning. -/
theorem agrees_history (settings : Settings) (lister : Folder.Lister) (steps : List Step) :
    Agrees (ofSettings settings lister).assistant ((ofSettings settings lister).runAll steps).1
      (history (ofSettings settings lister) steps) := by
  have hstart : Agrees (ofSettings settings lister).assistant (ofSettings settings lister) [] :=
    ⟨rfl, rfl, fun e he => by cases he⟩
  exact hstart.runAll steps

end EditorAssist.Session
