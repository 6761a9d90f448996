import EditorAssist.Proofs.History

/-! # What requests answer

A request is answered from the text that its document has in the history, and from nothing else of
the session but the root that was named last.

* `View`: what a session shows of one document.  Every step acts on it (`view_run`), and a step about
  another document leaves it, unless it is the first request that is answered
  (`view_run_of_about_ne`);
* `holdsText_append_of_lt`: a store that is no longer current keeps its texts;
* `request_outcome_of_history`: suggestions and hovers, after every history. -/

namespace EditorAssist.Session

/-! ### Views of one document -/

/-- What a session shows of the store that requests read. -/
inductive ReadingView where
  | undecided
  | current
  | earlier (text : Option String)
deriving Repr, DecidableEq

/-- What a session shows of one document. -/
structure View where
  assistant : Assistant
  /-- The text in the current store, if there is one. -/
  current : Option (Option String)
  reading : ReadingView

/-- What the reading shows of a document. -/
def Reading.view (uri : String) : Reading → ReadingView
  | .undecided => .undecided
  | .current => .current
  | .earlier store => .earlier (store.get? uri)

/-- What the session shows of a document. -/
def view (uri : String) (s : Session) : View :=
  ⟨s.assistant, s.store.map (Store.get? · uri), s.reading.view uri⟩

/-- The text of a document after a step on documents, from the text before it. -/
def Step.textAfter (uri : String) : Step → Option String → Option String
  | .openDocument other text, known =>
    if other = uri ∧ (Location.toPath other).isOk then some text else known
  | .changeDocument other text, known => if other = uri then known.map fun _ => text else known
  | .closeDocument other, known => if other = uri then none else known
  | _, known => known

namespace View

/-- The text that requests see, if there is a store to read. -/
def read? (v : View) : Option (Option String) :=
  match v.reading with
  | .earlier text => some text
  | _ => v.current

/-- The view after a request that reads a store. -/
def settled (v : View) : View :=
  match v.reading with
  | .undecided => { v with reading := .current }
  | _ => v

/-- The view after a new store. -/
def renewed (v : View) : View :=
  { v with
    current := some none
    reading := match v.reading, v.current with
      | .current, some text => .earlier text
      | reading, _ => reading }

/-- The view after a step. -/
def run (uri : String) (v : View) : Step → View
  | .start folders rootUri rootPath =>
    match checkStoreRoot rootUri rootPath, namedRoot? folders rootUri rootPath with
    | .error _, _ => v
    | .ok (), .error _ => v.renewed
    | .ok (), .ok named =>
      { v.renewed with assistant := { v.assistant with root := named <|> v.assistant.root } }
  | .setRoot root => { v with assistant := { v.assistant with root := root } }
  | .complete _ line character | .hover _ line character =>
    if (Position.ofInts line character).isOk ∧ v.read?.isSome then v.settled else v
  | step => { v with current := v.current.map (step.textAfter uri) }

end View

section views

variable {uri : String} {s : Session}

theorem view_read? : (s.view uri).read? = s.readStore?.map (Store.get? · uri) := by
  unfold view View.read? readStore? Reading.view
  cases s.reading <;> rfl

theorem view_settled : s.settled.view uri = (s.view uri).settled := by
  unfold settled View.settled view Reading.view
  cases hreading : s.reading with
  | undecided => rfl
  | current => simp [hreading]
  | earlier store => simp [hreading]

theorem view_withNewStore : s.withNewStore.view uri = (s.view uri).renewed := by
  unfold withNewStore View.renewed view Reading.view
  cases s.reading with
  | undecided => rfl
  | earlier store => rfl
  | current => cases s.store <;> rfl

theorem view_withRoot (root : Option String) :
    (s.withRoot root).view uri =
      { s.view uri with assistant := { s.assistant with root := root } } := rfl

theorem view_start (folders : List String) (rootUri rootPath : Option String) :
    (s.start folders rootUri rootPath).1.view uri =
      (s.view uri).run uri (.start folders rootUri rootPath) := by
  rw [start, View.run]
  unfold nameRoot
  cases checkStoreRoot rootUri rootPath with
  | error err => rfl
  | ok u =>
      cases namedRoot? folders rootUri rootPath with
      | error err => exact view_withNewStore
      | ok named =>
          dsimp only
          rw [view_withRoot, view_withNewStore]
          rfl

/-- A step on the current store acts on the text of each document. -/
theorem view_onStore {act : Store → Except Error Store} {f : Option String → Option String}
    (notes : List Log.Note)
    (hact : ∀ store, ((act store).toOption.getD store).get? uri = f (store.get? uri)) :
    (s.onStore act notes).1.view uri = { s.view uri with current := (s.view uri).current.map f } := by
  unfold onStore
  cases hstore : s.store with
  | none => simp [view, hstore]
  | some store =>
      have h := hact store
      dsimp only
      cases hok : act store with
      | error err =>
          rw [hok] at h
          simp [view, hstore, ← h, Except.toOption]
      | ok next =>
          rw [hok] at h
          simp [view, hstore, ← h, Except.toOption]

theorem view_request {line character : Int} {answer : Store → Position → Outcome} :
    (s.request line character answer).1.view uri =
      if (Position.ofInts line character).isOk ∧ (s.view uri).read?.isSome then
        (s.view uri).settled else s.view uri := by
  unfold request
  rw [view_read?]
  cases Position.ofInts line character with
  | error err => simp [Except.isOk, Except.toBool]
  | ok p =>
      cases s.readStore? with
      | none => simp
      | some store => simp [Except.isOk, Except.toBool, view_settled]

/-- **Every step acts on the view of a document.** -/
theorem view_run (step : Step) : (s.run step).1.view uri = (s.view uri).run uri step := by
  cases step with
  | start folders rootUri rootPath => exact view_start folders rootUri rootPath
  | setRoot root => rfl
  | complete other line character => exact view_request
  | hover other line character => exact view_request
  | openDocument other text =>
      refine view_onStore _ ?_
      intro store
      rw [openIn, Step.textAfter]
      cases Location.toPath other with
      | error err => simp [Except.isOk, Except.toBool, Except.toOption]
      | ok path =>
          by_cases hu : other = uri
          · subst hu
            simp [Except.isOk, Except.toBool, Except.toOption]
          · simp [hu, Except.toOption, Store.get?_put_of_ne (Ne.symm hu)]
  | changeDocument other text =>
      refine view_onStore _ ?_
      intro store
      rw [changeIn, Step.textAfter]
      by_cases hu : other = uri
      · subst hu
        cases hget : store.get? other with
        | none => simp [Except.toOption, hget]
        | some old => simp [Except.toOption]
      · cases store.get? other with
        | none => simp [Except.toOption, hu]
        | some old => simp [Except.toOption, hu, Store.get?_put_of_ne (Ne.symm hu)]
  | closeDocument other =>
      refine view_onStore _ ?_
      intro store
      rw [Step.textAfter]
      by_cases hu : other = uri
      · subst hu
        simp [Except.toOption]
      · simp [Except.toOption, hu, Store.get?_erase_of_ne (Ne.symm hu)]

theorem view_runAll (steps : List Step) :
    (s.runAll steps).1.view uri = steps.foldl (View.run uri) (s.view uri) := by
  induction steps generalizing s with
  | nil => rfl
  | cons step steps ih =>
      rw [runAll_cons, ih, view_run]
      rfl

/-- A step on another document leaves the view. -/
theorem View.run_of_document_ne {other : String} {step : Step} (hd : step.document? = some other)
    (hne : other ≠ uri) (v : View) : v.run uri step = v := by
  have hid : step.textAfter uri = id := by
    funext known
    cases step with
    | openDocument u text =>
        obtain rfl := Option.some.inj hd
        simp [Step.textAfter, hne]
    | changeDocument u text =>
        obtain rfl := Option.some.inj hd
        simp [Step.textAfter, hne]
    | closeDocument u =>
        obtain rfl := Option.some.inj hd
        simp [Step.textAfter, hne]
    | _ => cases hd
  cases step with
  | openDocument u text => simp [View.run, hid]
  | changeDocument u text => simp [View.run, hid]
  | closeDocument u => simp [View.run, hid]
  | _ => cases hd

end views

/-! ### Answers from a text alone -/

/-- What a request for suggestions answers about a text that is known, or about no text. -/
def completion (a : Assistant) (p : Position) : Option String → Outcome
  | none => .ofAnswer (.ofSuggestions [])
  | some text => .ofAnswer (suggestionsOn a text p)

/-- What a hover answers about a text that is known, or about no text. -/
def hovering (a : Assistant) (p : Position) : Option String → Outcome
  | none => .answered (.hover none) []
  | some text => .answered (.hover (hoverOn a text p)) []

section requests

variable {uri : String} {s : Session} {line character : Int} {p : Position}

theorem run_complete (hp : Position.ofInts line character = .ok p) :
    (s.run (.complete uri line character)).2 =
      match s.readStore? with
      | none => .failed .notStarted
      | some store => completion s.assistant p (store.get? uri) := by
  rw [run, request, hp]
  dsimp only
  cases s.readStore? with
  | none => rfl
  | some store =>
      dsimp only [completeIn, suggestionsIn]
      cases store.get? uri <;> rfl

theorem run_hover (hp : Position.ofInts line character = .ok p) :
    (s.run (.hover uri line character)).2 =
      match s.readStore? with
      | none => .failed .notStarted
      | some store => hovering s.assistant p (store.get? uri) := by
  rw [run, request, hp]
  dsimp only
  cases s.readStore? with
  | none => rfl
  | some store =>
      dsimp only [hoverIn]
      cases store.get? uri <;> rfl

/-- Requests about a document see of a session only the view of the document. -/
theorem run_request_congr {t : Session} (hp : Position.ofInts line character = .ok p)
    (hv : s.view uri = t.view uri) :
    (s.run (.complete uri line character)).2 = (t.run (.complete uri line character)).2 ∧
      (s.run (.hover uri line character)).2 = (t.run (.hover uri line character)).2 := by
  have ha : s.assistant = t.assistant := congrArg View.assistant hv
  have hr : s.readStore?.map (Store.get? · uri) = t.readStore?.map (Store.get? · uri) := by
    rw [← view_read?, ← view_read?, hv]
  rw [run_complete hp, run_complete hp, run_hover hp, run_hover hp, ha]
  cases hs : s.readStore? <;> cases ht : t.readStore? <;> rw [hs, ht] at hr
  · exact ⟨rfl, rfl⟩
  · cases hr
  · cases hr
  · next a b =>
      have hget : a.get? uri = b.get? uri := Option.some.inj hr
      dsimp only
      rw [hget]
      exact ⟨rfl, rfl⟩

end requests

/-! ### Steps on other documents -/

/-- The document that a step is about. -/
def Step.about? : Step → Option String
  | .complete uri _ _ | .hover uri _ _ => some uri
  | step => step.document?

/-- A request that fails leaves the session, and so does one that is not the first to be answered. -/
theorem request_eq_self {a : Assistant} {s : Session} {h : List Event} (hs : Agrees a s h)
    {line character : Int} {answer : Store → Position → Outcome}
    (hanswer : ∀ store p, (answer store p).answers = true)
    (hfirst : (s.request line character answer).2.answers = true → ∃ e ∈ h, e.asks = true) :
    (s.request line character answer).1 = s := by
  unfold request at hfirst ⊢
  cases hp : Position.ofInts line character with
  | error err => rfl
  | ok p =>
      cases hr : s.readStore? with
      | none => rfl
      | some store =>
          rw [hp, hr] at hfirst
          obtain ⟨e, he, hasks⟩ := hfirst (hanswer store p)
          dsimp only [settled]
          cases hreading : s.reading with
          | undecided =>
              -- without an answered request before it, this one would be the first
              have hnone := hs.reading
              rw [hreading] at hnone
              rw [hnone e he] at hasks
              cases hasks
          | current => rfl
          | earlier earlier => rfl

/-- A step about another document leaves the view, unless it is the first answered request. -/
theorem view_run_of_about_ne {a : Assistant} {s : Session} {h : List Event} (hs : Agrees a s h)
    {uri other : String} {step : Step} (habout : step.about? = some other) (hne : other ≠ uri)
    (hfirst : (⟨step, (s.run step).2.answers⟩ : Event).asks = true → ∃ e ∈ h, e.asks = true) :
    (s.run step).1.view uri = s.view uri := by
  have hdocument : step.document? = some other → (s.run step).1.view uri = s.view uri := by
    intro hd
    rw [view_run, View.run_of_document_ne hd hne]
  cases step with
  | start folders rootUri rootPath => cases habout
  | setRoot root => cases habout
  | openDocument u text => exact hdocument habout
  | changeDocument u text => exact hdocument habout
  | closeDocument u => exact hdocument habout
  | complete u line character =>
      have hself : (s.request line character (s.completeIn u)).1 = s :=
        request_eq_self hs (fun store p => rfl) hfirst
      rw [run, hself]
  | hover u line character =>
      have hself := request_eq_self hs (fun store p => rfl) hfirst
      rw [run, hself]

/-! ### Stores that are no longer current -/

/-- A store that is no longer current keeps its texts, whatever happens later. -/
theorem holdsText_append_of_lt {h : List Event} {number : Nat} (hlt : number < storeNumber h)
    (more : List Event) (uri text : String) :
    HoldsText (h ++ more) number uri text ↔ HoldsText h number uri text := by
  induction more generalizing h with
  | nil => rw [List.append_nil]
  | cons e more ih =>
      have hle : storeNumber h ≤ storeNumber (h ++ [e]) := by
        rw [storeNumber_append]
        omega
      rw [← List.singleton_append, ← List.append_assoc, ih (by omega),
        holdsText_concat_of_ne (by omega)]

/-- Once the store that requests read has been replaced, it stays the one that they read. -/
theorem readNumber_append_of_lt {h : List Event} (hlt : readNumber h < storeNumber h)
    (more : List Event) : readNumber (h ++ more) = readNumber h := by
  refine readNumber_append_of_asked ?_ more
  by_contra hnone
  have heq : readNumber h = storeNumber h := by
    refine readNumber_of_not_asked ?_
    intro e he
    by_contra ha
    exact hnone ⟨e, he, by simpa using ha⟩
  omega

theorem history_append (s : Session) (a b : List Step) :
    history s (a ++ b) = history s a ++ history (s.runAll a).1 b := by
  induction a generalizing s with
  | nil => rfl
  | cons step a ih =>
      rw [List.cons_append, history, history, ih, List.cons_append, runAll_cons]

/-! ### Requests and the history -/

/-- **A request depends on the history alone.**  Before the first start that is answered it fails.
After that it is answered from the text that its document holds, by the history, in the store that
was current at the first answered request, with the root that was named last; a document that holds
no text there is not known.  Steps about other documents do not matter to it, but for the first
answered request, and once the store that it reads has been replaced, nothing that follows changes
the texts that it reads. -/
theorem request_outcome_of_history (settings : Settings) (lister : Folder.Lister)
    (steps : List Step) (uri : String) {line character : Int} {p : Position}
    (hp : Position.ofInts line character = .ok p) :
    let origin := ofSettings settings lister
    let h := history origin steps
    let a : Assistant := { origin.assistant with root := rootAfter h }
    let completed := fun steps => ((origin.runAll steps).1.run (.complete uri line character)).2
    let hovered := fun steps => ((origin.runAll steps).1.run (.hover uri line character)).2
    (storeNumber h = 0 →
      completed steps = .failed .notStarted ∧ hovered steps = .failed .notStarted) ∧
    (0 < storeNumber h →
      (∀ text, HoldsText h (readNumber h) uri text →
        completed steps = .ofAnswer (suggestionsOn a text p) ∧
          hovered steps = .answered (.hover (hoverOn a text p)) []) ∧
      ((∀ text, ¬ HoldsText h (readNumber h) uri text) →
        completed steps = .ofAnswer (.ofSuggestions []) ∧
          hovered steps = .answered (.hover none) [])) ∧
    (∀ past later step other, steps = past ++ step :: later → step.about? = some other →
      other ≠ uri →
      ((⟨step, ((origin.runAll past).1.run step).2.answers⟩ : Event).asks = true →
        ∃ e ∈ history origin past, e.asks = true) →
      completed steps = completed (past ++ later) ∧ hovered steps = hovered (past ++ later)) ∧
    (readNumber h < storeNumber h → ∀ more text,
      HoldsText (history origin (steps ++ more)) (readNumber (history origin (steps ++ more))) uri
        text ↔ HoldsText h (readNumber h) uri text) := by
  intro origin h a completed hovered
  have hs : Agrees origin.assistant (origin.runAll steps).1 h := agrees_history settings lister steps
  have ha : (origin.runAll steps).1.assistant = a := hs.assistant
  have hc := @run_complete uri (origin.runAll steps).1 line character p hp
  have hh := @run_hover uri (origin.runAll steps).1 line character p hp
  refine ⟨?_, ?_, ?_, ?_⟩
  · intro hzero
    rcases hs.readStore? with ⟨hnone, -⟩ | ⟨store, -, hpos, -⟩
    · rw [hnone] at hc hh
      exact ⟨hc, hh⟩
    · omega
  · intro hpos
    rcases hs.readStore? with ⟨-, hzero⟩ | ⟨store, hsome, -, hholds⟩
    · omega
    · rw [hsome, ha] at hc hh
      dsimp only at hc hh
      constructor
      · intro text ht
        rw [(hholds uri text).mpr ht] at hc hh
        exact ⟨hc, hh⟩
      · intro hnone
        have hget : store.get? uri = none := by
          rw [Option.eq_none_iff_forall_ne_some]
          intro text hsome
          exact hnone text ((hholds uri text).mp hsome)
        rw [hget] at hc hh
        exact ⟨hc, hh⟩
  · rintro past later step other rfl habout hne hfirst
    have hview := view_run_of_about_ne (agrees_history settings lister past) habout hne hfirst
    rw [view_run] at hview
    refine run_request_congr hp ?_
    rw [view_runAll, view_runAll, List.foldl_append, List.foldl_append, List.foldl_cons,
      ← view_runAll, hview]
  · intro hlt more text
    rw [history_append, readNumber_append_of_lt hlt, holdsText_append_of_lt hlt]

/-- A hover after a restart still sees the text of the store that the first hover read. -/
theorem request_outcome_of_history_restart :
    let origin := ofSettings {} fun _ => ⟨.ok [], []⟩
    let steps : List Step := [.start [] none none, .openDocument "a.mrya" "output",
      .hover "a.mrya" 0 0, .start [] none none, .openDocument "a.mrya" "wait"]
    Position.ofInts 0 0 = .ok ⟨0, 0⟩ ∧ HoldsText (history origin steps) 1 "a.mrya" "output" ∧
      ((origin.runAll steps).1.run (.hover "a.mrya" 0 0)).2 =
        .answered (.hover (hoverOn origin.assistant "output" ⟨0, 0⟩)) [] := by
  intro origin steps
  have hread : readNumber (history origin steps) = 1 := by decide +kernel
  have hpos : 0 < storeNumber (history origin steps) := by decide +kernel
  have hroot : rootAfter (history origin steps) = none := by decide +kernel
  have hstore : (origin.runAll steps).1.readStore? = some ⟨[("a.mrya", "output")]⟩ := by
    decide +kernel
  have hholds : HoldsText (history origin steps) 1 "a.mrya" "output" := by
    rcases (agrees_history {} _ steps).readStore? with ⟨-, hzero⟩ | ⟨store, hsome, -, hholds⟩
    · exact absurd hzero (Nat.ne_of_gt hpos)
    · obtain rfl := Option.some.inj (hsome.symm.trans hstore)
      rw [← hread]
      exact (hholds "a.mrya" "output").mp rfl
  have hp : Position.ofInts 0 0 = .ok ⟨0, 0⟩ := rfl
  obtain ⟨-, hstarted, -⟩ := request_outcome_of_history {} (fun _ => ⟨.ok [], []⟩) steps "a.mrya" hp
  refine ⟨hp, hholds, ?_⟩
  have hanswer := ((hstarted hpos).1 "output" (by rw [hread]; exact hholds)).2
  rw [hroot] at hanswer
  exact hanswer

/-- An open that fails gives no text, and a request about one document settles the store that
requests about another one read. -/
theorem refused_open_is_no_text :
    let origin := ofSettings {} fun _ => ⟨.ok [], []⟩
    let hovered := fun uri steps =>
      ((origin.runAll steps).1.run (.hover uri 0 0)).2.reply
    hovered "file://[x/y" [.start [] none none, .openDocument "file://[x/y" "output"] ≠
        .ok (.hover (hoverOn origin.assistant "output" ⟨0, 0⟩)) ∧
      hovered "a.mrya" [.start [] none none, .hover "b.mrya" 0 0, .start [] none none,
          .openDocument "a.mrya" "output"] ≠
        hovered "a.mrya" [.start [] none none, .start [] none none,
          .openDocument "a.mrya" "output"] := by
  decide +kernel

end EditorAssist.Session
