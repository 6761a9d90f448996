import EditorAssist.Proofs.Answered

/-! # The root of a session

The folder that is worked in is the one that the last step with a say in it gave.  Which steps have
one, and what they say, is decided by the steps alone: a start is refused for the root that it
names, whatever the session was before.

* `Step.SetsRoot`: the steps that give a session its root, and the root that they give;
* `run_of_setsRoot`, `run_of_not_setsRoot`: what one step does to the root;
* `root_eq_iff_lastRoot`: the root after a run;
* `root_of_steps`: that root is the one which later suggestions are made for. -/

namespace EditorAssist.Session

/-! ### Steps that set the root -/

/-- A new store refuses the root: its location cannot be read, or there is no location and the path
names a machine and no path on it. -/
def RefusesRoot (rootUri rootPath : Option String) : Prop :=
  (∃ uri fault, rootUri = some uri ∧ Location.toPath uri = .error fault) ∨
    rootUri = none ∧ ∃ machine, rootPath = some ("//" ++ machine) ∧ '/' ∉ machine.toList

/-- The step gives the session the root. -/
inductive Step.SetsRoot : Step → Option String → Prop
  | setRoot (root : Option String) : SetsRoot (.setRoot root) root
  /-- The first folder comes before everything else that a start names. -/
  | folder {folder path : String} {more : List String} {rootUri rootPath : Option String} :
      ¬ RefusesRoot rootUri rootPath → Location.toPath folder = .ok path →
      SetsRoot (.start (folder :: more) rootUri rootPath) (some path)
  | location {uri path : String} {rootPath : Option String} :
      uri ≠ "" → Location.toPath uri = .ok path →
      SetsRoot (.start [] (some uri) rootPath) (some path)
  /-- A path is taken as it is, where there is no location or an empty one. -/
  | path {path : String} {rootUri : Option String} :
      ¬ RefusesRoot rootUri (some path) → rootUri.getD "" = "" → path ≠ "" →
      SetsRoot (.start [] rootUri (some path)) (some path)

/-- The root that steps leave: what the last of them that sets a root gives, or else none. -/
def LastRoot (steps : List Step) (root : Option String) : Prop :=
  (∃ past step later, steps = past ++ step :: later ∧ step.SetsRoot root ∧
    ∀ next ∈ later, ∀ other, ¬ next.SetsRoot other) ∨
  root = none ∧ ∀ step ∈ steps, ∀ other, ¬ step.SetsRoot other

section start

variable {folders : List String} {rootUri rootPath : Option String}

theorem namesMachineOnly_iff {path : String} :
    namesMachineOnly path = true ↔ ∃ machine, path = "//" ++ machine ∧ '/' ∉ machine.toList := by
  unfold namesMachineOnly
  constructor
  · intro h
    split at h
    · next rest hpath =>
        refine ⟨String.ofList rest, ?_, by simpa using h⟩
        apply String.toList_injective
        rw [hpath]
        simp
    · cases h
  · rintro ⟨machine, rfl, hmachine⟩
    simpa using hmachine

theorem checkStoreRoot_eq_ok_iff :
    checkStoreRoot rootUri rootPath = .ok () ↔ ¬ RefusesRoot rootUri rootPath := by
  unfold checkStoreRoot RefusesRoot
  cases rootUri with
  | some uri =>
      dsimp only
      cases hpath : Location.toPath uri with
      | ok path => simp [hpath]
      | error fault => simp [hpath]
  | none =>
      cases rootPath with
      | none => simp
      | some path =>
          dsimp only
          split
          · next hmachine => simpa using namesMachineOnly_iff.mp hmachine
          · next hmachine => simpa [namesMachineOnly_iff] using hmachine

theorem namedRoot?_folder (folder : String) (more : List String) :
    namedRoot? (folder :: more) rootUri rootPath = (Location.toPath folder).map some := rfl

theorem namedRoot?_location {uri : String} (huri : uri ≠ "") :
    namedRoot? [] (some uri) rootPath = (Location.toPath uri).map some := by
  have hfilter : (some uri).filter (· ≠ "") = some uri := by simp [huri]
  unfold namedRoot?
  rw [hfilter]

theorem namedRoot?_path (huri : rootUri.getD "" = "") :
    namedRoot? [] rootUri rootPath = .ok (rootPath.filter (· ≠ "")) := by
  have hfilter : rootUri.filter (· ≠ "") = none := by
    cases rootUri with
    | none => rfl
    | some uri => simpa using huri
  unfold namedRoot?
  rw [hfilter]

theorem map_some_eq_ok_iff {read : Except Location.Fault String} {path : String} :
    read.map some = .ok (some path) ↔ read = .ok path := by
  cases read <;> simp [Except.map]

/-- A start sets the root that it names, if it is not refused. -/
theorem setsRoot_start_iff {root : Option String} :
    (Step.start folders rootUri rootPath).SetsRoot root ↔
      ¬ RefusesRoot rootUri rootPath ∧
        ∃ path, namedRoot? folders rootUri rootPath = .ok (some path) ∧ root = some path := by
  constructor
  · intro h
    cases h with
    | folder hrefuses hpath =>
        exact ⟨hrefuses, _, (namedRoot?_folder _ _).trans (map_some_eq_ok_iff.mpr hpath), rfl⟩
    | location huri hpath =>
        refine ⟨?_, _, (namedRoot?_location huri).trans (map_some_eq_ok_iff.mpr hpath), rfl⟩
        rintro (⟨uri, fault, hsame, hfault⟩ | ⟨hnone, -⟩)
        · obtain rfl := Option.some.inj hsame
          rw [hpath] at hfault
          cases hfault
        · cases hnone
    | path hrefuses huri hpath =>
        refine ⟨hrefuses, _, ?_, rfl⟩
        rw [namedRoot?_path huri]
        simp [hpath]
  · rintro ⟨hrefuses, path, hnamed, rfl⟩
    cases folders with
    | cons folder more =>
        rw [namedRoot?_folder] at hnamed
        exact .folder hrefuses (map_some_eq_ok_iff.mp hnamed)
    | nil =>
        by_cases huri : rootUri.getD "" = ""
        · rw [namedRoot?_path huri, Except.ok.injEq, Option.filter_eq_some_iff] at hnamed
          obtain ⟨rfl, hpath⟩ := hnamed
          exact .path hrefuses huri (by simpa using hpath)
        · cases rootUri with
          | none => exact absurd rfl huri
          | some uri =>
              have hne : uri ≠ "" := huri
              rw [namedRoot?_location hne] at hnamed
              exact .location hne (map_some_eq_ok_iff.mp hnamed)

end start

/-! ### One step -/

section steps

variable {s : Session} {step : Step} {root : Option String}

theorem onStore_assistant (s : Session) (act : Store → Except Error Store)
    (notes : List Log.Note) : (s.onStore act notes).1.assistant = s.assistant := by
  unfold onStore
  split
  · rfl
  · split <;> rfl

theorem request_assistant (s : Session) (line character : Int)
    (answer : Store → Position → Outcome) :
    (s.request line character answer).1.assistant = s.assistant := by
  unfold request
  split
  · rfl
  · split
    · rfl
    · exact s.settled_assistant

/-- A step about a document leaves the assistant as it was. -/
theorem run_assistant_of_about {uri : String} (h : step.about? = some uri) :
    (s.run step).1.assistant = s.assistant := by
  cases step with
  | start folders rootUri rootPath => cases h
  | setRoot root => cases h
  | openDocument u text => exact s.onStore_assistant _ _
  | changeDocument u text => exact s.onStore_assistant _ _
  | closeDocument u => exact s.onStore_assistant _ _
  | complete u line character => exact s.request_assistant _ _ _
  | hover u line character => exact s.request_assistant _ _ _

theorem not_setsRoot_of_about {uri : String} (h : step.about? = some uri) :
    ¬ step.SetsRoot root := by
  intro hsets
  cases hsets <;> cases h

theorem start_root_of_named {folders : List String} {rootUri rootPath : Option String}
    (hrefuses : ¬ RefusesRoot rootUri rootPath) {path : String}
    (hnamed : namedRoot? folders rootUri rootPath = .ok (some path)) :
    (s.start folders rootUri rootPath).1.assistant.root = some path := by
  rw [start, checkStoreRoot_eq_ok_iff.mpr hrefuses, hnamed]
  rfl

/-- A step that sets a root gives it to the session. -/
theorem run_of_setsRoot (h : step.SetsRoot root) : (s.run step).1.assistant.root = root := by
  cases step with
  | setRoot other =>
      cases h
      rfl
  | start folders rootUri rootPath =>
      obtain ⟨hrefuses, path, hnamed, rfl⟩ := setsRoot_start_iff.mp h
      exact start_root_of_named hrefuses hnamed
  | _ => exact absurd h (not_setsRoot_of_about rfl)

/-- A step that sets none leaves the root as it was. -/
theorem run_of_not_setsRoot (h : ∀ root, ¬ step.SetsRoot root) :
    (s.run step).1.assistant.root = s.assistant.root := by
  cases step with
  | setRoot root => exact absurd (.setRoot root) (h root)
  | start folders rootUri rootPath =>
      rw [run, start]
      cases hcheck : checkStoreRoot rootUri rootPath with
      | error e => rfl
      | ok u =>
          have hrefuses := checkStoreRoot_eq_ok_iff.mp hcheck
          dsimp only [nameRoot]
          cases hnamed : namedRoot? folders rootUri rootPath with
          | error fault => rfl
          | ok named =>
              cases named with
              | none => rfl
              | some path =>
                  have hsets := setsRoot_start_iff.mpr ⟨hrefuses, path, hnamed, rfl⟩
                  exact absurd hsets (h _)
  | _ => exact congrArg Assistant.root (run_assistant_of_about rfl)

end steps

/-! ### A whole run -/

theorem runAll_append (s : Session) (a b : List Step) :
    (s.runAll (a ++ b)).1 = ((s.runAll a).1.runAll b).1 := by
  induction a generalizing s with
  | nil => rfl
  | cons step a ih => rw [List.cons_append, runAll_cons, runAll_cons, ih]

theorem runAll_of_not_setsRoot (s : Session) {steps : List Step}
    (h : ∀ step ∈ steps, ∀ root, ¬ step.SetsRoot root) :
    (s.runAll steps).1.assistant.root = s.assistant.root := by
  induction steps generalizing s with
  | nil => rfl
  | cons step steps ih =>
      rw [runAll_cons, ih _ fun next hnext => h next (List.mem_cons_of_mem _ hnext),
        run_of_not_setsRoot (h step List.mem_cons_self)]

/-- One of the steps is the last that sets a root, or none of them sets one. -/
theorem exists_last_setsRoot (steps : List Step) :
    (∃ past step later root, steps = past ++ step :: later ∧ step.SetsRoot root ∧
      ∀ next ∈ later, ∀ other, ¬ next.SetsRoot other) ∨
    ∀ step ∈ steps, ∀ other, ¬ step.SetsRoot other := by
  induction steps with
  | nil => exact .inr (by simp)
  | cons step steps ih =>
      rcases ih with ⟨past, last, later, root, rfl, hsets, hquiet⟩ | hquiet
      · exact .inl ⟨step :: past, last, later, root, rfl, hsets, hquiet⟩
      · -- nothing after this step sets a root, so it is the last one if it sets one at all
        by_cases hsets : ∃ root, step.SetsRoot root
        · obtain ⟨root, hroot⟩ := hsets
          exact .inl ⟨[], step, steps, root, rfl, hroot, hquiet⟩
        · rw [not_exists] at hsets
          exact .inr (List.forall_mem_cons.mpr ⟨hsets, hquiet⟩)

/-- A session has the root that its steps leave. -/
theorem root_of_lastRoot {s : Session} (hs : s.assistant.root = none) {steps : List Step}
    {root : Option String} (h : LastRoot steps root) :
    (s.runAll steps).1.assistant.root = root := by
  rcases h with ⟨past, step, later, rfl, hsets, hquiet⟩ | ⟨rfl, hquiet⟩
  · rw [runAll_append, runAll_cons, runAll_of_not_setsRoot _ hquiet, run_of_setsRoot hsets]
  · rw [runAll_of_not_setsRoot _ hquiet, hs]

theorem root_eq_iff_lastRoot {s : Session} (hs : s.assistant.root = none) {steps : List Step}
    {root : Option String} :
    (s.runAll steps).1.assistant.root = root ↔ LastRoot steps root := by
  refine ⟨?_, root_of_lastRoot hs⟩
  rintro rfl
  rcases exists_last_setsRoot steps with ⟨past, step, later, root, hsteps, hsets, hquiet⟩ | hquiet
  · have hlast : LastRoot steps root := .inl ⟨past, step, later, hsteps, hsets, hquiet⟩
    rw [root_of_lastRoot hs hlast]
    exact hlast
  · have hlast : LastRoot steps none := .inr ⟨rfl, hquiet⟩
    rw [root_of_lastRoot hs hlast]
    exact hlast

/-! ### Folders that are listed -/

/-- An answer lists no folder but the one that is worked in. -/
theorem root_of_mem_listed {a : Assistant} {text before root : String}
    (h : root ∈ (a.complete text before).listed) : a.root = some root := by
  by_cases hlists : ∃ root, a.Lists before root
  · obtain ⟨other, hother⟩ := hlists
    rw [(Assistant.complete_of_lists hother).1, List.mem_singleton] at h
    rw [h]
    exact hother.2.1
  · rw [not_exists] at hlists
    rw [(Assistant.complete_of_not_lists hlists).1] at h
    cases h

theorem root_of_mem_run_listed {s : Session} {uri root : String} {line character : Int}
    (h : root ∈ (s.run (.complete uri line character)).2.listed) :
    s.assistant.root = some root := by
  cases hp : Position.ofInts line character with
  | error e =>
      rw [run, request, hp] at h
      cases h
  | ok p =>
      rw [run_complete hp] at h
      cases hstore : s.readStore? with
      | none =>
          rw [hstore] at h
          cases h
      | some store =>
          rw [hstore] at h
          dsimp only at h
          cases htext : store.get? uri with
          | none =>
              rw [htext] at h
              cases h
          | some text =>
              rw [htext] at h
              dsimp only [completion, suggestionsOn, Outcome.ofAnswer] at h
              cases hbefore : textBefore? text p with
              | none =>
                  rw [hbefore] at h
                  cases h
              | some before =>
                  rw [hbefore] at h
                  exact root_of_mem_listed h

/-- **The root is the last one that was set.**  After every sequence of steps the root is the one
that the last step that sets a root gave, and there is none if no step set one.  A step about a
document never sets one; a start sets its first folder, else its location, else its path, and none
of them if the new store refuses its root or the folder cannot be read.  Suggestions list no other
folder. -/
theorem root_of_steps (settings : Settings) (lister : Folder.Lister) (steps : List Step) :
    let s := ((ofSettings settings lister).runAll steps).1
    (∀ root, s.assistant.root = root ↔ LastRoot steps root) ∧
    (∀ step root, step.SetsRoot root → (s.run step).1.assistant.root = root) ∧
    (∀ step, (∀ root, ¬ step.SetsRoot root) → (s.run step).1.assistant.root = s.assistant.root) ∧
    (∀ step uri, step.about? = some uri → (s.run step).1.assistant.root = s.assistant.root) ∧
    ∀ uri line character, ∀ root ∈ (s.run (.complete uri line character)).2.listed,
      LastRoot steps (some root) := by
  intro s
  have hroot : ∀ root, s.assistant.root = root ↔ LastRoot steps root :=
    fun root => root_eq_iff_lastRoot rfl
  refine ⟨hroot, fun step root => run_of_setsRoot, fun step => run_of_not_setsRoot, ?_, ?_⟩
  · intro step uri habout
    exact congrArg Assistant.root (run_assistant_of_about habout)
  · intro uri line character root hmem
    exact (hroot (some root)).mp (root_of_mem_run_listed hmem)

/-- A start whose folder cannot be read and one that is refused leave the root for which an import
is completed; a start with a folder that can be read sets another one. -/
theorem root_of_steps_folders :
    let origin := ofSettings {} fun _ => ⟨.ok [], []⟩
    let steps : List Step := [.start [] (some "file:///u") none, .start ["file://[x/y"] none none,
      .start [] none (some "//host"), .openDocument "a.mrya" "import(\""]
    let s := (origin.runAll steps).1
    LastRoot steps (some "/u") ∧ (s.run (.complete "a.mrya" 0 8)).2.listed = ["/u"] ∧
      (s.run (.start ["file:///c%20d"] none (some "/p"))).1.assistant.root = some "/c d" := by
  intro origin steps s
  obtain ⟨-, hsets, -, -, hlisted⟩ := root_of_steps {} (fun _ => ⟨.ok [], []⟩) steps
  have hlisting : (s.run (.complete "a.mrya" 0 8)).2.listed = ["/u"] := by decide +kernel
  refine ⟨hlisted "a.mrya" 0 8 "/u" (by rw [hlisting]; simp), hlisting, hsets _ _ (.folder ?_ ?_)⟩
  · exact checkStoreRoot_eq_ok_iff.mp (by decide +kernel)
  · decide +kernel

/-- A start that names its root by a path with a machine and nothing more is refused, and takes
neither that path nor the folder that it names beside it. -/
theorem machine_root_is_refused :
    let rootAfter := fun steps =>
      ((ofSettings {} fun _ => ⟨.ok [], []⟩).runAll steps).1.assistant.root
    rootAfter [.start [] none (some "//host")] ≠ some "//host" ∧
      Location.toPath "file:///f" = .ok "/f" ∧
      rootAfter [.start ["file:///f"] none (some "//host")] ≠ some "/f" := by
  decide +kernel

end EditorAssist.Session
