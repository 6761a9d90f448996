import EditorAssist.Proofs.Documented
import EditorAssist.Proofs.Hovering

/-! # Requests are always answered

A folder is listed only where the path of an import is expected, once, and only the folder that is
worked in.  If the listing fails, the answer is the one of an assistant without a folder; otherwise
what is in the folder follows it.

* `complete_of_lists`, `complete_of_not_lists`: what an answer owes to the folder;
* `complete_lister_congr`: an answer depends on the lister at the folders that were listed alone;
* `requests_always_answered`: nothing of this fails, and after a start no request of a session
  does. -/

namespace EditorAssist

open Text

/-! ### Items of a folder -/

/-- The suggestion is for the item, as a folder or as a file. -/
structure ShowsItem (item : Folder.Item) (s : Suggestion) : Prop where
  label : s.label = item.name
  kind : s.kind = if item.isFolder then .folder else .file
  insertText : s.insertText = if item.isFolder then item.name ++ "/" else item.name

theorem showsItem_of_ofItem? {sourceExtension : String} {item : Folder.Item} {s : Suggestion}
    (h : Suggestion.ofItem? sourceExtension item = some s) : ShowsItem item s := by
  unfold Suggestion.ofItem? at h
  split at h
  · next hfolder =>
      obtain rfl := Option.some.inj h
      exact ⟨rfl, (if_pos hfolder).symm, (if_pos hfolder).symm⟩
  · next hfile =>
      split at h
      · obtain rfl := Option.some.inj h
        exact ⟨rfl, (if_neg hfile).symm, (if_neg hfile).symm⟩
      · cases h

theorem ofItem?_isSome_iff {sourceExtension : String} {item : Folder.Item} :
    (Suggestion.ofItem? sourceExtension item).isSome = true ↔
      item.isFolder = true ∨ sourceExtension.toList <:+ item.name.toList := by
  unfold Suggestion.ofItem?
  rw [← List.isSuffixOf_iff_suffix]
  cases item.isFolder <;> cases sourceExtension.toList.isSuffixOf item.name.toList <;> simp

/-- Folders and source files are suggested, each once and in the order of the listing. -/
theorem items_shown (sourceExtension : String) (items : List Folder.Item) :
    List.Forall₂ ShowsItem
      (items.filter fun item => item.isFolder ∨ sourceExtension.toList <:+ item.name.toList)
      (items.filterMap (Suggestion.ofItem? sourceExtension)) := by
  have hfilter : items.filter
      (fun item => item.isFolder ∨ sourceExtension.toList <:+ item.name.toList) =
      items.filter fun item => (Suggestion.ofItem? sourceExtension item).isSome := by
    apply List.filter_congr
    intro item _
    rw [Bool.eq_iff_iff, decide_eq_true_eq, ofItem?_isSome_iff]
  rw [hfilter]
  exact forall₂_filterMap (fun _ _ => showsItem_of_ofItem?) items

/-! ### Listing the folder that is worked in -/

namespace Assistant

variable {a : Assistant} {text before root : String}

/-- The assistant with no folder to work in. -/
def withoutRoot (a : Assistant) : Assistant := { a with root := none }

/-- The assistant with another way to list folders. -/
def withLister (a : Assistant) (lister : Folder.Lister) : Assistant := { a with lister := lister }

/-- The folder is listed for the text before the cursor: the path of an import is expected there,
and the folder is the one that is worked in. -/
def Lists (a : Assistant) (before root : String) : Prop :=
  Spot.ofText before = .importPath ∧ a.root = some root ∧ root ≠ ""

theorem namedRoot?_eq_some_iff : a.namedRoot? = some root ↔ a.root = some root ∧ root ≠ "" := by
  simp [namedRoot?]

theorem importPaths_of_unnamed (h : a.namedRoot? = none) :
    a.importPaths = .ofSuggestions (Suggestion.imports a.handbook) := by
  rw [importPaths, h]

theorem importPaths_of_named (h : a.namedRoot? = some root) :
    a.importPaths = { a.filesIn root with
      suggestions := Suggestion.imports a.handbook ++ (a.filesIn root).suggestions } := by
  rw [importPaths, h]

theorem filesIn_listed (a : Assistant) (root : String) : (a.filesIn root).listed = [root] := by
  unfold filesIn
  dsimp only
  split <;> rfl

theorem filesIn_of_ok {items : List Folder.Item} (h : (a.lister root).outcome = .ok items) :
    (a.filesIn root).suggestions = items.filterMap (Suggestion.ofItem? a.sourceExtension) := by
  unfold filesIn
  simp only [h]

theorem filesIn_of_error {message : String} (h : (a.lister root).outcome = .error message) :
    (a.filesIn root).suggestions = [] := by
  unfold filesIn
  simp only [h]

/-- An import path is a module that can be imported, or an item of the folder. -/
theorem mem_importPaths {s : Suggestion} (hs : s ∈ a.importPaths.suggestions) :
    s ∈ Suggestion.imports a.handbook ∨ ∃ item, ShowsItem item s := by
  cases hroot : a.namedRoot? with
  | none =>
      rw [importPaths_of_unnamed hroot] at hs
      exact .inl hs
  | some root =>
      rw [importPaths_of_named hroot] at hs
      rcases List.mem_append.mp hs with hs | hs
      · exact .inl hs
      · cases hlisting : (a.lister root).outcome with
        | error message =>
            rw [filesIn_of_error hlisting] at hs
            cases hs
        | ok items =>
            rw [filesIn_of_ok hlisting] at hs
            obtain ⟨item, -, hitem⟩ := List.mem_filterMap.mp hs
            exact .inr ⟨item, showsItem_of_ofItem? hitem⟩

/-- Where no import path is expected, only the handbook and the text matter. -/
theorem suggestAt_of_ne_importPath {spot : Spot} (h : spot ≠ .importPath) {b : Assistant}
    (hbook : b.handbook = a.handbook) : b.suggestAt spot text = a.suggestAt spot text := by
  cases spot with
  | importPath => exact absurd rfl h
  | declaration => rfl
  | literalOrComment => rfl
  | member receiver => rw [suggestAt, suggestAt, hbook]
  | general => rw [suggestAt, suggestAt, hbook]

theorem suggestAt_listed_of_ne_importPath {spot : Spot} (h : spot ≠ .importPath) :
    (a.suggestAt spot text).listed = [] := by
  cases spot with
  | importPath => exact absurd rfl h
  | _ => rfl

/-- Without a folder to list, the answer is the one of an assistant that has none. -/
theorem complete_of_not_lists (h : ∀ root, ¬ a.Lists before root) :
    (a.complete text before).listed = [] ∧
      (a.complete text before).suggestions =
        (a.withoutRoot.complete text before).suggestions := by
  dsimp only [complete]
  by_cases hspot : Spot.ofText before = .importPath
  · have hroot : a.namedRoot? = none := by
      rw [Option.eq_none_iff_forall_ne_some]
      intro root hroot
      exact h root ⟨hspot, namedRoot?_eq_some_iff.mp hroot⟩
    have halone : a.withoutRoot.namedRoot? = none := rfl
    rw [hspot, suggestAt, suggestAt, importPaths_of_unnamed hroot, importPaths_of_unnamed halone]
    exact ⟨rfl, rfl⟩
  · have hsame : a.withoutRoot.suggestAt (Spot.ofText before) text =
        a.suggestAt (Spot.ofText before) text := suggestAt_of_ne_importPath hspot rfl
    rw [hsame]
    exact ⟨suggestAt_listed_of_ne_importPath hspot, rfl⟩

/-- With a folder to list, it is listed once, and what is in it follows the answer of an assistant
that has none. -/
theorem complete_of_lists (h : a.Lists before root) :
    (a.complete text before).listed = [root] ∧
      (a.complete text before).suggestions =
        (a.withoutRoot.complete text before).suggestions ++
          (a.filesIn root).suggestions := by
  obtain ⟨hspot, hroot⟩ := h
  have halone : a.withoutRoot.namedRoot? = none := rfl
  dsimp only [complete]
  rw [hspot, suggestAt, suggestAt, importPaths_of_named (namedRoot?_eq_some_iff.mpr hroot),
    importPaths_of_unnamed halone]
  exact ⟨a.filesIn_listed root, rfl⟩

/-- A lister that agrees at the listed folders gives the same answer. -/
theorem complete_lister_congr {lister : Folder.Lister}
    (h : ∀ root ∈ (a.complete text before).listed, lister root = a.lister root) :
    (a.withLister lister).complete text before = a.complete text before := by
  have hanswer : (a.withLister lister).suggestAt (Spot.ofText before) text =
      a.suggestAt (Spot.ofText before) text := by
    by_cases hspot : Spot.ofText before = .importPath
    · rw [hspot, suggestAt, suggestAt]
      cases hroot : a.namedRoot? with
      | none =>
          have hroot' : (a.withLister lister).namedRoot? = none := hroot
          rw [importPaths_of_unnamed hroot, importPaths_of_unnamed hroot']
          rfl
      | some root =>
          have hroot' : (a.withLister lister).namedRoot? = some root := hroot
          have hlists : a.Lists before root := ⟨hspot, namedRoot?_eq_some_iff.mp hroot⟩
          -- the folder that is worked in was listed, so both listers give the same for it
          have hsame : lister root = a.lister root :=
            h root (by rw [(complete_of_lists hlists).1]; simp)
          have hfiles : (a.withLister lister).filesIn root = a.filesIn root := by
            simp only [filesIn, withLister, hsame]
          rw [importPaths_of_named hroot, importPaths_of_named hroot', hfiles]
          rfl
    · exact suggestAt_of_ne_importPath hspot rfl
  simp only [complete, hanswer]

end Assistant

/-! ### Positions that can be asked about -/

namespace Session

/-- At a position that an editor may ask for, the line and the word can be read. -/
theorem reads_at_position {line character : Int} {p : Position}
    (hp : Position.ofInts line character = .ok p) (text : String) (shown : List Char) :
    (∃ before, Document.textBefore text line character = .ok before) ∧
      ∃ word, Document.wordAt shown character = .ok word := by
  obtain ⟨rfl, rfl, -, -⟩ := ofInts_eq_ok_iff.mp hp
  exact ⟨⟨_, textBefore_eq_ok text p⟩, _, rfl⟩

/-- After a start that was answered there is a store to read. -/
theorem storeNumber_pos_of_start (s : Session) (past later : List Step) {folders : List String}
    {rootUri rootPath : Option String}
    (h : ((s.runAll past).1.run (.start folders rootUri rootPath)).2.answers = true) :
    0 < storeNumber (history s (past ++ .start folders rootUri rootPath :: later)) := by
  have hrenews : Event.renews ⟨.start folders rootUri rootPath,
      ((s.runAll past).1.run (.start folders rootUri rootPath)).2.answers⟩ = true := h
  rw [history_append, history, storeNumber_append, storeNumber, storeNumber,
    List.countP_cons_of_pos hrenews]
  omega

/-- Once there is a store to read, every request at a position is answered. -/
theorem replies_of_started {settings : Settings} {lister : Folder.Lister} {steps : List Step}
    (hpos : 0 < storeNumber (history (ofSettings settings lister) steps)) {line character : Int}
    {p : Position} (hp : Position.ofInts line character = .ok p) (uri : String) :
    let s := ((ofSettings settings lister).runAll steps).1
    (∃ suggestions, (s.run (.complete uri line character)).2.reply =
      .ok (.suggestions suggestions)) ∧
      ∃ hover, (s.run (.hover uri line character)).2.reply = .ok (.hover hover) := by
  intro s
  rcases (agrees_history settings lister steps).readStore? with ⟨-, hzero⟩ | ⟨store, hsome, -, -⟩
  · omega
  · refine ⟨?_, _, run_hover_of_started hsome hp uri⟩
    rw [run_complete hp, hsome]
    dsimp only
    cases store.get? uri with
    | none => exact ⟨_, rfl⟩
    | some text => exact ⟨_, rfl⟩

end Session

/-- **Requests are always answered.**  Whatever the lister gives, an assistant answers.  Where the
path of an import is expected, it lists the folder that is worked in, once; everywhere else it lists
none, and the lister matters at the listed folders alone.  A listing that fails adds nothing to what
is suggested without a folder, and one that does not fail adds its folders and source files in its
order.  In a session, once a start has been answered, every request about numbers in range is
answered, for every document, and neither the line nor the word there is out of reach. -/
theorem requests_always_answered :
    (∀ (a : Assistant) (text before : String),
      let answer := a.complete text before
      let alone := a.withoutRoot.complete text before
      (∀ root, a.Lists before root →
        answer.listed = [root] ∧
        (∀ message, (a.lister root).outcome = .error message →
          answer.suggestions = alone.suggestions) ∧
        ∀ items, (a.lister root).outcome = .ok items →
          ∃ offered, answer.suggestions = alone.suggestions ++ offered ∧
            List.Forall₂ ShowsItem
              (items.filter fun item =>
                item.isFolder ∨ a.sourceExtension.toList <:+ item.name.toList) offered) ∧
      ((∀ root, ¬ a.Lists before root) →
        answer.listed = [] ∧ answer.suggestions = alone.suggestions) ∧
      ∀ lister : Folder.Lister, (∀ root ∈ answer.listed, lister root = a.lister root) →
        (a.withLister lister).complete text before = answer) ∧
    ∀ (settings : Settings) (lister : Folder.Lister) (past later : List Session.Step)
      (folders : List String) (rootUri rootPath : Option String) (uri : String)
      (line character : Int),
      let origin := Session.ofSettings settings lister
      let s := (origin.runAll (past ++ .start folders rootUri rootPath :: later)).1
      ((origin.runAll past).1.run (.start folders rootUri rootPath)).2.answers = true →
      0 ≤ line → line ≤ Session.maxCoordinate → 0 ≤ character →
      character ≤ Session.maxCoordinate →
        (∃ suggestions, (s.run (.complete uri line character)).2.reply =
          .ok (.suggestions suggestions)) ∧
        (∃ hover, (s.run (.hover uri line character)).2.reply = .ok (.hover hover)) ∧
        ∀ text shown, (∃ before, Document.textBefore text line character = .ok before) ∧
          ∃ word, Document.wordAt shown character = .ok word := by
  constructor
  · intro a text before answer alone
    refine ⟨?_, Assistant.complete_of_not_lists, fun lister => Assistant.complete_lister_congr⟩
    intro root hlists
    obtain ⟨hlisted, hsuggestions⟩ :
        answer.listed = [root] ∧
          answer.suggestions = alone.suggestions ++ (a.filesIn root).suggestions :=
      Assistant.complete_of_lists hlists
    refine ⟨hlisted, ?_, ?_⟩
    · intro message hlisting
      rw [Assistant.filesIn_of_error hlisting, List.append_nil] at hsuggestions
      exact hsuggestions
    · intro items hlisting
      rw [Assistant.filesIn_of_ok hlisting] at hsuggestions
      exact ⟨_, hsuggestions, items_shown a.sourceExtension items⟩
  · intro settings lister past later folders rootUri rootPath uri line character origin s hstart
      hline hlineMax hcharacter hcharacterMax
    have hp : Session.Position.ofInts line character = .ok ⟨line.toNat, character.toNat⟩ :=
      Session.ofInts_eq_ok_iff.mpr (by dsimp only; omega)
    obtain ⟨hcomplete, hhover⟩ := Session.replies_of_started
      (Session.storeNumber_pos_of_start origin past later hstart) hp uri
    exact ⟨hcomplete, hhover, fun text shown => Session.reads_at_position hp text shown⟩

/-- An import lists a folder and offers what can be imported from it, or nothing of it if it cannot
be read; a session that was asked too early answers after a start, also far beyond the text. -/
theorem requests_always_answered_import :
    let items : List Folder.Item := [⟨"lib", true⟩, ⟨"notes.txt", false⟩, ⟨"main.mrya", false⟩]
    let a : Assistant := ⟨.mrya, fun _ => ⟨.ok items, []⟩, some "/p", Assistant.mryaExtension⟩
    let failing := a.withLister fun _ => ⟨.error "denied", []⟩
    let s := ((Session.ofSettings {} a.lister).runAll
      ([.hover "a.mrya" 0 0] ++ [.start [] none none])).1
    a.Lists "import(\"" "/p" ∧ (a.complete "" "import(\"").listed = ["/p"] ∧
      (∃ offered, (a.complete "" "import(\"").suggestions =
          (a.withoutRoot.complete "" "import(\"").suggestions ++ offered ∧
        List.Forall₂ ShowsItem [⟨"lib", true⟩, ⟨"main.mrya", false⟩] offered) ∧
      (failing.complete "" "import(\"").suggestions =
        (failing.withoutRoot.complete "" "import(\"").suggestions ∧
      ∃ hover, (s.run (.hover "a.mrya" 0 2147483647)).2.reply = .ok (.hover hover) := by
  intro items a failing s
  have hlists : a.Lists "import(\"" "/p" := ⟨by decide +kernel, rfl, by decide⟩
  obtain ⟨hlisted, -, hoffered⟩ := (requests_always_answered.1 a "" "import(\"").1 "/p" hlists
  obtain ⟨-, hfailed, -⟩ := (requests_always_answered.1 failing "" "import(\"").1 "/p" hlists
  obtain ⟨-, hhover, -⟩ := requests_always_answered.2 {} a.lister [.hover "a.mrya" 0 0] [] [] none
    none "a.mrya" 0 2147483647 (by decide +kernel) (by decide) (by decide) (by decide) (by decide)
  have hitems : (items.filter fun item =>
      item.isFolder ∨ a.sourceExtension.toList <:+ item.name.toList) =
      [⟨"lib", true⟩, ⟨"main.mrya", false⟩] := by decide +kernel
  have hshown := hoffered items rfl
  rw [hitems] at hshown
  exact ⟨hlists, hlisted, hshown, hfailed "denied" rfl, hhover⟩

end EditorAssist
