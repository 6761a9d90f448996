import Mathlib.Data.Finset.Basic
import Mathlib.Data.List.Perm.Basic
import EditorAssist.Proofs.Answered

/-! # Folders in any order

A file system enumerates a folder in whatever order it likes, each item once.  What a folder holds
is therefore a finite set of items, of which no two have the same name (`Folder.Content`), and an
enumeration is a list with these items.  The lister sorts by name, and there is one sorted list of a
content only, so neither a listing nor what is offered from it depends on the enumeration.

* `Folder.sortItems_eq_of_enumeratedAs`: one sorted list for all enumerations;
* `Assistant.suggestions_congr`: suggestions depend on what is found in the folder alone;
* `listing_of_content`: the listing of a content, and the suggestions from it. -/

namespace EditorAssist

namespace Folder

/-! ### Contents -/

/-- What a folder holds: finitely many items, no two of one name. -/
structure Content where
  items : Finset Item
  distinct : ∀ a ∈ items, ∀ b ∈ items, a.name = b.name → a = b

variable {content : Content} {items items' : List Item}

/-- The list has every item of the content once, in some order. -/
def Content.EnumeratedAs (content : Content) (items : List Item) : Prop :=
  items.Nodup ∧ items.toFinset = content.items

theorem Content.EnumeratedAs.mem_iff (h : content.EnumeratedAs items) {item : Item} :
    item ∈ items ↔ item ∈ content.items := by
  rw [← h.2, List.mem_toFinset]

theorem Content.EnumeratedAs.perm (h : content.EnumeratedAs items)
    (h' : content.EnumeratedAs items') : items.Perm items' :=
  (List.perm_ext_iff_of_nodup h.1 h'.1).mpr fun _ => h.mem_iff.trans h'.mem_iff.symm

theorem Content.EnumeratedAs.of_perm (h : content.EnumeratedAs items) (hperm : items'.Perm items) :
    content.EnumeratedAs items' :=
  ⟨hperm.nodup_iff.mpr h.1, (List.toFinset_eq_of_perm _ _ hperm).trans h.2⟩

/-! ### Sorting -/

theorem sortItems_perm (items : List Item) : (sortItems items).Perm items :=
  List.mergeSort_perm items _

/-- The names of a sorted content ascend, and none comes twice. -/
theorem sortItems_pairwise (h : content.EnumeratedAs items) :
    (sortItems items).Pairwise fun a b => a.name < b.name := by
  have hsorted : (sortItems items).Pairwise fun a b => decide (a.name ≤ b.name) = true := by
    apply List.pairwise_mergeSort
    · intro a b c hab hbc
      rw [decide_eq_true_eq] at hab hbc ⊢
      exact String.le_trans hab hbc
    · intro a b
      simpa using String.le_total a.name b.name
  have henumerated := h.of_perm (sortItems_perm items)
  refine (hsorted.and henumerated.1).imp_of_mem fun {a b} ha hb hab => ?_
  obtain ⟨hle, hne⟩ := hab
  rw [← String.not_le]
  intro hge
  have hname : a.name = b.name := String.le_antisymm (of_decide_eq_true hle) hge
  exact hne (content.distinct a (henumerated.mem_iff.mp ha) b (henumerated.mem_iff.mp hb) hname)

/-- Items can be brought into the ascending order of their names in one way only. -/
theorem eq_of_perm_of_pairwise (h : items.Pairwise fun a b => a.name < b.name)
    (h' : items'.Pairwise fun a b => a.name < b.name) (hperm : items.Perm items') :
    items = items' := by
  refine List.Perm.eq_of_pairwise ?_ h h' hperm
  intro a b _ _ hab hba
  exact absurd hba (String.lt_asymm hab)

/-- **All enumerations of a content are sorted into the same list.** -/
theorem sortItems_eq_of_enumeratedAs (h : content.EnumeratedAs items)
    (h' : content.EnumeratedAs items') : sortItems items = sortItems items' := by
  apply eq_of_perm_of_pairwise (sortItems_pairwise h) (sortItems_pairwise h')
  exact (sortItems_perm items).trans ((h.perm h').trans (sortItems_perm items').symm)

/-! ### Listings -/

/-- The file system has a folder with the content at the path, and enumerates it as the list.  No
folder has a path with the character of code zero. -/
structure Enumerates (enumerate : String → Except Failure (List Item)) (root : String)
    (content : Content) (items : List Item) : Prop where
  path : Char.ofNat 0 ∉ root.toList
  answer : enumerate root = .ok items
  items : content.EnumeratedAs items

variable {enumerate enumerate' : String → Except Failure (List Item)} {root : String}

theorem list_of_enumerates (h : Enumerates enumerate root content items) :
    list enumerate root = .ok (sortItems items, []) := by
  have hpath : root.toList.contains (Char.ofNat 0) = false := by simpa using h.path
  rw [list, hpath, h.answer]
  rfl

/-- A folder that cannot be read has the items of an empty one. -/
theorem list_of_error {failure : Failure} (h : enumerate root = .error failure)
    (h' : enumerate' root = .ok []) :
    (list enumerate root).map Prod.fst = (list enumerate' root).map Prod.fst := by
  have hnil : sortItems [] = [] := List.mergeSort_nil
  unfold list
  split
  · rfl
  · rw [h, h']
    show Except.ok [] = Except.ok (sortItems [])
    rw [hnil]

end Folder

/-! ### Suggestions from a folder -/

/-- The labels of what is shown are the names of the items. -/
theorem labels_of_shown {items : List Folder.Item} {offered : List Suggestion}
    (h : List.Forall₂ ShowsItem items offered) :
    offered.map Suggestion.label = items.map Folder.Item.name := by
  induction h with
  | nil => rfl
  | cons hshows _ ih => rw [List.map_cons, List.map_cons, hshows.label, ih]

namespace Assistant

variable {a b : Assistant} {text before root : String}

/-- What is found in a folder depends on the items that are listed, not on what is said. -/
theorem filesIn_lister (enumerate : String → Except Folder.Failure (List Folder.Item)) :
    ((a.withLister (Folder.lister enumerate)).filesIn root).suggestions =
      match (Folder.list enumerate root).map Prod.fst with
      | .ok items => items.filterMap (Suggestion.ofItem? a.sourceExtension)
      | .error _ => [] := by
  simp only [filesIn, withLister, Folder.lister]
  cases Folder.list enumerate root with
  | ok listing => rfl
  | error e => rfl

/-- The modules come first, and then what is found in the folder that is worked in. -/
theorem suggestions_of_lists (h : a.Lists before root) :
    (a.complete text before).suggestions =
      a.handbook.vocabulary.nativeModules.map Suggestion.nativeImport ++
        a.handbook.packagePaths.map Suggestion.packageImport ++ (a.filesIn root).suggestions := by
  obtain ⟨hspot, hroot⟩ := h
  dsimp only [complete]
  rw [hspot, suggestAt, importPaths_of_named (namedRoot?_eq_some_iff.mpr hroot)]
  rfl

/-- Suggestions depend on a lister only through what is found in the folder that is worked in. -/
theorem suggestions_congr (hbook : b.handbook = a.handbook) (hroot : b.root = a.root)
    (hfiles : ∀ root, a.root = some root →
      (b.filesIn root).suggestions = (a.filesIn root).suggestions) :
    (b.complete text before).suggestions = (a.complete text before).suggestions := by
  by_cases hspot : Spot.ofText before = .importPath
  · cases hnamed : a.namedRoot? with
    | none =>
        have hnamed' : b.namedRoot? = none := by rw [namedRoot?, hroot, ← hnamed, namedRoot?]
        dsimp only [complete]
        rw [hspot, suggestAt, suggestAt, importPaths_of_unnamed hnamed,
          importPaths_of_unnamed hnamed', hbook]
    | some root =>
        have hlists : a.Lists before root := ⟨hspot, namedRoot?_eq_some_iff.mp hnamed⟩
        have hlists' : b.Lists before root := ⟨hspot, hroot.trans hlists.2.1, hlists.2.2⟩
        rw [suggestions_of_lists hlists, suggestions_of_lists hlists', hfiles root hlists.2.1,
          hbook]
  · dsimp only [complete]
    rw [suggestAt_of_ne_importPath hspot hbook]

end Assistant

/-- **Listings do not depend on the order of an enumeration.**  There is one list of what a folder
holds that every enumeration of it is sorted into: it has every item once, and their names ascend.
Where an import path is expected, its folders and source files are offered after the modules, each
once, in the order of the list, and nothing else is offered from the folder.  A folder that cannot
be read, for whatever cause, is listed and offered like an empty one. -/
theorem listing_of_content :
    (∀ content : Folder.Content, ∃ sorted : List Folder.Item,
      content.EnumeratedAs sorted ∧ sorted.Pairwise (fun a b => a.name < b.name) ∧
      ∀ (enumerate : String → Except Folder.Failure (List Folder.Item)) (root : String)
        (items : List Folder.Item), Folder.Enumerates enumerate root content items →
        Folder.list enumerate root = .ok (sorted, []) ∧ sorted.Perm items ∧
        ∀ (a : Assistant) (text before : String), a.Lists before root →
          ∃ offered,
            ((a.withLister (Folder.lister enumerate)).complete text before).suggestions =
              a.handbook.vocabulary.nativeModules.map Suggestion.nativeImport ++
                a.handbook.packagePaths.map Suggestion.packageImport ++ offered ∧
            List.Forall₂ ShowsItem
              (sorted.filter fun item =>
                item.isFolder ∨ a.sourceExtension.toList <:+ item.name.toList) offered ∧
            (offered.map Suggestion.label).Pairwise (· < ·)) ∧
    ∀ (enumerate enumerate' : String → Except Folder.Failure (List Folder.Item)) (root : String)
      (failure : Folder.Failure), enumerate root = .error failure → enumerate' root = .ok [] →
      (Folder.list enumerate root).map Prod.fst = (Folder.list enumerate' root).map Prod.fst ∧
      ∀ (a : Assistant) (text before : String), a.root = some root →
        ((a.withLister (Folder.lister enumerate)).complete text before).suggestions =
          ((a.withLister (Folder.lister enumerate')).complete text before).suggestions := by
  constructor
  · intro content
    have henumerated : content.EnumeratedAs content.items.toList :=
      ⟨content.items.nodup_toList, content.items.toList_toFinset⟩
    refine ⟨Folder.sortItems content.items.toList, henumerated.of_perm (Folder.sortItems_perm _),
      Folder.sortItems_pairwise henumerated, ?_⟩
    intro enumerate root items h
    have hlist := Folder.list_of_enumerates h
    rw [Folder.sortItems_eq_of_enumeratedAs h.items henumerated] at hlist
    refine ⟨hlist, (Folder.sortItems_perm _).trans (henumerated.perm h.items), ?_⟩
    intro a text before hlists
    have hshown := items_shown a.sourceExtension (Folder.sortItems content.items.toList)
    refine ⟨_, ?_, hshown, ?_⟩
    · have hlists' : (a.withLister (Folder.lister enumerate)).Lists before root := hlists
      rw [Assistant.suggestions_of_lists hlists', Assistant.filesIn_lister, hlist]
      rfl
    · rw [labels_of_shown hshown, List.pairwise_map]
      exact (Folder.sortItems_pairwise henumerated).filter _
  · intro enumerate enumerate' root failure hfails hempty
    have hsame := Folder.list_of_error hfails hempty
    refine ⟨hsame, ?_⟩
    intro a text before hroot
    apply Assistant.suggestions_congr
    · rfl
    · rfl
    · intro other hother
      obtain rfl : root = other := Option.some.inj (hroot.symm.trans hother)
      rw [Assistant.filesIn_lister, Assistant.filesIn_lister, hsame]

/-- A folder that is enumerated backwards and one that is enumerated otherwise are listed alike, and
the text file in them is not offered; capitals come before small letters. -/
theorem listing_of_content_backwards :
    let folder : Folder.Item := ⟨"lib", true⟩
    let source : Folder.Item := ⟨"Main.mrya", false⟩
    let notes : Folder.Item := ⟨"notes.txt", false⟩
    let backwards : String → Except Folder.Failure (List Folder.Item) := fun _ =>
      .ok [notes, folder, source]
    let mixed : String → Except Folder.Failure (List Folder.Item) := fun _ =>
      .ok [folder, source, notes]
    let closed : String → Except Folder.Failure (List Folder.Item) := fun root =>
      .error ⟨⟨13, "Permission denied"⟩, root⟩
    let a : Assistant := ⟨.mrya, fun _ => ⟨.ok [], []⟩, some "/p", Assistant.mryaExtension⟩
    ∃ content : Folder.Content,
      Folder.Enumerates backwards "/p" content [notes, folder, source] ∧
      Folder.Enumerates mixed "/p" content [folder, source, notes] ∧
      a.Lists "import(\"" "/p" ∧
      Folder.list backwards "/p" = .ok ([source, folder, notes], []) ∧
      Folder.list mixed "/p" = .ok ([source, folder, notes], []) ∧
      (∃ offered, List.Forall₂ ShowsItem [source, folder] offered ∧
        ((a.withLister (Folder.lister backwards)).complete "" "import(\"").suggestions =
          Suggestion.imports .mrya ++ offered) ∧
      ((a.withLister (Folder.lister closed)).complete "" "import(\"").suggestions =
        ((a.withLister (Folder.lister fun _ => .ok [])).complete "" "import(\"").suggestions := by
  intro folder source notes backwards mixed closed a
  obtain ⟨content, hcontent⟩ :
      ∃ content : Folder.Content, content.items = {folder, source, notes} :=
    ⟨⟨{folder, source, notes}, by decide⟩, rfl⟩
  have hbackwards : Folder.Enumerates backwards "/p" content [notes, folder, source] :=
    ⟨by decide, rfl, by decide, by rw [hcontent]; decide⟩
  have hmixed : Folder.Enumerates mixed "/p" content [folder, source, notes] :=
    ⟨by decide, rfl, by decide, by rw [hcontent]; decide⟩
  have hlists : a.Lists "import(\"" "/p" := ⟨by decide +kernel, rfl, by decide⟩
  obtain ⟨sorted, -, hascends, hlisted⟩ := listing_of_content.1 content
  obtain ⟨hlist, hperm, hoffered⟩ := hlisted backwards "/p" _ hbackwards
  obtain ⟨hlist', -⟩ := hlisted mixed "/p" _ hmixed
  obtain rfl : sorted = [source, folder, notes] :=
    Folder.eq_of_perm_of_pairwise hascends (by decide) (hperm.trans (by decide))
  obtain ⟨offered, hsuggestions, hshown, -⟩ := hoffered a "" "import(\"" hlists
  have hkept : ([source, folder, notes].filter fun item =>
      item.isFolder ∨ a.sourceExtension.toList <:+ item.name.toList) = [source, folder] := by
    decide +kernel
  rw [hkept] at hshown
  refine ⟨content, hbackwards, hmixed, hlists, hlist, hlist', ⟨offered, hshown, hsuggestions⟩, ?_⟩
  exact (listing_of_content.2 closed (fun _ => .ok []) "/p" _ rfl rfl).2 a "" _ rfl

end EditorAssist
