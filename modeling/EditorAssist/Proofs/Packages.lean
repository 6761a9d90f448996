import Mathlib.Data.List.Basic
import EditorAssist.Handbook.Basic

/-! # Further packages

Packages are added one name after the other: a name that is known already, from before or from the
same list, is passed over.  What was there stays as it is, repeats included.

* `FirstAppearances`: the names of a list that pass a test, each where it appears first;
* `appendMissing_eq`: exactly these are added;
* `remade_eq_ok`: a handbook with further packages can always be made again from its table;
* `addPackageModules_action`: adding list after list is adding them all at once, and only the
  packages change. -/

namespace EditorAssist.Handbook

/-! ### Names in the order of their first appearance -/

/-- The names of the source that pass, each once, in the order of their first appearance. -/
structure FirstAppearances (passes : String → Prop) (source names : List String) : Prop where
  mem_iff : ∀ name, name ∈ names ↔ name ∈ source ∧ passes name
  ordered : names.Pairwise fun a b => source.idxOf a < source.idxOf b

section

variable {passes : String → Prop} {name : String} {names added extra source : List String}

theorem FirstAppearances.nodup (h : FirstAppearances passes source names) : names.Nodup :=
  h.ordered.imp fun hlt e => absurd hlt (by rw [e]; exact Nat.lt_irrefl _)

theorem FirstAppearances.nil (passes : String → Prop) : FirstAppearances passes [] [] :=
  ⟨by simp, .nil⟩

/-- Behind a further name in front, names other than that one appear in the same order. -/
theorem pairwise_idxOf_cons (hne : name ∉ names)
    (h : names.Pairwise fun a b => source.idxOf a < source.idxOf b) :
    names.Pairwise fun a b => (name :: source).idxOf a < (name :: source).idxOf b := by
  refine h.imp_of_mem fun {a b} ha hb hlt => ?_
  have hna : name ≠ a := fun e => hne (e ▸ ha)
  have hnb : name ≠ b := fun e => hne (e ▸ hb)
  rw [List.idxOf_cons_ne _ hna, List.idxOf_cons_ne _ hnb]
  omega

/-- A name that does not pass may stand in front. -/
theorem FirstAppearances.cons_of_not (hname : ¬ passes name)
    (h : FirstAppearances passes source names) :
    FirstAppearances passes (name :: source) names := by
  constructor
  · intro other
    rw [h.mem_iff, List.mem_cons]
    grind
  · refine pairwise_idxOf_cons (fun hmem => hname ?_) h.ordered
    exact ((h.mem_iff name).mp hmem).2

/-- A name that passes comes first, and is not taken again. -/
theorem FirstAppearances.cons {others : String → Prop} (hname : passes name)
    (hothers : ∀ other, others other ↔ passes other ∧ other ≠ name)
    (h : FirstAppearances others source names) :
    FirstAppearances passes (name :: source) (name :: names) := by
  have hne : name ∉ names := fun hmem =>
    ((hothers name).mp ((h.mem_iff name).mp hmem).2).2 rfl
  constructor
  · intro other
    rw [List.mem_cons, List.mem_cons, h.mem_iff, hothers]
    by_cases he : other = name
    · simp [he, hname]
    · simp [he]
  · refine .cons ?_ (pairwise_idxOf_cons hne h.ordered)
    intro other hother
    have hother' : name ≠ other := fun e => hne (e ▸ hother)
    rw [List.idxOf_cons_self, List.idxOf_cons_ne _ hother']
    omega

/-! ### Adding what is missing -/

theorem appendMissing_cons (names : List String) (name : String) (extra : List String) :
    appendMissing names (name :: extra) =
      appendMissing (if name ∈ names then names else names ++ [name]) extra := rfl

/-- To the names are added those that are missing, each where it appears first. -/
theorem appendMissing_eq (names extra : List String) :
    ∃ added, appendMissing names extra = names ++ added ∧
      FirstAppearances (· ∉ names) extra added := by
  induction extra generalizing names with
  | nil => exact ⟨[], by simp [appendMissing], .nil _⟩
  | cons name extra ih =>
      rw [appendMissing_cons]
      by_cases hname : name ∈ names
      · rw [if_pos hname]
        obtain ⟨added, heq, hfirst⟩ := ih names
        exact ⟨added, heq, hfirst.cons_of_not (not_not_intro hname)⟩
      · rw [if_neg hname]
        obtain ⟨added, heq, hfirst⟩ := ih (names ++ [name])
        refine ⟨name :: added, by rw [heq]; simp, ?_⟩
        exact hfirst.cons hname (by simp)

theorem appendMissing_appendMissing (names a b : List String) :
    appendMissing (appendMissing names a) b = appendMissing names (a ++ b) :=
  List.foldl_append.symm

theorem mem_appendMissing_of_mem (names : List String) (h : name ∈ extra) :
    name ∈ appendMissing names extra := by
  obtain ⟨added, heq, hfirst⟩ := appendMissing_eq names extra
  rw [heq, List.mem_append, hfirst.mem_iff]
  by_cases hname : name ∈ names
  · exact .inl hname
  · exact .inr ⟨h, hname⟩

/-- Nothing is added to names that are all known. -/
theorem appendMissing_of_subset (h : ∀ name ∈ extra, name ∈ names) :
    appendMissing names extra = names := by
  induction extra with
  | nil => rfl
  | cons name extra ih =>
      rw [List.forall_mem_cons] at h
      rw [appendMissing_cons, if_pos h.1, ih h.2]

end

-- Repeats that were there stay, and those among the new names go.
example : appendMissing ["a", "a"] ["b", "a", "b", "c"] = ["a", "a", "b", "c"] := by decide

/-! ### Handbooks with further packages -/

/-- The handbook with further packages, made again from its fixed words and its table. -/
def remade (h : Handbook) (extra : List String) : Except DottedKeys Handbook :=
  ofTable
    { h.vocabulary with packageModules := appendMissing h.vocabulary.packageModules extra } h.table

/-- The table of a handbook has no key with too many dots, so nothing is refused. -/
theorem remade_eq_ok (h : Handbook) (extra : List String) :
    h.remade extra = .ok (h.addPackageModules extra) := by
  have hdotted : dottedEntries h.table = [] := by
    rw [dottedEntries, List.filter_eq_nil_iff]
    intro e he
    simpa using h.oneDot e he
  exact dif_pos hdotted

theorem foldlM_remade (h : Handbook) (lists : List (List String)) :
    lists.foldlM remade h = .ok (lists.foldl addPackageModules h) := by
  induction lists generalizing h with
  | nil => rfl
  | cons extra lists ih =>
      rw [List.foldlM_cons, remade_eq_ok]
      exact ih (h.addPackageModules extra)

theorem addPackageModules_addPackageModules (h : Handbook) (a b : List String) :
    (h.addPackageModules a).addPackageModules b = h.addPackageModules (a ++ b) := by
  simp only [addPackageModules, appendMissing_appendMissing]

theorem foldl_addPackageModules (h : Handbook) (lists : List (List String)) :
    lists.foldl addPackageModules h = h.addPackageModules lists.flatten := by
  induction lists generalizing h with
  | nil => rfl
  | cons extra lists ih =>
      rw [List.foldl_cons, ih, addPackageModules_addPackageModules, List.flatten_cons]

theorem addPackageModules_twice (h : Handbook) (extra : List String) :
    (h.addPackageModules extra).addPackageModules extra = h.addPackageModules extra := by
  have hknown : appendMissing (appendMissing h.vocabulary.packageModules extra) extra =
      appendMissing h.vocabulary.packageModules extra :=
    appendMissing_of_subset fun _ hname => mem_appendMissing_of_mem _ hname
  simp only [addPackageModules, hknown]

/-- Two handbooks differ in their packages at most, so they explain the same words and list the same
names. -/
structure SameBesidesPackages (h h' : Handbook) : Prop where
  entries : h'.entries = h.entries
  keywords : h'.vocabulary.keywords = h.vocabulary.keywords
  nativeModules : h'.vocabulary.nativeModules = h.vocabulary.nativeModules
  packageNamespace : h'.vocabulary.packageNamespace = h.vocabulary.packageNamespace
  literals : h'.vocabulary.literals = h.vocabulary.literals
  get? : h'.get? = h.get?
  globals : h'.globals = h.globals
  members : h'.members = h.members
  explain : h'.explain = h.explain

theorem sameBesidesPackages (h : Handbook) (extra : List String) :
    SameBesidesPackages h (h.addPackageModules extra) :=
  ⟨rfl, rfl, rfl, rfl, rfl, rfl, rfl, rfl, rfl⟩

/-- What is imported of a handbook with further packages: the old packages, then the added ones. -/
theorem packagePaths_addPackageModules {h : Handbook} {extra added : List String}
    (hadded : appendMissing h.vocabulary.packageModules extra =
      h.vocabulary.packageModules ++ added) :
    (h.addPackageModules extra).packagePaths =
      h.packagePaths ++ added.map fun name => h.vocabulary.packageNamespace ++ ":" ++ name := by
  simp only [packagePaths, addPackageModules, hadded, List.map_append]

/-- **Adding packages is an action of lists of names.**  To add one list after the other is to add
all of them at once, and no handbook on the way is refused.  The packages that were there stay, and
after them come the names that are missing, each once, in the order of their first appearance.
Nothing else changes, and to add a list again changes nothing.  Packages are imported by their
namespace, a colon and their name. -/
theorem addPackageModules_action (h : Handbook) (lists : List (List String)) :
    let extended := h.addPackageModules lists.flatten
    lists.foldlM remade h = .ok extended ∧
    lists.foldl addPackageModules h = extended ∧
    (∃ added, FirstAppearances (· ∉ h.vocabulary.packageModules) lists.flatten added ∧
      added.Nodup ∧
      extended.vocabulary.packageModules = h.vocabulary.packageModules ++ added) ∧
    SameBesidesPackages h extended ∧
    (∀ extra, (h.addPackageModules extra).addPackageModules extra = h.addPackageModules extra) ∧
    extended.packagePaths = extended.vocabulary.packageModules.map fun name =>
      h.vocabulary.packageNamespace ++ ":" ++ name := by
  intro extended
  refine ⟨?_, foldl_addPackageModules h lists, ?_, sameBesidesPackages h _,
    addPackageModules_twice h, rfl⟩
  · rw [foldlM_remade, foldl_addPackageModules]
  · obtain ⟨added, heq, hfirst⟩ := appendMissing_eq h.vocabulary.packageModules lists.flatten
    exact ⟨added, hfirst, hfirst.nodup, heq⟩

end EditorAssist.Handbook
