import EditorAssist.Proofs.Backward
import EditorAssist.Proofs.Documented
import EditorAssist.Proofs.Packages
import EditorAssist.Settings

/-! # Package names in settings

Settings name further packages in one text, divided by commas.  A name that can be given this way is
not empty, holds no comma, and has no blank at either end.  Such names are read back as they were
joined, and the texts of two settings joined by a comma name what both name.

* `IsPackageName`: what a setting can name;
* `splitNames_intercalate`, `splitNames_append`: reading names that were joined;
* `Offers`: the handbook of the settings offers the names, each once;
* `package_settings`: from the text of a setting to the packages that are offered. -/

namespace EditorAssist.Settings

open Text Source

/-! ### Blanks around a name -/

theorem trim_of_stops {text : List Char} (hfirst : Stops isBlank text)
    (hlast : ∀ c ∈ text.getLast?, isBlank c = false) : trim text = text := by
  have hlead : text.dropWhile isBlank = text := dropWhile_of_stops hfirst
  rw [trim, trimWhile, hlead, Cursor.dropEndWhile_eq_iff]
  exact ⟨[], by simp, by simp, hlast⟩

/-- A text is what `trim` leaves of it, with blanks around. -/
theorem exists_trim (text : List Char) :
    ∃ lead rest, text = lead ++ trim text ++ rest ∧ (trim text ≠ [] → Stops isBlank (trim text)) ∧
      ∀ c ∈ (trim text).getLast?, isBlank c = false := by
  have htrim : dropEndWhile isBlank (text.dropWhile isBlank) = trim text := rfl
  obtain ⟨rest, hrest, -, hlast⟩ := Cursor.dropEndWhile_eq_iff.mp htrim
  refine ⟨text.takeWhile isBlank, rest, ?_, ?_, hlast⟩
  · rw [List.append_assoc, ← hrest, List.takeWhile_append_dropWhile]
  · intro hne c hc
    have hstops := stops_dropWhile isBlank text
    rw [hrest] at hstops
    refine hstops c ?_
    rw [List.head?_append_of_ne_nil _ hne]
    exact hc

/-! ### Names -/

/-- A name that can be given among others in a setting. -/
structure IsPackageName (name : String) : Prop where
  ne_empty : name ≠ ""
  comma : ',' ∉ name.toList
  first : ∀ c ∈ name.toList.head?, isBlank c = false
  last : ∀ c ∈ name.toList.getLast?, isBlank c = false

theorem isPackageName_of_mem_splitNames {value name : String} (h : name ∈ splitNames value) :
    IsPackageName name := by
  obtain ⟨kept, hkept, rfl⟩ := List.mem_map.mp h
  obtain ⟨hmem, hne⟩ := List.mem_filter.mp hkept
  obtain ⟨part, hpart, rfl⟩ := List.mem_map.mp hmem
  have hne' : trim part ≠ [] := by simpa using hne
  obtain ⟨lead, rest, hwhole, hfirst, hlast⟩ := exists_trim part
  constructor
  · simpa using hne'
  · rw [String.toList_ofList]
    intro hcomma
    refine notMem_of_mem_split hpart ?_
    rw [hwhole]
    simp [hcomma]
  · rw [String.toList_ofList]
    exact hfirst hne'
  · rw [String.toList_ofList]
    exact hlast

theorem splitNames_of_isPackageName {name : String} (h : IsPackageName name) :
    splitNames name = [name] := by
  have hne : name.toList ≠ [] := by simpa using h.ne_empty
  have htrim : trim name.toList = name.toList := trim_of_stops h.first h.last
  rw [splitNames, split_of_notMem h.comma, List.map_singleton, htrim]
  simp [hne]

/-- A comma divides the names of two texts. -/
theorem splitNames_append (a b : String) :
    splitNames (a ++ "," ++ b) = splitNames a ++ splitNames b := by
  have htext : (a ++ "," ++ b).toList = a.toList ++ ',' :: b.toList := by simp
  simp only [splitNames, htext, split_append_cons, List.map_append, List.filter_append]

/-- Names that are joined by commas are read back. -/
theorem splitNames_intercalate {names : List String} (h : ∀ name ∈ names, IsPackageName name) :
    splitNames (",".intercalate names) = names := by
  induction names with
  | nil => rfl
  | cons name names ih =>
      rw [List.forall_mem_cons] at h
      cases names with
      | nil => rw [String.intercalate_singleton, splitNames_of_isPackageName h.1]
      | cons next names =>
          rw [String.intercalate_cons_cons, splitNames_append, splitNames_of_isPackageName h.1,
            ih h.2, List.singleton_append]

/-! ### Settings -/

/-- The settings offer the names as packages, each once, in the order of their first appearance, and
leave all else of the handbook as it is. -/
def Offers (s : Settings) (names : List String) : Prop :=
  Handbook.SameBesidesPackages Handbook.mrya s.handbook ∧
  ∃ distinct, Handbook.FirstAppearances (fun _ => True) names distinct ∧ distinct.Nodup ∧
    s.handbook.packagePaths = distinct.map ("pkg:" ++ ·) ∧
    Suggestion.imports s.handbook = Vocabulary.mrya.nativeModules.map Suggestion.nativeImport ++
      distinct.map fun name => Suggestion.packageImport ("pkg:" ++ name)

theorem offers_extraPackageModules (s : Settings) : s.Offers s.extraPackageModules := by
  obtain ⟨distinct, heq, hfirst⟩ := Handbook.appendMissing_eq [] s.extraPackageModules
  have hpaths : s.handbook.packagePaths = distinct.map ("pkg:" ++ ·) := by
    rw [handbook, Handbook.packagePaths_addPackageModules heq]
    rfl
  refine ⟨Handbook.sameBesidesPackages _ _, distinct, ⟨fun name => ?_, hfirst.ordered⟩,
    hfirst.nodup, hpaths, ?_⟩
  · rw [hfirst.mem_iff]
    simp
  · rw [Suggestion.imports, hpaths, List.map_map]
    rfl

/-- **Package names in settings.**  What is read from a setting are names that can be given there,
and such names, joined by commas, are read back as they were; so a setting may be written again from
what was read.  A comma between two texts divides their names.  The names of an argument, be it
empty, are the packages that are offered, whatever the environment; without an argument they are
those of the environment.  Each is offered once, in the order of first appearance, and the
documentation stays as it is. -/
theorem package_settings :
    (∀ value, ∀ name ∈ splitNames value, IsPackageName name) ∧
    (∀ names : List String, (∀ name ∈ names, IsPackageName name) →
      splitNames (",".intercalate names) = names) ∧
    (∀ value, splitNames (",".intercalate (splitNames value)) = splitNames value) ∧
    (∀ a b, splitNames (a ++ "," ++ b) = splitNames a ++ splitNames b) ∧
    (∀ value environment, (ofArgument (some value) environment).Offers (splitNames value)) ∧
    (∀ value, (ofArgument none ⟨some value⟩).Offers (splitNames value)) ∧
    (ofArgument none ⟨none⟩).Offers [] := by
  refine ⟨fun value name => isPackageName_of_mem_splitNames, fun names => splitNames_intercalate,
    ?_, splitNames_append, ?_, ?_, ?_⟩
  · intro value
    exact splitNames_intercalate fun name hname => isPackageName_of_mem_splitNames hname
  · intro value environment
    exact offers_extraPackageModules (ofArgument (some value) environment)
  · intro value
    exact offers_extraPackageModules (ofArgument none ⟨some value⟩)
  · exact offers_extraPackageModules (ofArgument none ⟨none⟩)

/-- A blank within a name stays. -/
theorem package_settings_joined :
    (∀ name ∈ ["sprites", "my net"], IsPackageName name) ∧
      splitNames "sprites,my net" = ["sprites", "my net"] ∧
      splitNames " sprites ,,my net" = ["sprites", "my net"] := by
  obtain ⟨hread, hjoined, -⟩ := package_settings
  have hnames : splitNames " sprites ,,my net" = ["sprites", "my net"] := by decide +kernel
  have hvalid : ∀ name ∈ ["sprites", "my net"], IsPackageName name := by
    rw [← hnames]
    exact hread _
  have htext : ",".intercalate ["sprites", "my net"] = "sprites,my net" := by decide +kernel
  have hback := hjoined _ hvalid
  rw [htext] at hback
  exact ⟨hvalid, hback, hnames⟩

end EditorAssist.Settings
