import EditorAssist.Proofs.Answered
import EditorAssist.Proofs.Separated

/-! # The shape of an answer

What is put in for a suggestion tells its kind: brackets follow a function, a slash follows a
folder, and nothing follows any other label.  Where nothing special is expected, an answer is made
of groups: what the handbook offers everywhere, and then what the text declares.  In a group all
suggestions have one kind and one detail, and the names of the text are in ascending order.

* `Suggestion.OfKind`, `OfKind.insertText_eq_append_iff`: what follows a label, by kind;
* `Spot.kinds`, `Assistant.offers_of_mem`: every suggestion is of a kind that its spot has;
* `Suggestion.IsGroup`, `Source.NamesOf`: the groups of an answer, and the names in them;
* `general_groups`: the answer where nothing special is expected;
* `suggestions_shape`: the shape of every answer. -/

namespace EditorAssist

open Text Source

/-! ### What is put in -/

namespace Suggestion

/-- What follows a label of the kind when it is put in. -/
def Kind.ending : Kind → String
  | .functionName => "()"
  | .folder => "/"
  | _ => ""

theorem Kind.ending_eq_call_iff {kind : Kind} : kind.ending = "()" ↔ kind = .functionName := by
  cases kind <;> decide

theorem Kind.ending_eq_slash_iff {kind : Kind} : kind.ending = "/" ↔ kind = .folder := by
  cases kind <;> decide

theorem Kind.ending_eq_empty_iff {kind : Kind} :
    kind.ending = "" ↔ kind ≠ .functionName ∧ kind ≠ .folder := by
  cases kind <;> decide

/-- The suggestion is of the kind and has the detail, and what is put in for it is its label with
the ending of the kind. -/
structure OfKind (kind : Kind) (detail : Option String) (s : Suggestion) : Prop where
  kind : s.kind = kind
  detail : s.detail = detail
  insertText : s.insertText = s.label ++ s.kind.ending

/-- **What is put in has the ending of the kind, and no other.** -/
theorem OfKind.insertText_eq_append_iff {s : Suggestion} {kind : Kind} {detail : Option String}
    (h : s.OfKind kind detail) {ending : String} :
    s.insertText = s.label ++ ending ↔ s.kind.ending = ending := by
  rw [h.insertText]
  exact String.append_right_inj s.label

/-- A kind without an ending is put in as its label. -/
theorem OfKind.of_label {s : Suggestion} {kind : Kind} {detail : Option String}
    (hkind : s.kind = kind) (hdetail : s.detail = detail) (hending : kind.ending = "")
    (h : s.insertText = s.label) : s.OfKind kind detail :=
  ⟨hkind, hdetail, by rw [h, hkind, hending, String.append_empty]⟩

end Suggestion

theorem ShowsItem.ofKind {item : Folder.Item} {s : Suggestion} (h : ShowsItem item s) :
    s.OfKind (if item.isFolder then .folder else .file) s.detail := by
  refine ⟨h.kind, rfl, ?_⟩
  rw [h.insertText, h.label, h.kind]
  cases item.isFolder with
  | true => rfl
  | false => exact String.append_empty.symm

/-! ### Groups -/

namespace Suggestion

/-- The group has one suggestion for each label, in order, and all are of one kind and detail. -/
structure IsGroup (kind : Kind) (detail : Option String) (labels : List String)
    (group : List Suggestion) : Prop where
  labels : group.map Suggestion.label = labels
  ofKind : ∀ s ∈ group, s.OfKind kind detail

theorem isGroup_map {α : Type} {kind : Kind} {detail : Option String} (make : α → Suggestion)
    (h : ∀ a, (make a).OfKind kind detail) (list : List α) :
    IsGroup kind detail (list.map fun a => (make a).label) (list.map make) := by
  constructor
  · rw [List.map_map]
    rfl
  · intro s hs
    obtain ⟨a, -, rfl⟩ := List.mem_map.mp hs
    exact h a

/-- Suggestions that are made of their names are a group. -/
theorem isGroup_names {kind : Kind} {detail : Option String} (make : String → Suggestion)
    (hlabel : ∀ name, (make name).label = name) (h : ∀ name, (make name).OfKind kind detail)
    (names : List String) : IsGroup kind detail names (names.map make) := by
  have hgroup := isGroup_map make h names
  simpa only [hlabel, List.map_id'] using hgroup

/-- The keys that are offered everywhere: those without a dot that are no literals. -/
def builtinKeys (h : Handbook) : List String :=
  (h.entries.filter fun e => e.dots = 0 ∧ e.key ∉ h.vocabulary.literals).map Entry.key

theorem isGroup_builtins (h : Handbook) :
    IsGroup .functionName none (builtinKeys h) (builtins h) := by
  have hgroup := isGroup_map builtin (fun _ => ⟨rfl, rfl, rfl⟩)
    (h.entries.filter fun e => e.dots = 0 ∧ e.key ∉ h.vocabulary.literals)
  rw [builtins_eq]
  exact hgroup

end Suggestion

/-! ### Names of the text -/

namespace Source

/-- The labels are the names of a kind that a text declares: those that the search finds, each once,
in ascending order. -/
structure NamesOf (kind : DeclarationKind) (text : String) (labels : List String) : Prop where
  ascending : labels.Pairwise (· < ·)
  nodup : labels.Nodup
  isName : ∀ label ∈ labels, IsName label.toList
  mem_iff : ∀ name, name ∈ labels ↔ name ∈ (Declarations.ofText text).names kind
  found_iff : ∀ name : String, name ∈ labels ↔ name.toList ∈ namesFrom kind 0 none text.toList

theorem isName_of_mem_names {kind : DeclarationKind} {text name : String}
    (h : name ∈ (Declarations.ofText text).names kind) : IsName name.toList := by
  obtain ⟨o, ho, rfl⟩ := Declarations.mem_names_ofText.mp h
  obtain ⟨lead, rest, offset, -, -, -, -, hdeclares⟩ := occursAfter_of_mem kind 0 none 0 _ o ho
  obtain ⟨blanks, between, tail, -, -, hintroduces, -⟩ := hdeclares
  rw [String.toList_ofList]
  exact hintroduces.between.2.1

theorem mem_names_iff_mem_namesFrom {kind : DeclarationKind} {text name : String} :
    name ∈ (Declarations.ofText text).names kind ↔
      name.toList ∈ namesFrom kind 0 none text.toList := by
  rw [Declarations.names_ofText, declaredNames, mem_sortedNames, List.mem_map]
  constructor
  · rintro ⟨found, hfound, rfl⟩
    rwa [String.toList_ofList]
  · intro hfound
    exact ⟨name.toList, hfound, String.ofList_toList⟩

theorem namesOf (kind : DeclarationKind) (text : String) :
    NamesOf kind text ((Declarations.ofText text).names kind) := by
  have hascending := Declarations.names_pairwise kind text
  refine ⟨hascending, hascending.imp String.ne_of_lt, fun _ => isName_of_mem_names,
    fun _ => Iff.rfl, fun _ => mem_names_iff_mem_namesFrom⟩

end Source

/-! ### Answers -/

/-- The kinds of suggestions that are made for a spot. -/
def Spot.kinds : Spot → List Suggestion.Kind
  | .declaration | .literalOrComment => []
  | .importPath => [.moduleName, .folder, .file]
  | .member _ => [.functionName]
  | .general => [.keyword, .functionName, .moduleName, .variableName, .className]

/-- The suggestion is of a kind that is made for the spot. -/
def Spot.Offers (spot : Spot) (s : Suggestion) : Prop :=
  ∃ kind ∈ spot.kinds, ∃ detail, s.OfKind kind detail

/-- The suggestions are for the names of a kind that the text declares, and of one kind and detail
themselves. -/
structure Suggestion.IsUserGroup (declared : DeclarationKind) (kind : Suggestion.Kind)
    (detail text : String) (group : List Suggestion) : Prop where
  isGroup : IsGroup kind (some detail) (group.map Suggestion.label) group
  names : NamesOf declared text (group.map Suggestion.label)

theorem Suggestion.isUserGroup_names (declared : DeclarationKind) {kind : Suggestion.Kind}
    {detail : String} (make : String → Suggestion)
    (hlabel : ∀ name, (make name).label = name)
    (h : ∀ name, (make name).OfKind kind (some detail)) (text : String) :
    IsUserGroup declared kind detail text
      (((Declarations.ofText text).names declared).map make) := by
  have hgroup := isGroup_names make hlabel h ((Declarations.ofText text).names declared)
  constructor
  · rw [hgroup.labels]
    exact hgroup
  · rw [hgroup.labels]
    exact namesOf declared text

namespace Assistant

variable {a : Assistant} {text before : String} {s : Suggestion}

/-- Modules, folders and files are offered as import paths. -/
theorem offers_of_mem_importPaths (hs : s ∈ a.importPaths.suggestions) :
    Spot.importPath.Offers s := by
  rcases mem_importPaths hs with hs | ⟨item, hitem⟩
  · rcases List.mem_append.mp hs with hs | hs
    · obtain ⟨name, -, rfl⟩ := List.mem_map.mp hs
      exact ⟨.moduleName, by decide, _, .of_label rfl rfl rfl rfl⟩
    · obtain ⟨path, -, rfl⟩ := List.mem_map.mp hs
      exact ⟨.moduleName, by decide, _, .of_label rfl rfl rfl rfl⟩
  · refine ⟨_, ?_, _, hitem.ofKind⟩
    split <;> decide

/-- The members of a module are offered as functions. -/
theorem offers_of_mem_members {h : Handbook} {receiver : String}
    (hs : s ∈ Suggestion.members h receiver) : (Spot.member receiver).Offers s := by
  obtain ⟨e, -, rfl⟩ := List.mem_map.mp hs
  exact ⟨.functionName, List.mem_singleton_self _, _, rfl, rfl, rfl⟩

theorem complete_of_general (h : Spot.ofText before = .general) :
    (a.complete text before).suggestions = Suggestion.general a.handbook text := by
  simp only [complete, h, suggestAt, Answer.ofSuggestions]

end Assistant

/-- **The groups of an answer** where nothing special is expected. -/
theorem general_groups (h : Handbook) :
    ∃ keywords builtins modules : List Suggestion,
      Suggestion.IsGroup .keyword none h.vocabulary.keywords keywords ∧
      Suggestion.IsGroup .functionName none (Suggestion.builtinKeys h) builtins ∧
      Suggestion.IsGroup .moduleName none h.vocabulary.nativeModules modules ∧
      ∀ text, ∃ userVariables userFunctions userClasses : List Suggestion,
        Suggestion.general h text =
          keywords ++ builtins ++ modules ++ (userVariables ++ userFunctions ++ userClasses) ∧
        Suggestion.IsUserGroup .variableName .variableName "User variable" text userVariables ∧
        Suggestion.IsUserGroup .functionName .functionName "User function" text userFunctions ∧
        Suggestion.IsUserGroup .className .className "User class" text userClasses := by
  refine ⟨h.vocabulary.keywords.map (Suggestion.keyword h), Suggestion.builtins h,
    h.vocabulary.nativeModules.map Suggestion.native, ?_, Suggestion.isGroup_builtins h, ?_, ?_⟩
  · exact Suggestion.isGroup_names (Suggestion.keyword h) (fun _ => rfl)
      (fun _ => .of_label rfl rfl rfl rfl) _
  · exact Suggestion.isGroup_names Suggestion.native (fun _ => rfl)
      (fun _ => .of_label rfl rfl rfl rfl) _
  · intro text
    refine ⟨_, _, _, rfl, ?_, ?_, ?_⟩
    · exact Suggestion.isUserGroup_names .variableName Suggestion.userVariable
        (fun _ => rfl) (fun _ => .of_label rfl rfl rfl rfl) text
    · exact Suggestion.isUserGroup_names .functionName Suggestion.userFunction
        (fun _ => rfl) (fun _ => ⟨rfl, rfl, rfl⟩) text
    · exact Suggestion.isUserGroup_names .className Suggestion.userClass
        (fun _ => rfl) (fun _ => .of_label rfl rfl rfl rfl) text

theorem offers_of_mem_general {h : Handbook} {text : String} {s : Suggestion}
    (hs : s ∈ Suggestion.general h text) : Spot.general.Offers s := by
  obtain ⟨keywords, builtins, modules, hkeywords, hbuiltins, hmodules, hdeclared⟩ :=
    general_groups h
  obtain ⟨userVariables, userFunctions, userClasses, heq, hvariables, hfunctions, hclasses⟩ :=
    hdeclared text
  rw [heq] at hs
  simp only [List.mem_append] at hs
  rcases hs with ((hs | hs) | hs) | (hs | hs) | hs
  · exact ⟨.keyword, by decide, _, hkeywords.ofKind s hs⟩
  · exact ⟨.functionName, by decide, _, hbuiltins.ofKind s hs⟩
  · exact ⟨.moduleName, by decide, _, hmodules.ofKind s hs⟩
  · exact ⟨.variableName, by decide, _, hvariables.isGroup.ofKind s hs⟩
  · exact ⟨.functionName, by decide, _, hfunctions.isGroup.ofKind s hs⟩
  · exact ⟨.className, by decide, _, hclasses.isGroup.ofKind s hs⟩

/-- **Each spot has its kinds of suggestions,** and they are put in by their kind. -/
theorem Assistant.offers_of_mem {a : Assistant} {text before : String} {s : Suggestion}
    (hs : s ∈ (a.complete text before).suggestions) : (Spot.ofText before).Offers s := by
  dsimp only [complete] at hs
  revert hs
  cases Spot.ofText before with
  | declaration => simp [suggestAt, Answer.ofSuggestions]
  | literalOrComment => simp [suggestAt, Answer.ofSuggestions]
  | importPath => exact offers_of_mem_importPaths
  | member receiver => exact offers_of_mem_members
  | general => exact offers_of_mem_general

/-- **The shape of an answer.**  Every suggestion is of a kind that belongs to the spot, and what is
put in for it is its label, with brackets exactly for a function and with a slash exactly for a
folder.  Where nothing special is expected, an answer has one keyword for each keyword of the
handbook, the documented names, and one module for each native module, whatever the text is.  After
them come the variables, the functions and the classes of the text, each name once, in ascending
order. -/
theorem suggestions_shape :
    (∀ (a : Assistant) (text before : String), ∀ s ∈ (a.complete text before).suggestions,
      s.kind ∈ (Spot.ofText before).kinds ∧
      (s.insertText = s.label ++ "()" ↔ s.kind = .functionName) ∧
      (s.insertText = s.label ++ "/" ↔ s.kind = .folder) ∧
      (s.insertText = s.label ↔ s.kind ≠ .functionName ∧ s.kind ≠ .folder)) ∧
    ∀ a : Assistant, ∃ keywords builtins modules : List Suggestion,
      Suggestion.IsGroup .keyword none a.handbook.vocabulary.keywords keywords ∧
      Suggestion.IsGroup .functionName none (Suggestion.builtinKeys a.handbook) builtins ∧
      Suggestion.IsGroup .moduleName none a.handbook.vocabulary.nativeModules modules ∧
      ∀ text before, Spot.ofText before = .general →
        ∃ userVariables userFunctions userClasses : List Suggestion,
          (a.complete text before).suggestions =
            keywords ++ builtins ++ modules ++ (userVariables ++ userFunctions ++ userClasses) ∧
          Suggestion.IsUserGroup .variableName .variableName "User variable" text userVariables ∧
          Suggestion.IsUserGroup .functionName .functionName "User function" text userFunctions ∧
          Suggestion.IsUserGroup .className .className "User class" text userClasses := by
  constructor
  · intro a text before s hs
    obtain ⟨kind, hkind, detail, hs⟩ := Assistant.offers_of_mem hs
    refine ⟨hs.kind ▸ hkind, ?_, ?_, ?_⟩
    · rw [hs.insertText_eq_append_iff, Suggestion.Kind.ending_eq_call_iff]
    · rw [hs.insertText_eq_append_iff, Suggestion.Kind.ending_eq_slash_iff]
    · have hbare : s.insertText = s.label ++ "" ↔ s.kind.ending = "" :=
        hs.insertText_eq_append_iff
      rwa [String.append_empty, Suggestion.Kind.ending_eq_empty_iff] at hbare
  · intro a
    obtain ⟨keywords, builtins, modules, hkeywords, hbuiltins, hmodules, hdeclared⟩ :=
      general_groups a.handbook
    refine ⟨keywords, builtins, modules, hkeywords, hbuiltins, hmodules, ?_⟩
    intro text before hgeneral
    rw [Assistant.complete_of_general hgeneral]
    exact hdeclared text

/-- Of two variables and a function, one variable declared twice, three suggestions are made after
those of the handbook, which an empty text has too.  Capitals come before small letters. -/
theorem suggestions_shape_declared :
    let a : Assistant := ⟨.mrya, fun _ => ⟨.error "denied", []⟩, none, Assistant.mryaExtension⟩
    let text := "let b; func g; let Z; let b"
    Spot.ofText "x = " = .general ∧
    ∃ offered userVariables userFunctions userClasses : List Suggestion,
      (a.complete text "x = ").suggestions =
        offered ++ (userVariables ++ userFunctions ++ userClasses) ∧
      (∃ others, (a.complete "" "x = ").suggestions = offered ++ others) ∧
      userVariables.map Suggestion.label = ["Z", "b"] ∧
      ∃ s ∈ (a.complete text "x = ").suggestions, s.label = "g" ∧ s.insertText = "g" ++ "()" := by
  intro a text
  have hspot : Spot.ofText "x = " = .general := by decide +kernel
  obtain ⟨keywords, builtins, modules, -, -, -, hdeclared⟩ := suggestions_shape.2 a
  obtain ⟨userVariables, userFunctions, userClasses, hanswer, hvariables, hfunctions, -⟩ :=
    hdeclared text "x = " hspot
  obtain ⟨_, _, _, hempty, -⟩ := hdeclared "" "x = " hspot
  have hlabels : userVariables.map Suggestion.label = ["Z", "b"] := by
    have hfound : namesFrom .variableName 0 none text.toList = [['b'], ['Z'], ['b']] := by decide
    apply eq_of_mem_iff hvariables.names.ascending (by decide)
    intro name
    rw [hvariables.names.found_iff, hfound]
    simp only [List.mem_cons, List.not_mem_nil, or_false, ← String.toList_inj, String.reduceToList]
    tauto
  have hfunction : "g" ∈ userFunctions.map Suggestion.label := by
    rw [hfunctions.names.found_iff]
    decide
  obtain ⟨s, hs, hlabel⟩ := List.mem_map.mp hfunction
  have hmem : s ∈ (a.complete text "x = ").suggestions := by
    rw [hanswer]
    simp [hs]
  have hkind : s.kind = .functionName := (hfunctions.isGroup.ofKind s hs).kind
  have hput := (suggestions_shape.1 a text "x = " s hmem).2.1.mpr hkind
  rw [hlabel] at hput
  exact ⟨hspot, _, userVariables, userFunctions, userClasses, hanswer, ⟨_, hempty⟩, hlabels, s,
    hmem, hlabel, hput⟩

end EditorAssist
