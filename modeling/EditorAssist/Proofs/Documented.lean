import Mathlib.Data.List.Forall2
import Mathlib.Data.List.Nodup
import EditorAssist.Handbook.Mrya
import EditorAssist.Proofs.Typing

/-! # Where documented names are offered

A key of the table has no dot or one dot, or no handbook is made of the table.  A key without a dot
belongs to the globals.  A key with one dot divides in one way into a module and a member, and
belongs to the members of that module.

* `Handbook.ofTable_eq_error_iff`: which tables are refused, and what the refusal says;
* `Entry.key_divides`: a key with one dot is a module and a member in one way;
* `Handbook.globalOnly`, `Handbook.memberOnly`: each entry has its one place;
* `ofText_name_dot`: after a name and a dot the members of that module are asked for;
* `documented_once`: every entry is offered in one place, once and in the order of the table. -/

namespace EditorAssist

open Text Source Cursor

/-! ### Keys with a dot -/

/-- A text without the separator is one part. -/
theorem split_of_notMem {separator : Char} {text : List Char} (h : separator ∉ text) :
    split separator text = [text] := by
  induction text with
  | nil => rfl
  | cons c text ih =>
      have hc : c ≠ separator := fun e => h (by simp [e])
      have hrest := ih (fun hmem => h (List.mem_cons_of_mem _ hmem))
      rw [split, List.cons.injEq] at hrest
      rw [split_cons_of_ne hc, hrest.1, hrest.2]

namespace Entry

/-- What stands before the dot, in a key with one dot. -/
def moduleName? (e : Entry) : Option String :=
  match split '.' e.key.toList with
  | [moduleName, _] => some (String.ofList moduleName)
  | _ => none

theorem toList_of_key {e : Entry} {moduleName member : String}
    (h : e.key = moduleName ++ "." ++ member) :
    e.key.toList = moduleName.toList ++ '.' :: member.toList := by
  rw [h]
  simp

theorem key_of_toList {e : Entry} {moduleName member : List Char}
    (h : e.key.toList = moduleName ++ '.' :: member) :
    e.key = String.ofList moduleName ++ "." ++ String.ofList member := by
  apply String.toList_injective
  rw [h]
  simp

theorem dots_of_key {e : Entry} {moduleName member : String}
    (h : e.key = moduleName ++ "." ++ member) :
    e.dots = moduleName.toList.count '.' + (member.toList.count '.' + 1) := by
  rw [dots, toList_of_key h, List.count_append, List.count_cons_self]

/-- Around the only dot of a key there are no others. -/
theorem notMem_of_key {e : Entry} {moduleName member : String}
    (h : e.key = moduleName ++ "." ++ member) (hdots : e.dots ≤ 1) :
    '.' ∉ moduleName.toList ∧ '.' ∉ member.toList := by
  have hcount := dots_of_key h
  constructor
  · apply List.count_eq_zero.mp
    omega
  · apply List.count_eq_zero.mp
    omega

/-- A key with one dot is a module, a dot and a member in one way. -/
theorem key_divides {e : Entry} (h : e.dots = 1) :
    ∃ moduleName member, ∀ moduleName' member',
      e.key = moduleName' ++ "." ++ member' ↔ moduleName' = moduleName ∧ member' = member := by
  have hdot : '.' ∈ e.key.toList := by
    apply List.count_pos_iff.mp
    rw [dots] at h
    omega
  obtain ⟨front, back, e'⟩ := List.append_of_mem hdot
  refine ⟨String.ofList front, String.ofList back, fun moduleName' member' => ⟨?_, ?_⟩⟩
  · intro hkey
    obtain ⟨hfront, hback⟩ := notMem_of_key hkey (by omega)
    rw [toList_of_key hkey, List.append_cons_inj_of_notMem hfront hback] at e'
    rw [← e'.1, ← e'.2.2, String.ofList_toList, String.ofList_toList]
    exact ⟨rfl, rfl⟩
  · rintro ⟨rfl, rfl⟩
    exact key_of_toList e'

theorem moduleName?_eq_some_iff {e : Entry} {moduleName : String} :
    e.moduleName? = some moduleName ↔
      e.dots = 1 ∧ ∃ member, e.key = moduleName ++ "." ++ member := by
  constructor
  · intro h
    unfold moduleName? at h
    split at h
    · next front back hsplit =>
        obtain rfl := Option.some.inj h
        have hkey := intercalate_split '.' e.key.toList
        rw [hsplit] at hkey
        have hfront : '.' ∉ front := notMem_of_mem_split (by rw [hsplit]; simp)
        have hback : '.' ∉ back := notMem_of_mem_split (by rw [hsplit]; simp)
        have hlist : e.key.toList = front ++ '.' :: back := by
          rw [← hkey]
          simp
        refine ⟨?_, String.ofList back, key_of_toList hlist⟩
        rw [dots, hlist, List.count_append, List.count_cons_self, List.count_eq_zero.mpr hfront,
          List.count_eq_zero.mpr hback]
    · cases h
  · rintro ⟨hdots, member, hkey⟩
    obtain ⟨hfront, hback⟩ := notMem_of_key hkey (by omega)
    unfold moduleName?
    rw [toList_of_key hkey, split_append_cons, split_of_notMem hfront, split_of_notMem hback]
    simp

end Entry

/-! ### The places of a handbook -/

namespace Handbook

/-- A table is refused for its keys with two or more dots, and the refusal names those. -/
theorem ofTable_eq_error_iff {vocabulary : Vocabulary} {table : Table} {error : DottedKeys} :
    ofTable vocabulary table = .error error ↔
      (∃ e ∈ table.entries, 2 ≤ e.dots) ∧
        error.keys = (table.entries.filter fun e => 2 ≤ e.dots).map Entry.key ∧
        error.message = "Documentation keys may contain at most one dot: " ++
          ", ".intercalate ((table.entries.filter fun e => 2 ≤ e.dots).map Entry.key) := by
  have hentries : dottedEntries table = table.entries.filter fun e => 2 ≤ e.dots := rfl
  rw [← hentries]
  have hdotted : dottedEntries table ≠ [] ↔ ∃ e ∈ table.entries, 2 ≤ e.dots := by
    simp only [hentries, Ne, List.filter_eq_nil_iff, decide_eq_true_eq, not_forall, not_not,
      exists_prop]
  unfold ofTable
  by_cases h : dottedEntries table = []
  · rw [dif_pos h, ← hdotted]
    simp [h]
  · rw [dif_neg h, ← hdotted, Except.error.injEq]
    constructor
    · rintro rfl
      exact ⟨h, rfl, rfl⟩
    · rintro ⟨-, hkeys, -⟩
      rw [← hkeys]

theorem ofTable_eq_ok {vocabulary : Vocabulary} {table : Table} {h : Handbook}
    (hok : ofTable vocabulary table = .ok h) :
    h.vocabulary = vocabulary ∧ h.entries = table.entries := by
  unfold ofTable at hok
  split at hok
  · cases hok
    exact ⟨rfl, rfl⟩
  · cases hok

theorem nodup_entries (h : Handbook) : h.entries.Nodup := h.table.nodup.of_map

theorem mem_globals_iff {h : Handbook} {e : Entry} :
    e ∈ h.globals ↔ e ∈ h.entries ∧ e.dots = 0 := by
  simp [globals, Entry.dots, List.count_eq_zero]

theorem memberOf?_eq_some_iff {moduleName : String} {e member : Entry} :
    memberOf? moduleName e = some member ↔
      e = ⟨moduleName ++ "." ++ member.key, member.description⟩ := by
  obtain ⟨key, description⟩ := e
  obtain ⟨name, said⟩ := member
  simp only [memberOf?, Option.map_eq_some_iff, after?_eq_some_iff, Entry.mk.injEq]
  constructor
  · rintro ⟨rest, hkey, rfl, rfl⟩
    refine ⟨?_, rfl⟩
    apply String.toList_injective
    rw [hkey]
    simp
  · rintro ⟨rfl, rfl⟩
    exact ⟨name.toList, by simp, by simp, rfl⟩

theorem mem_members_iff {h : Handbook} {moduleName : String} {member : Entry} :
    member ∈ h.members moduleName ↔
      ⟨moduleName ++ "." ++ member.key, member.description⟩ ∈ h.entries := by
  simp only [members, List.mem_filterMap, memberOf?_eq_some_iff]
  constructor
  · rintro ⟨e, he, rfl⟩
    exact he
  · intro he
    exact ⟨_, he, rfl⟩

/-- No member is listed twice. -/
theorem nodup_members (h : Handbook) (moduleName : String) : (h.members moduleName).Nodup := by
  refine h.nodup_entries.filterMap ?_
  intro e e' member he he'
  rw [Option.mem_def, memberOf?_eq_some_iff] at he he'
  rw [he, he']

/-- The entry is one of the globals, once, and no module has it as a member. -/
structure GlobalOnly (h : Handbook) (e : Entry) : Prop where
  once : h.globals.count e = 1
  gives : ∀ moduleName, memberOf? moduleName e = none
  listed : ∀ moduleName, ∀ member ∈ h.members moduleName, e.key ≠ moduleName ++ "." ++ member.key

/-- The key of the entry divides in one way, its member is listed once for its module and for no
other module, whatever that is called, and the key is none of the globals. -/
structure MemberOnly (h : Handbook) (e : Entry) (moduleName member : String) : Prop where
  divides : ∀ moduleName' member',
    e.key = moduleName' ++ "." ++ member' ↔ moduleName' = moduleName ∧ member' = member
  once : (h.members moduleName).count ⟨member, e.description⟩ = 1
  gives : ∀ moduleName', moduleName' ≠ moduleName → memberOf? moduleName' e = none
  listed : ∀ moduleName', ∀ other ∈ h.members moduleName',
    e.key = moduleName' ++ "." ++ other.key → moduleName' = moduleName
  noGlobal : ∀ other ∈ h.globals, other.key ≠ e.key

theorem globalOnly {h : Handbook} {e : Entry} (he : e ∈ h.entries) (hdots : e.dots = 0) :
    h.GlobalOnly e := by
  have hkey : ∀ moduleName member, e.key ≠ moduleName ++ "." ++ member := by
    intro moduleName member hkey
    have hcount := Entry.dots_of_key hkey
    omega
  constructor
  · exact List.count_eq_one_of_mem (h.nodup_entries.filter _) (mem_globals_iff.mpr ⟨he, hdots⟩)
  · intro moduleName
    rw [Option.eq_none_iff_forall_ne_some]
    intro member hmember
    exact hkey moduleName member.key (congrArg Entry.key (memberOf?_eq_some_iff.mp hmember))
  · exact fun moduleName member _ => hkey moduleName member.key

theorem memberOnly {h : Handbook} {e : Entry} (he : e ∈ h.entries) (hdots : e.dots = 1) :
    ∃ moduleName member, h.MemberOnly e moduleName member := by
  obtain ⟨moduleName, member, hdivides⟩ := Entry.key_divides hdots
  refine ⟨moduleName, member, hdivides, ?_, ?_, ?_, ?_⟩
  · apply List.count_eq_one_of_mem (h.nodup_members moduleName)
    rw [mem_members_iff, ← (hdivides moduleName member).mpr ⟨rfl, rfl⟩]
    exact he
  · intro moduleName' hne
    rw [Option.eq_none_iff_forall_ne_some]
    intro other hother
    have hkey := congrArg Entry.key (memberOf?_eq_some_iff.mp hother)
    exact hne ((hdivides moduleName' other.key).mp hkey).1
  · exact fun moduleName' other _ hkey => ((hdivides moduleName' other.key).mp hkey).1
  · intro other hother hkey
    have hnone : e.dots = 0 := by
      rw [← (mem_globals_iff.mp hother).2, Entry.dots, Entry.dots, hkey]
    omega

/-- An entry gives a member to the module that its key names. -/
theorem memberOf?_isSome_iff {e : Entry} (hdots : e.dots ≤ 1) {moduleName : String} :
    (memberOf? moduleName e).isSome = true ↔ e.moduleName? = some moduleName := by
  rw [Option.isSome_iff_exists, Entry.moduleName?_eq_some_iff]
  constructor
  · rintro ⟨member, hmember⟩
    have hkey := congrArg Entry.key (memberOf?_eq_some_iff.mp hmember)
    have hcount := Entry.dots_of_key hkey
    exact ⟨by omega, member.key, hkey⟩
  · rintro ⟨-, member, hkey⟩
    exact ⟨⟨member, e.description⟩, memberOf?_eq_some_iff.mpr (by rw [← hkey])⟩

end Handbook

/-! ### After a name and a dot -/

namespace Cursor

theorem receiver?_name_dot {name : List Char} (h : IsName name) :
    receiver? (name ++ ['.']) = some name := by
  have hread : receiverToEnd? (name ++ ['.']) = some name :=
    receiverToEnd?_eq_some_iff.mpr ⟨h, [], rfl, rfl⟩
  obtain ⟨-, c, hc, -⟩ := h
  cases name with
  | nil => cases hc
  | cons d name =>
      have hstart : startsWord none = true := rfl
      rw [List.cons_append] at hread ⊢
      rw [receiver?, firstAtWordStart, if_pos hstart, hread]

end Cursor

/-- After a name and a dot, the members of the module with that name are asked for. -/
theorem ofText_name_dot {name : String} (h : IsName name.toList) :
    Spot.ofText (name ++ ".") = .member name := by
  have htext : (name ++ ".").toList = name.toList ++ ['.'] := by simp
  have hdot : (name.toList ++ ['.']).getLast? = some '.' := List.getLast?_concat
  have hplain : ∀ c ∈ name.toList ++ ['.'], Plain c := by
    rw [List.forall_mem_append, List.forall_mem_singleton]
    exact ⟨fun c hc => plain_of_isNameChar (h.1 c hc), by decide, by decide⟩
  rw [Spot.ofText_eq_member_iff, htext]
  refine ⟨?_, ?_, ?_, name.toList, receiver?_name_dot h, String.ofList_toList⟩
  · exact namesDeclaration_eq_false_of_getLast? hdot (by decide) (by decide)
  · rw [← List.nil_append (name.toList ++ ['.']), inImportPath_append fun c hc => (hplain c hc).1]
    rfl
  · rw [← List.nil_append (name.toList ++ ['.'])]
    exact inLiteralOrComment_append rfl hplain

/-! ### Suggestions -/

/-- What is kept of a list stands in the order of what it is made from. -/
theorem forall₂_filterMap {α β : Type} {relates : α → β → Prop} {f : α → Option β}
    (h : ∀ a b, f a = some b → relates a b) (list : List α) :
    List.Forall₂ relates (list.filter fun a => (f a).isSome) (list.filterMap f) := by
  induction list with
  | nil => exact .nil
  | cons a list ih =>
      cases hf : f a with
      | none => simpa [hf] using ih
      | some b => simpa [hf] using ⟨h a b hf, ih⟩

/-- The suggestion puts in the member of the entry and says what the entry says. -/
structure ShowsMember (moduleName : String) (e : Entry) (s : Suggestion) : Prop where
  key : e.key = moduleName ++ "." ++ s.label
  insertText : s.insertText = s.label ++ "()"
  documentation : s.documentation = some e.description

theorem showsMember {moduleName : String} {e member : Entry}
    (h : Handbook.memberOf? moduleName e = some member) :
    ShowsMember moduleName e (Suggestion.member moduleName member) := by
  rw [Handbook.memberOf?_eq_some_iff.mp h]
  exact ⟨rfl, rfl, rfl⟩

/-- The members of a module are suggested one for each of its keys, in the order of the table. -/
theorem members_shown (h : Handbook) (moduleName : String) :
    List.Forall₂ (ShowsMember moduleName)
      (h.entries.filter fun e => e.moduleName? = some moduleName)
      (Suggestion.members h moduleName) := by
  have hfilter : h.entries.filter (fun e => e.moduleName? = some moduleName) =
      h.entries.filter fun e => (Handbook.memberOf? moduleName e).isSome := by
    apply List.filter_congr
    intro e he
    rw [Bool.eq_iff_iff, decide_eq_true_eq, Handbook.memberOf?_isSome_iff (h.oneDot e he)]
  rw [hfilter, Suggestion.members, Handbook.members, List.forall₂_map_right_iff]
  refine forall₂_filterMap ?_ h.entries
  intro e member hmember
  exact showsMember hmember

/-- A function that is offered without detail. -/
def Suggestion.isBuiltin (s : Suggestion) : Bool := s.kind = .functionName ∧ s.detail = none

theorem filter_isBuiltin_map {α : Type} {f : α → Suggestion} (h : ∀ a, (f a).isBuiltin = false)
    (list : List α) : (list.map f).filter Suggestion.isBuiltin = [] := by
  rw [List.filter_eq_nil_iff]
  intro s hs
  obtain ⟨a, -, rfl⟩ := List.mem_map.mp hs
  simp [h a]

/-- The documented names are the only functions that are offered without detail. -/
theorem filter_isBuiltin_general (h : Handbook) (text : String) :
    (Suggestion.general h text).filter Suggestion.isBuiltin = Suggestion.builtins h := by
  have hbuiltins : (Suggestion.builtins h).filter Suggestion.isBuiltin = Suggestion.builtins h := by
    rw [List.filter_eq_self]
    intro s hs
    obtain ⟨e, -, rfl⟩ := List.mem_map.mp hs
    rfl
  have hkeywords := filter_isBuiltin_map (f := Suggestion.keyword h) (fun _ => rfl)
  have hnative := filter_isBuiltin_map (f := Suggestion.native) (fun _ => rfl)
  have hvariables := filter_isBuiltin_map (f := Suggestion.userVariable) (fun _ => rfl)
  have hfunctions := filter_isBuiltin_map (f := Suggestion.userFunction) (fun _ => rfl)
  have hclasses := filter_isBuiltin_map (f := Suggestion.userClass) (fun _ => rfl)
  simp only [Suggestion.general, Suggestion.fixed, Suggestion.declared, List.filter_append,
    hkeywords, hbuiltins, hnative, hvariables, hfunctions, hclasses, List.nil_append,
    List.append_nil]

theorem builtins_eq (h : Handbook) :
    Suggestion.builtins h =
      (h.entries.filter fun e => e.dots = 0 ∧ e.key ∉ h.vocabulary.literals).map fun e =>
        ⟨e.key, .functionName, none, e.key ++ "()", some e.description⟩ := by
  rw [Suggestion.builtins, Handbook.globals, List.filter_filter]
  congr 1
  apply List.filter_congr
  intro e _
  simp [Entry.dots, List.count_eq_zero, and_comm]

theorem complete_name_dot (a : Assistant) (text : String) {name : String} (h : IsName name.toList) :
    (a.complete text (name ++ ".")).suggestions = Suggestion.members a.handbook name := by
  simp only [Assistant.complete, ofText_name_dot h, Assistant.suggestAt, Answer.ofSuggestions]

theorem complete_empty (a : Assistant) (text : String) :
    (a.complete text "").suggestions = Suggestion.general a.handbook text := by
  have hspot : Spot.ofText "" = .general := by decide
  simp only [Assistant.complete, hspot, Assistant.suggestAt, Answer.ofSuggestions]

/-- **Every entry is offered in one place.**  A table is refused exactly for its keys with two or
more dots, and the text of the refusal names them in the order of the table.  In a handbook that is
made of a table, an entry without a dot is one of the globals and nothing else, and an entry with a
dot is a member of its module and nothing else.  So after a name and a dot there is one suggestion
for each key of that module, and where the text before the cursor is empty, the functions without
detail are the keys without a dot that are no literals; both are in the order of the table. -/
theorem documented_once (vocabulary : Vocabulary) (table : Table) :
    (∀ error, Handbook.ofTable vocabulary table = .error error ↔
      (∃ e ∈ table.entries, 2 ≤ e.dots) ∧
        error.keys = (table.entries.filter fun e => 2 ≤ e.dots).map Entry.key ∧
        error.message = "Documentation keys may contain at most one dot: " ++
          ", ".intercalate ((table.entries.filter fun e => 2 ≤ e.dots).map Entry.key)) ∧
    ∀ h, Handbook.ofTable vocabulary table = .ok h →
      (∀ e ∈ table.entries, e.dots = 0 ∧ h.GlobalOnly e ∨
        e.dots = 1 ∧ ∃ moduleName member, h.MemberOnly e moduleName member) ∧
      ∀ (a : Assistant) (text : String), a.handbook = h →
        (∀ name : String, IsName name.toList →
          List.Forall₂ (ShowsMember name) (table.entries.filter fun e => e.moduleName? = some name)
            (a.complete text (name ++ ".")).suggestions) ∧
        (a.complete text "").suggestions.filter Suggestion.isBuiltin =
          (table.entries.filter fun e => e.dots = 0 ∧ e.key ∉ vocabulary.literals).map fun e =>
            ⟨e.key, .functionName, none, e.key ++ "()", some e.description⟩ := by
  refine ⟨fun error => Handbook.ofTable_eq_error_iff, ?_⟩
  intro h hok
  obtain ⟨rfl, hentries⟩ := Handbook.ofTable_eq_ok hok
  rw [← hentries]
  constructor
  · intro e he
    have hdots : e.dots ≤ 1 := h.oneDot e he
    rcases Nat.le_one_iff_eq_zero_or_eq_one.mp hdots with hnone | hone
    · exact .inl ⟨hnone, Handbook.globalOnly he hnone⟩
    · exact .inr ⟨hone, Handbook.memberOnly he hone⟩
  · rintro a text rfl
    constructor
    · intro name hname
      rw [complete_name_dot a text hname]
      exact members_shown a.handbook name
    · rw [complete_empty, filter_isBuiltin_general, builtins_eq]

/-- Keys with two dots are refused and named.  In a handbook of a member and a global name, the
member is offered after its module and the other name without one. -/
theorem documented_once_small :
    let vocabulary : Vocabulary := ⟨[], ["fs"], [], "pkg", ["nil"]⟩
    let table := Table.ofEntries [⟨"fs.exists", "Looks."⟩, ⟨"nil", "Nothing."⟩, ⟨"fetch", "Reads."⟩]
    let dotted := Table.ofEntries [⟨"x..", ""⟩, ⟨"a", ""⟩, ⟨"a.b.c", ""⟩]
    let refusal : Handbook.DottedKeys := ⟨["x..", "a.b.c"]⟩
    Handbook.ofTable vocabulary dotted = .error refusal ∧
    refusal.message = "Documentation keys may contain at most one dot: x.., a.b.c" ∧
    ∃ h, Handbook.ofTable vocabulary table = .ok h ∧
      (∃ moduleName member, h.MemberOnly ⟨"fs.exists", "Looks."⟩ moduleName member) ∧
      ∀ (a : Assistant) (text : String), a.handbook = h →
        List.Forall₂ (ShowsMember "fs") [⟨"fs.exists", "Looks."⟩]
          (a.complete text ("fs" ++ ".")).suggestions ∧
        (a.complete text "").suggestions.filter Suggestion.isBuiltin =
          [⟨"fetch", .functionName, none, "fetch()", some "Reads."⟩] := by
  intro vocabulary table dotted refusal
  have hdotted : (dotted.entries.filter fun e => 2 ≤ e.dots).map Entry.key = ["x..", "a.b.c"] := by
    decide +kernel
  have hrefused : Handbook.ofTable vocabulary dotted = .error refusal := by
    refine ((documented_once vocabulary dotted).1 refusal).mpr ⟨⟨⟨"x..", ""⟩, ?_, ?_⟩, ?_⟩
    · decide +kernel
    · decide
    · rw [hdotted]
      exact ⟨rfl, rfl⟩
  obtain ⟨-, -, hmessage⟩ := ((documented_once vocabulary dotted).1 refusal).mp hrefused
  rw [hdotted] at hmessage
  have htable : Handbook.dottedEntries table = [] := by decide +kernel
  have hok : Handbook.ofTable vocabulary table = .ok ⟨vocabulary, table, _⟩ := dif_pos htable
  refine ⟨hrefused, hmessage.trans (by decide), _, hok, ?_, ?_⟩
  · obtain ⟨hplaces, -⟩ := (documented_once vocabulary table).2 _ hok
    rcases hplaces ⟨"fs.exists", "Looks."⟩ (by decide +kernel) with ⟨hnone, -⟩ | ⟨-, hmember⟩
    · exact absurd hnone (by decide)
    · exact hmember
  · intro a text ha
    obtain ⟨hmembers, hbuiltins⟩ := ((documented_once vocabulary table).2 _ hok).2 a text ha
    have hshown := hmembers "fs" ⟨List.all_eq_true.mp rfl, 'f', rfl, rfl⟩
    have hkeys : (table.entries.filter fun e => e.moduleName? = some "fs") =
        [⟨"fs.exists", "Looks."⟩] := by decide +kernel
    rw [hkeys] at hshown
    refine ⟨hshown, ?_⟩
    rw [hbuiltins]
    decide +kernel

end EditorAssist
