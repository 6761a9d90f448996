import Mathlib.Data.List.DropRight
import EditorAssist.Proofs.Answered

/-! # What a word stands for

A word stands for the first entry of the table whose key is the word, or a module, a dot and the
word.  Hovers look at what a key ends in, members at what it begins with, and globals at whether it
has a dot; all three come to the same entries.

* `Handbook.explain_eq_some_iff`, `Handbook.explain_eq_none_iff`: which entry a word stands for, and
  which words stand for none;
* `function_shows_entry`: every function that is suggested shows an entry, if it is not a user's;
* `explain_agrees_with_suggestions`: its label stands for an entry, and for the one that it shows
  where no other key ends in the same part. -/

namespace EditorAssist

open Text Source

/-! ### Words and keys -/

namespace Entry

/-- The word stands for the entry: the key is the word, or a module, a dot and the word. -/
def Answers (e : Entry) (word : String) : Prop :=
  e.key = word ∨ ∃ moduleName, e.key = moduleName ++ "." ++ word

/-- What stands after the last dot of the key, or the whole key if it has no dot. -/
def lastPart (e : Entry) : String := String.ofList (e.key.toList.rtakeWhile (· ≠ '.'))

/-- A word without a dot stands for entries whose keys end in it. -/
theorem Answers.lastPart_eq {e : Entry} {word : String} (h : e.Answers word)
    (hdot : '.' ∉ word.toList) : e.lastPart = word := by
  have hrun : ∀ c ∈ word.toList, decide (c ≠ '.') = true := by
    intro c hc
    rw [decide_eq_true_eq]
    rintro rfl
    exact hdot hc
  have hlast : e.key.toList.rtakeWhile (fun c => decide (c ≠ '.')) = word.toList := by
    rcases h with rfl | ⟨moduleName, hkey⟩
    · exact List.rtakeWhile_eq_self_iff.mpr hrun
    · have hlead : ∀ c ∈ (moduleName.toList ++ ['.']).getLast?, decide (c ≠ '.') = false := by
        simp
      rw [toList_of_key hkey, List.append_cons]
      exact rtakeWhile_append hrun hlead
  rw [lastPart, hlast, String.ofList_toList]

end Entry

namespace Handbook

theorem names_iff {word : String} {e : Entry} : names word e = true ↔ e.Answers word := by
  rw [names, Bool.or_eq_true, decide_eq_true_eq, List.isSuffixOf_iff_suffix, Entry.Answers]
  refine or_congr_right ⟨?_, ?_⟩
  · rintro ⟨front, hfront⟩
    have hkey := Entry.key_of_toList hfront.symm
    rw [String.ofList_toList] at hkey
    exact ⟨_, hkey⟩
  · rintro ⟨moduleName, hkey⟩
    exact ⟨moduleName.toList, (Entry.toList_of_key hkey).symm⟩

/-- A word stands for the first entry that it names. -/
theorem explain_eq_some_iff {h : Handbook} {word : String} {e : Entry} :
    h.explain word = some e ↔
      word ≠ "" ∧ ∃ earlier later, h.entries = earlier ++ e :: later ∧ e.Answers word ∧
        ∀ other ∈ earlier, ¬ other.Answers word := by
  unfold explain
  by_cases hword : word = ""
  · simp [hword]
  · rw [if_neg hword, List.find?_eq_some_iff_append]
    constructor
    · rintro ⟨hnames, earlier, later, hentries, hearlier⟩
      refine ⟨hword, earlier, later, hentries, names_iff.mp hnames, ?_⟩
      intro other hother hanswers
      have hnot := hearlier other hother
      rw [names_iff.mpr hanswers] at hnot
      cases hnot
    · rintro ⟨-, earlier, later, hentries, hanswers, hearlier⟩
      refine ⟨names_iff.mpr hanswers, earlier, later, hentries, ?_⟩
      intro other hother
      rw [Bool.not_eq_true', ← Bool.not_eq_true, names_iff]
      exact hearlier other hother

theorem get?_eq_none_iff {h : Handbook} {key : String} :
    h.get? key = none ↔ ∀ e ∈ h.entries, e.key ≠ key := by
  simp [get?, Table.get?, Table.find?, entries]

/-- A word stands for nothing if it is empty, or neither a key nor a member of any module. -/
theorem explain_eq_none_iff {h : Handbook} {word : String} :
    h.explain word = none ↔
      word = "" ∨ h.get? word = none ∧
        ∀ moduleName, ∀ member ∈ h.members moduleName, member.key ≠ word := by
  unfold explain
  by_cases hword : word = ""
  · simp [hword]
  · rw [if_neg hword, List.find?_eq_none, get?_eq_none_iff, or_iff_right hword]
    constructor
    · intro hnone
      constructor
      · intro e he hkey
        exact hnone e he (names_iff.mpr (.inl hkey))
      · rintro moduleName member hmember rfl
        exact hnone _ (mem_members_iff.mp hmember) (names_iff.mpr (.inr ⟨moduleName, rfl⟩))
    · rintro ⟨hkeys, hmembers⟩ e he hnames
      rcases names_iff.mp hnames with hkey | ⟨moduleName, hkey⟩
      · exact hkeys e he hkey
      · refine hmembers moduleName ⟨word, e.description⟩ ?_ rfl
        rw [mem_members_iff, ← hkey]
        exact he

/-- A word that some entry answers to stands for an entry. -/
theorem explain_of_answers {h : Handbook} {word : String} {e : Entry} (he : e ∈ h.entries)
    (hanswers : e.Answers word) (hword : word ≠ "") :
    ∃ found ∈ h.entries, h.explain word = some found ∧ found.Answers word := by
  cases hfound : h.explain word with
  | none =>
      rw [explain, if_neg hword, List.find?_eq_none] at hfound
      exact absurd (names_iff.mpr hanswers) (hfound e he)
  | some found =>
      obtain ⟨-, earlier, later, hentries, hfirst, -⟩ := explain_eq_some_iff.mp hfound
      exact ⟨found, by simp [hentries], rfl, hfirst⟩

/-- Entries with the same key are the same. -/
theorem eq_of_key_eq {h : Handbook} {e e' : Entry} (he : e ∈ h.entries) (he' : e' ∈ h.entries)
    (hkey : e.key = e'.key) : e = e' := by
  have hfound := h.table.find?_key_of_mem he
  rw [hkey, h.table.find?_key_of_mem he'] at hfound
  exact (Option.some.inj hfound).symm

end Handbook

/-! ### Suggested functions -/

/-- The suggestion is for the last part of the entry's key, and says what the entry says. -/
structure ShowsEntry (e : Entry) (s : Suggestion) : Prop where
  answers : e.Answers s.label
  lastPart : e.lastPart = s.label
  plain : '.' ∉ s.label.toList
  documentation : s.documentation = some e.description

theorem showsEntry_of_answers {e : Entry} {s : Suggestion} (hanswers : e.Answers s.label)
    (hplain : '.' ∉ s.label.toList) (hdocumentation : s.documentation = some e.description) :
    ShowsEntry e s :=
  ⟨hanswers, hanswers.lastPart_eq hplain, hplain, hdocumentation⟩

theorem member_shows_entry {h : Handbook} {moduleName : String} {s : Suggestion}
    (hs : s ∈ Suggestion.members h moduleName) : ∃ e ∈ h.entries, ShowsEntry e s := by
  obtain ⟨member, hmember, rfl⟩ := List.mem_map.mp hs
  have he := Handbook.mem_members_iff.mp hmember
  have hplain := (Entry.notMem_of_key rfl (h.oneDot _ he)).2
  exact ⟨_, he, showsEntry_of_answers (.inr ⟨moduleName, rfl⟩) hplain rfl⟩

theorem builtin_shows_entry {h : Handbook} {s : Suggestion} (hs : s ∈ Suggestion.builtins h) :
    ∃ e ∈ h.entries, ShowsEntry e s := by
  obtain ⟨e, he, rfl⟩ := List.mem_map.mp hs
  obtain ⟨hmem, hdots⟩ := Handbook.mem_globals_iff.mp (List.mem_filter.mp he).1
  exact ⟨e, hmem, showsEntry_of_answers (.inl rfl) (List.count_eq_zero.mp hdots) rfl⟩

/-- An import path is a module, a folder or a file. -/
theorem kind_of_mem_importPaths {a : Assistant} {s : Suggestion}
    (hs : s ∈ a.importPaths.suggestions) : s.kind ≠ .functionName := by
  rcases Assistant.mem_importPaths hs with himports | ⟨item, hitem⟩
  · rcases List.mem_append.mp himports with hs | hs
    · obtain ⟨name, -, rfl⟩ := List.mem_map.mp hs
      exact Suggestion.Kind.noConfusion
    · obtain ⟨path, -, rfl⟩ := List.mem_map.mp hs
      exact Suggestion.Kind.noConfusion
  · rw [hitem.kind]
    split <;> exact Suggestion.Kind.noConfusion

theorem general_shows_entry {h : Handbook} {text : String} {s : Suggestion}
    (hs : s ∈ Suggestion.general h text) (hkind : s.kind = .functionName)
    (huser : ∀ name, s ≠ .userFunction name) : ∃ e ∈ h.entries, ShowsEntry e s := by
  simp only [Suggestion.general, Suggestion.fixed, Suggestion.declared, List.mem_append] at hs
  rcases hs with ((hs | hs) | hs) | ((hs | hs) | hs)
  · obtain ⟨word, -, rfl⟩ := List.mem_map.mp hs
    cases hkind
  · exact builtin_shows_entry hs
  · obtain ⟨name, -, rfl⟩ := List.mem_map.mp hs
    cases hkind
  · obtain ⟨name, -, rfl⟩ := List.mem_map.mp hs
    cases hkind
  · obtain ⟨name, -, rfl⟩ := List.mem_map.mp hs
    exact absurd rfl (huser name)
  · obtain ⟨name, -, rfl⟩ := List.mem_map.mp hs
    cases hkind

/-- A function that is suggested shows an entry, unless the text declares it. -/
theorem function_shows_entry {a : Assistant} {text before : String} {s : Suggestion}
    (hs : s ∈ (a.complete text before).suggestions) (hkind : s.kind = .functionName)
    (huser : ∀ name, s ≠ .userFunction name) : ∃ e ∈ a.handbook.entries, ShowsEntry e s := by
  have hat : s ∈ (a.suggestAt (Spot.ofText before) text).suggestions := hs
  cases hspot : Spot.ofText before with
  | declaration =>
      rw [hspot] at hat
      cases hat
  | literalOrComment =>
      rw [hspot] at hat
      cases hat
  | importPath =>
      rw [hspot] at hat
      exact absurd hkind (kind_of_mem_importPaths hat)
  | member receiver =>
      rw [hspot] at hat
      exact member_shows_entry hat
  | general =>
      rw [hspot] at hat
      exact general_shows_entry hat hkind huser

/-- **Words and suggestions agree.**  A word stands for the first entry whose key is the word or a
module, a dot and the word; it stands for none exactly when it is empty, or neither a key nor a
member of any module.  So every function that is suggested and is not a user's has a label that
stands for an entry, and where no other key ends in the same part, that entry is the one whose
description is suggested. -/
theorem explain_agrees_with_suggestions (h : Handbook) :
    (∀ word, (h.explain word = none ↔
        word = "" ∨ h.get? word = none ∧
          ∀ moduleName, ∀ member ∈ h.members moduleName, member.key ≠ word) ∧
      ∀ e, h.explain word = some e ↔
        word ≠ "" ∧ ∃ earlier later, h.entries = earlier ++ e :: later ∧ e.Answers word ∧
          ∀ other ∈ earlier, ¬ other.Answers word) ∧
    ∀ (a : Assistant) (text before : String), a.handbook = h →
      ∀ s ∈ (a.complete text before).suggestions, s.kind = .functionName →
        (∀ name, s ≠ .userFunction name) → s.label ≠ "" →
        ∃ found ∈ h.entries, h.explain s.label = some found ∧ found.Answers s.label ∧
          ∃ own ∈ h.entries, own.lastPart = s.label ∧ s.documentation = some own.description ∧
            ((∀ other ∈ h.entries, other.key ≠ own.key → other.lastPart ≠ s.label) →
              s.documentation = some found.description) := by
  refine ⟨fun word => ⟨Handbook.explain_eq_none_iff, fun e => Handbook.explain_eq_some_iff⟩, ?_⟩
  rintro a text before rfl s hs hkind huser hlabel
  obtain ⟨own, hown, hshows⟩ := function_shows_entry hs hkind huser
  obtain ⟨found, hfound, hexplain, hanswers⟩ :=
    Handbook.explain_of_answers hown hshows.answers hlabel
  refine ⟨found, hfound, hexplain, hanswers, own, hown, hshows.lastPart, hshows.documentation, ?_⟩
  intro hothers
  -- the entry that is found ends in the same part, so it is the one that is shown
  by_cases hkey : found.key = own.key
  · rw [Handbook.eq_of_key_eq hfound hown hkey]
    exact hshows.documentation
  · exact absurd (hanswers.lastPart_eq hshows.plain) (hothers found hfound hkey)

/-- Of two keys that end in the same part the first one is explained, also for the suggestion of the
other.  A member whose last part is its own is explained as it is suggested. -/
theorem explain_agrees_with_suggestions_small :
    let table := Table.ofEntries
      [⟨"list.length", "Counts."⟩, ⟨"length", "Measures."⟩, ⟨"fs.exists", "Looks."⟩]
    let s := Suggestion.member "fs" ⟨"exists", "Looks."⟩
    ∃ h, Handbook.ofTable ⟨[], ["fs"], [], "pkg", []⟩ table = .ok h ∧
      h.explain "length" = some ⟨"list.length", "Counts."⟩ ∧
      ∃ a : Assistant, a.handbook = h ∧ s ∈ (a.complete "" "fs.").suggestions ∧
        (∀ name, s ≠ .userFunction name) ∧
        ∃ found ∈ h.entries, h.explain "exists" = some found ∧
          s.documentation = some found.description := by
  intro table s
  have htable : Handbook.dottedEntries table = [] := by decide +kernel
  let h : Handbook := ⟨⟨[], ["fs"], [], "pkg", []⟩, table, by decide +kernel⟩
  let a : Assistant := ⟨h, fun _ => ⟨.ok [], []⟩, none, Assistant.mryaExtension⟩
  have hentries : h.entries =
      [⟨"list.length", "Counts."⟩, ⟨"length", "Measures."⟩, ⟨"fs.exists", "Looks."⟩] := by
    decide +kernel
  obtain ⟨hwords, hsuggestions⟩ := explain_agrees_with_suggestions h
  have hs : s ∈ (a.complete "" "fs.").suggestions := by decide +kernel
  have huser : ∀ name, s ≠ .userFunction name := by
    intro name he
    cases congrArg Suggestion.documentation he
  obtain ⟨found, hfound, hexplain, -, own, hown, hpart, -, hsame⟩ :=
    hsuggestions a "" "fs." rfl s hs rfl huser (by decide)
  have hkeys : ∀ e ∈ h.entries, e.lastPart = "exists" → e.key = "fs.exists" := by
    decide +kernel
  refine ⟨h, dif_pos htable, ?_, a, rfl, hs, huser, found, hfound, hexplain, hsame ?_⟩
  · have hlength : Entry.Answers ⟨"list.length", "Counts."⟩ "length" := .inr ⟨"list", by decide⟩
    exact ((hwords "length").2 _).mpr ⟨by decide, [], _, hentries, hlength, by simp⟩
  · intro other hother hne hlast
    exact hne ((hkeys other hother hlast).trans (hkeys own hown hpart).symm)

end EditorAssist
