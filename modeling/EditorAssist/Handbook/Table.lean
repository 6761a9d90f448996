/-! # Documentation tables

A table maps keys to descriptions and keeps the order in which its keys were first put in.

* `Table.put`: a new key goes to the end, a known key keeps its place and takes the new description;
* `Table.ofEntries`: the table that entries give when they are put in one after the other. -/

namespace EditorAssist

/-- A key and what is said about it. -/
structure Entry where
  key : String
  description : String
deriving Repr, DecidableEq

namespace Entry

/-- The entry as it is shown to a reader. -/
def markdown (e : Entry) : String := "**" ++ e.key ++ "**\n\n" ++ e.description

/-- How many dots the key has. -/
def dots (e : Entry) : Nat := e.key.toList.count '.'

end Entry

/-- Entries in order, no two with the same key. -/
structure Table where
  entries : List Entry
  nodup : (entries.map Entry.key).Nodup
deriving Repr, DecidableEq

namespace Table

/-- The table without entries. -/
def empty : Table := ⟨[], .nil⟩

/-- The keys in the order of the table. -/
def keys (t : Table) : List String := t.entries.map Entry.key

/-- The entries with `new` in the place of the entry that has its key. -/
def replaceIn (new : Entry) (entries : List Entry) : List Entry :=
  entries.map fun e => if e.key = new.key then new else e

theorem keys_replaceIn (new : Entry) (entries : List Entry) :
    (replaceIn new entries).map Entry.key = entries.map Entry.key := by
  rw [replaceIn, List.map_map]
  refine List.map_congr_left fun e _ => ?_
  by_cases h : e.key = new.key
  · simp [h]
  · simp [h]

theorem nodup_keys_append {entries : List Entry} {new : Entry}
    (nodup : (entries.map Entry.key).Nodup) (fresh : new.key ∉ entries.map Entry.key) :
    ((entries ++ [new]).map Entry.key).Nodup := by
  rw [List.map_append, List.nodup_append]
  refine ⟨nodup, by simp, fun a ha b hb hab => ?_⟩
  have : b = new.key := by simpa using hb
  exact fresh (this ▸ hab ▸ ha)

/-- Puts an entry in: at the end, or in the place of the entry that has its key. -/
def put (t : Table) (new : Entry) : Table :=
  if h : new.key ∈ t.entries.map Entry.key then
    ⟨replaceIn new t.entries, (keys_replaceIn new t.entries).symm ▸ t.nodup⟩
  else
    ⟨t.entries ++ [new], nodup_keys_append t.nodup h⟩

/-- The table that the entries give when they are put in one after the other. -/
def ofEntries (entries : List Entry) : Table := entries.foldl put empty

/-- The entry with the key. -/
def find? (t : Table) (key : String) : Option Entry := t.entries.find? fun e => e.key = key

/-- An entry of a table is the one that its key finds. -/
theorem find?_key_of_mem (t : Table) {e : Entry} (h : e ∈ t.entries) : t.find? e.key = some e := by
  obtain ⟨entries, nodup⟩ := t
  simp only [find?] at h ⊢
  induction entries with
  | nil => cases h
  | cons a rest ih =>
    rw [List.map_cons, List.nodup_cons] at nodup
    rcases List.mem_cons.mp h with rfl | h
    · simp
    · have hne : a.key ≠ e.key := fun same => nodup.1 (same ▸ List.mem_map_of_mem h)
      rw [List.find?_cons_of_neg (by simpa using hne)]
      exact ih nodup.2 h

/-- The description of the key. -/
def get? (t : Table) (key : String) : Option String := (t.find? key).map Entry.description

end Table

end EditorAssist
