/-! # Open documents

A store holds the texts of the open documents by their locations.  Locations are compared as they
are written. -/

namespace EditorAssist.Session

/-- The open documents: each location with its text. -/
structure Store where
  documents : List (String × String)
deriving Repr, DecidableEq

namespace Store

/-- The store without documents. -/
def empty : Store := ⟨[]⟩

/-- The text of a document. -/
def get? (s : Store) (uri : String) : Option String := s.documents.lookup uri

/-- The store without a document. -/
def erase (s : Store) (uri : String) : Store := ⟨s.documents.filter fun d => d.1 ≠ uri⟩

/-- The store in which a document has the text. -/
def put (s : Store) (uri text : String) : Store := ⟨(uri, text) :: (s.erase uri).documents⟩

@[simp] theorem get?_empty (uri : String) : empty.get? uri = none := rfl

@[simp] theorem get?_put_self (s : Store) (uri text : String) :
    (s.put uri text).get? uri = some text := by
  simp [get?, put]

@[simp] theorem get?_erase_self (s : Store) (uri : String) : (s.erase uri).get? uri = none := by
  rw [get?, erase, List.lookup_eq_none_iff]
  intro d hd
  have : d.1 ≠ uri := by simpa using (List.mem_filter.mp hd).2
  simpa using this.symm

theorem lookup_filter_ne {uri other : String} (h : other ≠ uri)
    (documents : List (String × String)) :
    (documents.filter fun d => d.1 ≠ uri).lookup other = documents.lookup other := by
  induction documents with
  | nil => rfl
  | cons d documents ih =>
    obtain ⟨key, text⟩ := d
    by_cases hd : key = uri
    · have : (other == key) = false := by simpa [hd] using h
      rw [List.filter_cons_of_neg (by simp [hd]), ih, List.lookup_cons, this]
    · rw [List.filter_cons_of_pos (by simp [hd]), List.lookup_cons, List.lookup_cons, ih]

theorem get?_erase_of_ne {uri other : String} (h : other ≠ uri) (s : Store) :
    (s.erase uri).get? other = s.get? other :=
  lookup_filter_ne h s.documents

theorem get?_put_of_ne {uri other : String} (h : other ≠ uri) (s : Store) (text : String) :
    (s.put uri text).get? other = s.get? other := by
  have : (other == uri) = false := by simpa using h
  rw [get?, put, List.lookup_cons, this]
  exact get?_erase_of_ne h s

end Store

end EditorAssist.Session
