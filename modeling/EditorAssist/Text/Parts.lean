import EditorAssist.Text.Character

/-! # Parts of a text

Texts are cut at one separator character, freed of the blanks around them, and joined again. -/

namespace EditorAssist.Text

/-- One step of `cut`, from the right: the part that is being read and the parts after it. -/
def cutStep (separator c : Char) (parts : List Char × List (List Char)) :
    List Char × List (List Char) :=
  if c = separator then ([], parts.1 :: parts.2) else (c :: parts.1, parts.2)

/-- The first part of a text cut at every separator, and the parts that follow it. -/
def cut (separator : Char) (text : List Char) : List Char × List (List Char) :=
  text.foldr (cutStep separator) ([], [])

/-- The parts between the separators.  There is always one more part than separators. -/
def split (separator : Char) (text : List Char) : List (List Char) :=
  (cut separator text).1 :: (cut separator text).2

theorem cut_cons (separator c : Char) (text : List Char) :
    cut separator (c :: text) = cutStep separator c (cut separator text) := rfl

@[simp] theorem split_nil (separator : Char) : split separator [] = [[]] := rfl

theorem split_cons_self (separator : Char) (text : List Char) :
    split separator (separator :: text) = [] :: split separator text := by
  simp [split, cut_cons, cutStep]

theorem split_cons_of_ne {separator c : Char} (h : c ≠ separator) (text : List Char) :
    split separator (c :: text) =
      (c :: (cut separator text).1) :: (cut separator text).2 := by
  simp [split, cut_cons, cutStep, h]

/-- No part holds the separator. -/
theorem notMem_of_mem_split {separator : Char} {text part : List Char}
    (h : part ∈ split separator text) : separator ∉ part := by
  induction text generalizing part with
  | nil => simp_all
  | cons c text ih =>
    by_cases hc : c = separator
    · subst hc
      rw [split_cons_self] at h
      rcases List.mem_cons.mp h with rfl | h
      · simp
      · exact ih h
    · rw [split_cons_of_ne hc] at h
      rcases List.mem_cons.mp h with rfl | h
      · have first : separator ∉ (cut separator text).1 := ih (by simp [split])
        simp [first, Ne.symm hc]
      · exact ih (by simp [split, h])

/-- The parts, joined by the separator, are the text. -/
theorem intercalate_split (separator : Char) (text : List Char) :
    [separator].intercalate (split separator text) = text := by
  induction text with
  | nil => simp
  | cons c text ih =>
    by_cases hc : c = separator
    · subst hc
      rw [split_cons_self]
      rw [split] at ih ⊢
      simp only [List.intercalate, List.intersperse, List.flatten_cons, List.nil_append,
        List.cons_append] at ih ⊢
      rw [ih]
    · rw [split_cons_of_ne hc]
      rw [split] at ih
      cases hs : (cut separator text).2 with
      | nil => simp_all [List.intercalate]
      | cons p ps => simp_all [List.intercalate, List.intersperse]

/-- A separator between two texts divides their parts. -/
theorem split_append_cons (separator : Char) (a b : List Char) :
    split separator (a ++ separator :: b) = split separator a ++ split separator b := by
  induction a with
  | nil => simp [split_cons_self]
  | cons c a ih =>
    by_cases hc : c = separator
    · subst hc
      simp [split_cons_self, ih]
    · rw [List.cons_append, split_cons_of_ne hc, split_cons_of_ne hc]
      simp only [split, List.cons_append, List.cons.injEq] at ih ⊢
      simp [ih.1, ih.2]

/-- The text without the characters of a class at its end. -/
def dropEndWhile (p : Char → Bool) (text : List Char) : List Char :=
  (text.reverse.dropWhile p).reverse

/-- The text without the characters of a class at either end. -/
def trimWhile (p : Char → Bool) (text : List Char) : List Char :=
  dropEndWhile p (text.dropWhile p)

/-- The text without the blanks at either end. -/
def trim (text : List Char) : List Char := trimWhile isBlank text

/-- What follows `head` in a text that begins with it. -/
def after? : (head text : List Char) → Option (List Char)
  | [], text => some text
  | _ :: _, [] => none
  | h :: head, c :: text => if h = c then after? head text else none

theorem after?_eq_some_iff {head text rest : List Char} :
    after? head text = some rest ↔ text = head ++ rest := by
  fun_induction after? head text with
  | case1 text => simp [eq_comm]
  | case2 => simp
  | case3 head c text ih => simp [ih]
  | case4 h head c text hne =>
    simp only [reduceCtorEq, List.cons_append, List.cons.injEq, false_iff, not_and]
    exact fun hc => absurd hc.symm hne

end EditorAssist.Text
