import EditorAssist.Proofs.Backward

/-! # The word at a column, found by walking

The word at a column lies between the ends of two walks that start there.  One goes to the left as
long as a name character stands before its place, the other to the right as long as one stands at
its place.  A place is counted from the start of the line, or from its end if it is negative, so a
walk to the right that starts at a negative column goes on through the start of the line.

* `Walk`: a walk step by step, and how it ends;
* `walk_stepBack`, `walk_stepOn`: both walks end, after as many steps as there are name characters;
* `wordAt_of_walks`: the word at a column is what stands between their ends;
* `wordAt_exact`: which word that is, for every line and every column. -/

namespace EditorAssist.Document

open Text Source

variable {shown word : List Char} {start stop column : Nat}

/-! ### Walks -/

/-- The character at a place, counted from the end of the line if the place is negative. -/
def charAt (shown : List Char) (place : Int) : Except Missing Char :=
  let index := if place < 0 then shown.length + place else place
  if index < 0 then .error (.ofBack place.natAbs .character)
  else
    match shown[index.toNat]? with
    | some c => .ok c
    | none => .error .character

/-- Goes to the next place if a name character stands at the one that is looked at. -/
def stepOver (shown : List Char) (looked next : Int) : Except Missing (Option Int) :=
  (charAt shown looked).map fun c => if isNameChar c then some next else none

/-- One step to the left.  There is none from the start of the line, nor from a negative place. -/
def stepBack (shown : List Char) (place : Int) : Except Missing (Option Int) :=
  if 0 < place then stepOver shown (place - 1) (place - 1) else .ok none

/-- One step to the right.  There is none from the end of the line. -/
def stepOn (shown : List Char) (place : Int) : Except Missing (Option Int) :=
  if place < shown.length then stepOver shown place (place + 1) else .ok none

/-- The walk from a place ends at another place, or with a place that cannot be read. -/
inductive Walk (step : Int → Except Missing (Option Int)) : Int → Except Missing Int → Prop
  | halts {place : Int} (h : step place = .ok none) : Walk step place (.ok place)
  | fails {place : Int} {e : Missing} (h : step place = .error e) : Walk step place (.error e)
  | goes {place next : Int} {ending : Except Missing Int} (h : step place = .ok (some next))
      (rest : Walk step next ending) : Walk step place ending

/-- A walk ends in one way only. -/
theorem Walk.unique {step : Int → Except Missing (Option Int)} {place : Int}
    {ending ending' : Except Missing Int} (h : Walk step place ending)
    (h' : Walk step place ending') : ending' = ending := by
  induction h with
  | halts h =>
      cases h' with
      | halts => rfl
      | fails h' => cases h.symm.trans h'
      | goes h' => cases h.symm.trans h'
  | fails h =>
      cases h' with
      | halts h' => cases h.symm.trans h'
      | fails h' => rw [Except.error.inj (h.symm.trans h')]
      | goes h' => cases h.symm.trans h'
  | goes h _ ih =>
      cases h' with
      | halts h' => cases h.symm.trans h'
      | fails h' => cases h.symm.trans h'
      | goes h' rest =>
          obtain rfl := Option.some.inj (Except.ok.inj (h.symm.trans h'))
          exact ih rest

/-- A walk that meets the characters of a text one after the other stops where its first run of name
characters does. -/
theorem walk_takeWhile {step : Int → Except Missing (Option Int)} (place : Nat → Int)
    {first : Int} {text : List Char} (hfirst : first = place 0)
    (hend : step (place text.length) = .ok none)
    (hmeets : ∀ (index : Nat) (c : Char), text[index]? = some c →
      step (place index) = .ok (if isNameChar c then some (place (index + 1)) else none)) :
    Walk step first (.ok (place (text.takeWhile isNameChar).length)) := by
  subst hfirst
  -- after a step the walk meets the rest of the text, from places that are one further on
  induction text generalizing place with
  | nil => exact .halts hend
  | cons c text ih =>
      have hmet := hmeets 0 c rfl
      by_cases hc : isNameChar c = true
      · rw [if_pos hc] at hmet
        rw [List.takeWhile_cons_of_pos hc]
        have hrest := ih (fun index => place (index + 1)) hend fun index d hd =>
          hmeets (index + 1) d hd
        exact .goes hmet hrest
      · rw [if_neg hc] at hmet
        rw [List.takeWhile_cons_of_neg hc]
        exact .halts hmet

theorem charAt_of_getElem? {index : Nat} {c : Char} {place : Int} (hc : shown[index]? = some c)
    (h : place = index ∨ place = index - shown.length) : charAt shown place = .ok c := by
  obtain ⟨hlt, -⟩ := List.getElem?_eq_some_iff.mp hc
  have hindex : (if place < 0 then shown.length + place else place) = index := by
    split <;> omega
  have hnonneg : ¬ (index : Int) < 0 := by omega
  simp only [charAt, hindex, if_neg hnonneg, Int.toNat_natCast, hc]

theorem charAt_of_lt {place : Int} (h : place < -shown.length) :
    charAt shown place = .error (.ofBack place.natAbs .character) := by
  have hneg : place < 0 := by omega
  have hindex : shown.length + place < 0 := by omega
  simp only [charAt, if_pos hneg, if_pos hindex]

theorem stepBack_of_getElem? {index : Nat} {c : Char} {place next : Int}
    (hc : shown[index]? = some c) (hplace : place = index + 1) (hnext : next = index) :
    stepBack shown place = .ok (if isNameChar c then some next else none) := by
  subst hplace hnext
  rw [stepBack, if_pos (by omega), stepOver, charAt_of_getElem? hc (.inl (by omega)),
    Int.add_sub_cancel]
  rfl

theorem stepOn_of_getElem? {index : Nat} {c : Char} {place next : Int} (hc : shown[index]? = some c)
    (hplace : place = index ∨ place = index - shown.length) (hnext : next = place + 1) :
    stepOn shown place = .ok (if isNameChar c then some next else none) := by
  subst hnext
  obtain ⟨hlt, -⟩ := List.getElem?_eq_some_iff.mp hc
  rw [stepOn, if_pos (by omega), stepOver, charAt_of_getElem? hc hplace]
  rfl

/-- The walk to the left passes the name characters right before the column. -/
theorem walk_stepBack (h : column ≤ shown.length) :
    Walk (stepBack shown) column (.ok (column - (runBefore shown column).length)) := by
  have hlength : (shown.take column).length = column := List.length_take_of_le h
  rw [runBefore, List.length_reverse]
  refine walk_takeWhile (fun index => (column : Int) - index) (by simp) ?_ ?_
  · rw [List.length_reverse, hlength, stepBack, if_neg (by omega)]
  · intro index c hc
    obtain ⟨hlt, -⟩ := List.getElem?_eq_some_iff.mp hc
    rw [List.length_reverse, hlength] at hlt
    rw [List.getElem?_reverse (by omega), hlength, List.getElem?_take_of_lt (by omega)] at hc
    exact stepBack_of_getElem? hc (by omega) (by omega)

/-- The walk to the right passes the name characters right after the column. -/
theorem walk_stepOn (h : column ≤ shown.length) :
    Walk (stepOn shown) column (.ok (column + (runAfter shown column).length)) := by
  refine walk_takeWhile (fun index => (column : Int) + index) (by simp) ?_ ?_
  · rw [List.length_drop, stepOn, if_neg (by omega)]
  · intro index c hc
    rw [List.getElem?_drop] at hc
    exact stepOn_of_getElem? hc (.inl (by omega)) (by omega)

/-- The name characters that follow a place when the line begins again after its end. -/
def runThrough (shown : List Char) (place : Nat) : List Char :=
  (shown.drop place ++ shown).takeWhile isNameChar

/-- The walk to the right from a column counted from the end goes on through the start. -/
theorem walk_stepOn_through {place : Nat} (h : place ≤ shown.length) :
    Walk (stepOn shown) (place - shown.length)
      (.ok (place - shown.length + (runThrough shown place).length)) := by
  have hlength : (shown.drop place).length = shown.length - place := List.length_drop
  refine walk_takeWhile (fun index => (place : Int) - shown.length + index) (by simp) ?_ ?_
  · rw [List.length_append, hlength, stepOn, if_neg (by omega)]
  · intro index c hc
    by_cases hlt : place + index < shown.length
    · rw [List.getElem?_append_left (by omega), List.getElem?_drop] at hc
      exact stepOn_of_getElem? hc (.inr (by omega)) (by omega)
    · rw [List.getElem?_append_right (by omega), hlength] at hc
      exact stepOn_of_getElem? hc (.inl (by omega)) (by omega)

/-! ### What stands between the ends -/

/-- What two walks find that end at `start` and at `stop`: the part of the line between them, unless
they end where they started. -/
def foundBetween (shown : List Char) (start stop : Int) : Option Word :=
  if start = stop then none else some ⟨String.ofList (between shown start stop), start, stop⟩

theorem foundBetween_self (shown : List Char) (place : Int) :
    foundBetween shown place place = none :=
  if_pos rfl

theorem foundBetween_of_lt {start stop : Int} (h : start < stop) :
    foundBetween shown start stop = some ⟨String.ofList (between shown start stop), start, stop⟩ :=
  if_neg (by omega)

theorem clamp_natCast (length place : Nat) : clamp length place = min place length := by
  rw [clamp, if_neg (by omega), Int.toNat_natCast]

theorem clamp_of_neg {length : Nat} {place : Int} (h : place < 0) :
    clamp length place = (length + place).toNat := by
  rw [clamp, if_pos h]

theorem between_natCast (h : start ≤ shown.length) :
    between shown start stop = (shown.take stop).drop start := by
  rw [between, clamp_natCast, clamp_natCast, Nat.min_eq_left h, ← List.take_eq_take_min]

theorem IsWordAt.drop_take (h : IsWordAt shown word start stop) :
    (shown.take stop).drop start = word := by
  have hlength : (shown.take start).length = start :=
    List.length_take_of_le (h.start_lt_stop.le.trans h.stop_le_length)
  rw [h.take_stop]
  exact List.drop_left' hlength

theorem wordFromStart_of_walks (h : column ≤ shown.length) :
    wordFromStart shown column =
      foundBetween shown (column - (runBefore shown column).length)
        (column + (runAfter shown column).length) := by
  have hle := length_runBefore_le shown column
  rw [wordFromStart_of_le h]
  by_cases hruns : runBefore shown column = [] ∧ runAfter shown column = []
  · rw [if_pos hruns, hruns.1, hruns.2, List.length_nil, Int.natCast_zero, Int.sub_zero,
      Int.add_zero, foundBetween_self]
  · have hword := isWordAt_runs h hruns
    have hlt := hword.start_lt_stop
    rw [if_neg hruns, foundBetween_of_lt (by omega), ← Int.ofNat_sub hle, ← Int.natCast_add,
      between_natCast (by omega), hword.drop_take]

/-- A column counted from the end is where the word starts, so only the walk to the right moves. -/
theorem wordFromEnd_of_le {back : Nat} (h : back ≤ shown.length) :
    wordFromEnd shown back =
      .ok (foundBetween shown (-back)
        (-back + (runThrough shown (shown.length - back)).length)) := by
  rw [wordFromEnd, if_neg (by omega)]
  by_cases hrun : runThrough shown (shown.length - back) = []
  · rw [hrun, List.length_nil, Int.natCast_zero, Int.add_zero, foundBetween_self]
    exact if_pos hrun
  · have hpos := List.length_pos_iff.mpr hrun
    rw [foundBetween_of_lt (by omega)]
    exact if_neg hrun

theorem wordAt_of_place {place : Nat} (h : place < shown.length) :
    wordAt shown (place - shown.length) =
      .ok (foundBetween shown (place - shown.length)
        (place - shown.length + (runThrough shown place).length)) := by
  obtain ⟨back, hback⟩ := Nat.exists_eq_add_of_lt h
  have hcolumn : (place : Int) - shown.length = -(back + 1 : Nat) := by omega
  have hplace : shown.length - (back + 1) = place := by omega
  have hword : wordFromEnd shown (back + 1) = _ := wordFromEnd_of_le (by omega)
  rw [hplace] at hword
  rw [hcolumn]
  exact hword

theorem wordAt_of_lt {shown : List Char} {column : Int} (h : column < -shown.length) :
    wordAt shown column = .error (.ofBack column.natAbs .character) := by
  cases column with
  | ofNat column => exact absurd h (by simp)
  | negSucc back => exact if_pos (by omega)

/-- The word at a column is what stands between the ends of the walks that start there. -/
theorem wordAt_of_walks {shown : List Char} {column : Int} (h : column ≤ shown.length) :
    ∃ (start : Int) (ending : Except Missing Int),
      Walk (stepBack shown) column (.ok start) ∧ Walk (stepOn shown) column ending ∧
        wordAt shown column = ending.map (foundBetween shown start) := by
  cases column with
  | ofNat column =>
      have hle : column ≤ shown.length := Int.ofNat_le.mp h
      refine ⟨_, _, walk_stepBack hle, walk_stepOn hle, ?_⟩
      rw [wordAt, wordFromStart_of_walks hle]
      rfl
  | negSucc back =>
      have hhalts : Walk (stepBack shown) (.negSucc back) (.ok (.negSucc back)) := .halts rfl
      by_cases hle : back + 1 ≤ shown.length
      · have hcolumn : Int.negSucc back = (shown.length - (back + 1) : Nat) - shown.length := by
          omega
        rw [hcolumn] at hhalts ⊢
        exact ⟨_, _, hhalts, walk_stepOn_through (by omega), wordAt_of_place (by omega)⟩
      · have hlt : Int.negSucc back < -shown.length := by omega
        have hfails : stepOn shown (.negSucc back) = .error (.ofBack (back + 1) .character) := by
          rw [stepOn, if_pos (by omega), stepOver, charAt_of_lt hlt]
          rfl
        exact ⟨_, _, hhalts, .fails hfails, wordAt_of_lt hlt⟩

/-! ### Columns counted from the start -/

/-- The word lies between two columns of the line, on both sides of the given one, and neither the
character before it nor the one after it is a name character. -/
structure Surrounds (shown : List Char) (column : Nat) (word : List Char) (start stop : Nat) :
    Prop where
  start_le : start ≤ column
  le_stop : column ≤ stop
  stop_le_length : stop ≤ shown.length
  word_eq : word = (shown.take stop).drop start
  names : ∀ c ∈ word, isNameChar c = true
  before : ∀ index c, index + 1 = start → shown[index]? = some c → isNameChar c = false
  after : ∀ c, shown[stop]? = some c → isNameChar c = false

theorem IsWordAt.surrounds (h : IsWordAt shown word start stop) (hlow : start ≤ column)
    (hhigh : column ≤ stop) : Surrounds shown column word start stop := by
  have hword := h.drop_take
  have hle := h.stop_le_length
  obtain ⟨-, hnames, lead, rest, rfl, rfl, rfl, hlead, hrest⟩ := h
  refine ⟨hlow, hhigh, hle, hword.symm, hnames, ?_, ?_⟩
  · intro index c hindex hc
    refine hlead c ?_
    rw [List.getElem?_append_left (by omega)] at hc
    rw [List.getLast?_eq_getElem?, ← hindex]
    exact hc
  · intro c hc
    refine hrest c ?_
    rw [← List.append_assoc, ← List.length_append, List.getElem?_append_right (by omega),
      Nat.sub_self] at hc
    rw [Option.mem_def, List.head?_eq_getElem?]
    exact hc

theorem Surrounds.isWordAt (h : Surrounds shown column word start stop)
    (htouched : ¬ Untouched shown column) : IsWordAt shown word start stop := by
  have hlow := h.start_le
  have hhigh := h.le_stop
  have hle := h.stop_le_length
  have hlength : word.length = stop - start := by
    rw [h.word_eq, List.length_drop, List.length_take]
    omega
  refine ⟨?_, h.names, shown.take start, shown.drop stop, ?_, ?_, by omega, ?_, ?_⟩
  · -- an empty word would stand at the column itself, with no name character beside it
    rintro rfl
    rw [List.length_nil] at hlength
    obtain rfl : start = column := by omega
    obtain rfl : stop = start := by omega
    refine htouched fun index c hc hindex => ?_
    rcases hindex with hindex | rfl
    · exact h.before index c hindex hc
    · exact h.after c hc
  · have htake : shown.take start = (shown.take stop).take start := by
      rw [List.take_take, Nat.min_eq_left (by omega)]
    rw [h.word_eq, ← List.append_assoc, htake, List.take_append_drop, List.take_append_drop]
  · rw [List.length_take]
    omega
  · intro c hc
    cases start with
    | zero => cases hc
    | succ index =>
        rw [Option.mem_def, List.getLast?_eq_getElem?, List.length_take,
          Nat.min_eq_left (by omega), Nat.add_sub_cancel,
          List.getElem?_take_of_lt (by omega)] at hc
        exact h.before index c rfl hc
  · rw [Stops, List.head?_drop]
    exact h.after

/-- At a column that a name character touches there is one word, which surrounds the column. -/
theorem wordAt_eq_some_iff_surrounds (htouched : ¬ Untouched shown column) :
    wordAt shown column = .ok (some ⟨String.ofList word, start, stop⟩) ↔
      Surrounds shown column word start stop := by
  rw [Cursor.wordAt_eq_some_iff]
  constructor
  · rintro ⟨hword, hlow, hhigh⟩
    exact hword.surrounds hlow hhigh
  · intro h
    exact ⟨h.isWordAt htouched, h.start_le, h.le_stop⟩

theorem wordAt_eq_none_iff :
    wordAt shown column = .ok none ↔ shown.length < column ∨ Untouched shown column := by
  have hcolumn : wordAt shown column = .ok (wordFromStart shown column) := rfl
  rw [hcolumn, Except.ok.injEq, wordFromStart_eq_none_iff]

/-- Where a name character touches the column, there is a word, and all its columns have it. -/
theorem exists_wordAt (hle : column ≤ shown.length) (htouched : ¬ Untouched shown column) :
    ∃ word start stop, Surrounds shown column word start stop ∧
      ∀ other : Nat, start ≤ other → other ≤ stop →
        wordAt shown other = .ok (some ⟨String.ofList word, start, stop⟩) := by
  cases hfound : wordFromStart shown column with
  | none =>
      rcases wordFromStart_eq_none_iff.mp hfound with hlt | huntouched
      · exact absurd hlt (by omega)
      · exact absurd huntouched htouched
  | some w =>
      obtain ⟨word, start, stop, hword, hlow, hhigh, -⟩ := wordFromStart_eq_some_iff.mp hfound
      refine ⟨word, start, stop, hword.surrounds hlow hhigh, fun other hlow' hhigh' => ?_⟩
      exact Cursor.wordAt_eq_some_iff.mpr ⟨hword, hlow', hhigh'⟩

/-! ### Columns counted from the end -/

/-- The word that begins at a place of the line, for a column counted from the end.  It stops before
the first character that is no name character.  Without such a character it stops where the first
run of the line does, so that nothing lies between unless the whole line is one run. -/
def wordThrough (shown : List Char) (place : Nat) : Word :=
  let start : Int := place - shown.length
  match (shown.drop place).findIdx? fun c => !isNameChar c with
  | some offset => ⟨String.ofList ((shown.drop place).take offset), start, start + offset⟩
  | none =>
    ⟨if shown.all isNameChar then String.ofList (shown.drop place) else "", start,
      (shown.takeWhile isNameChar).length⟩

section through

variable {place : Nat}

theorem runThrough_eq_nil_iff {c : Char} (hc : shown[place]? = some c) :
    runThrough shown place = [] ↔ isNameChar c = false := by
  obtain ⟨hlt, rfl⟩ := List.getElem?_eq_some_iff.mp hc
  rw [runThrough, List.drop_eq_getElem_cons hlt, List.cons_append]
  cases hname : isNameChar shown[place] with
  | false => simp [hname]
  | true => simp [hname]

theorem runThrough_of_some {offset : Nat}
    (hother : ((shown.drop place).findIdx? fun c => !isNameChar c) = some offset) :
    runThrough shown place = (shown.drop place).take offset ∧ place + offset < shown.length := by
  obtain ⟨hlt, hindex⟩ := List.findIdx?_eq_some_iff_findIdx_eq.mp hother
  have htake : (shown.drop place).takeWhile isNameChar = (shown.drop place).take offset := by
    rw [List.takeWhile_eq_take_findIdx_not, hindex]
  have hlength : ((shown.drop place).take offset).length = offset := List.length_take_of_le hlt.le
  rw [List.length_drop] at hlt
  rw [runThrough, List.takeWhile_append, htake, hlength, List.length_drop, if_neg (by omega)]
  exact ⟨rfl, by omega⟩

theorem runThrough_of_none
    (hother : ((shown.drop place).findIdx? fun c => !isNameChar c) = none) :
    runThrough shown place = shown.drop place ++ shown.takeWhile isNameChar := by
  rw [List.findIdx?_eq_none_iff] at hother
  refine List.takeWhile_append_of_pos fun c hc => ?_
  simpa using hother c hc

/-- If the line from a place on is a run, its first run reaches the place only if it is the whole
line. -/
theorem length_takeWhile_le (hrest : ∀ c ∈ shown.drop place, isNameChar c = true)
    (hall : shown.all isNameChar = false) : (shown.takeWhile isNameChar).length ≤ place := by
  by_contra hlong
  have hlead : ∀ c ∈ shown.take place, isNameChar c = true := by
    intro c hc
    have hleads : shown.take place <+: shown.takeWhile isNameChar :=
      List.prefix_of_prefix_length_le (List.take_prefix _ _) (List.takeWhile_prefix _)
        ((List.length_take_le _ _).trans (by omega))
    exact List.mem_takeWhile_imp (hleads.subset hc)
  have hwhole : shown.all isNameChar = true := by
    rw [← List.take_append_drop place shown, List.all_append, List.all_eq_true.mpr hlead,
      List.all_eq_true.mpr hrest]
    rfl
  rw [hall] at hwhole
  cases hwhole

theorem between_of_some {offset : Nat} (h : place + offset < shown.length) :
    between shown (place - shown.length) (place - shown.length + offset) =
      (shown.drop place).take offset := by
  have hstart : clamp shown.length (place - shown.length) = place := by
    rw [clamp_of_neg (by omega)]
    omega
  have hstop : clamp shown.length (place - shown.length + offset) = place + offset := by
    rw [clamp_of_neg (by omega)]
    omega
  rw [between, hstart, hstop, List.drop_take, Nat.add_sub_cancel_left]

theorem between_of_none (h : place < shown.length)
    (hrest : ∀ c ∈ shown.drop place, isNameChar c = true) :
    between shown (place - shown.length) (shown.takeWhile isNameChar).length =
      if shown.all isNameChar then shown.drop place else [] := by
  have hstart : clamp shown.length (place - shown.length) = place := by
    rw [clamp_of_neg (by omega)]
    omega
  rw [between, hstart, clamp_natCast]
  cases hall : shown.all isNameChar with
  | true =>
      rw [List.takeWhile_eq_self_iff.mpr (List.all_eq_true.mp hall), Nat.min_self, List.take_length]
      rfl
  | false =>
      have hle := length_takeWhile_le hrest hall
      rw [List.drop_eq_nil_iff.mpr (by rw [List.length_take]; omega)]
      rfl

theorem wordAt_eq_wordThrough {c : Char} (hc : shown[place]? = some c)
    (hname : isNameChar c = true) :
    wordAt shown (place - shown.length) = .ok (some (wordThrough shown place)) := by
  have hne : runThrough shown place ≠ [] := by
    rw [Ne, runThrough_eq_nil_iff hc, hname]
    decide
  have hpos := List.length_pos_iff.mpr hne
  obtain ⟨hlt, -⟩ := List.getElem?_eq_some_iff.mp hc
  rw [wordAt_of_place hlt, foundBetween_of_lt (by omega), wordThrough]
  cases hother : (shown.drop place).findIdx? fun c => !isNameChar c with
  | some offset =>
      obtain ⟨hrun, hinside⟩ := runThrough_of_some hother
      have hlength : ((shown.drop place).take offset).length = offset := by
        rw [List.length_take, List.length_drop]
        omega
      rw [hrun, hlength, between_of_some hinside]
  | none =>
      have hrest : ∀ c ∈ shown.drop place, isNameChar c = true := by
        simpa using List.findIdx?_eq_none_iff.mp hother
      have hstop : (place : Int) - shown.length + (runThrough shown place).length =
          (shown.takeWhile isNameChar).length := by
        rw [runThrough_of_none hother, List.length_append, List.length_drop]
        omega
      rw [hstop, between_of_none hlt hrest]
      cases shown.all isNameChar <;> rfl

theorem wordAt_place_eq_none_iff {c : Char} (hc : shown[place]? = some c) :
    wordAt shown (place - shown.length) = .ok none ↔ isNameChar c = false := by
  cases hname : isNameChar c with
  | true => simp [wordAt_eq_wordThrough hc hname]
  | false =>
      obtain ⟨hlt, -⟩ := List.getElem?_eq_some_iff.mp hc
      rw [wordAt_of_place hlt, (runThrough_eq_nil_iff hc).mpr hname, List.length_nil,
        Int.natCast_zero, Int.add_zero, foundBetween_self]
      simp

end through

/-- Only a column that is counted back beyond the first character cannot be read. -/
theorem wordAt_eq_error_iff {shown : List Char} {column : Int} {e : Missing} :
    wordAt shown column = .error e ↔
      column < -shown.length ∧ e = .ofBack column.natAbs .character := by
  constructor
  · intro h
    by_cases hlt : column < -shown.length
    · exact ⟨hlt, Except.error.inj (h.symm.trans (wordAt_of_lt hlt))⟩
    · cases column with
      | ofNat column => cases h
      | negSucc back =>
          have hcolumn : Int.negSucc back = (shown.length - (back + 1) : Nat) - shown.length := by
            omega
          rw [hcolumn, wordAt_of_place (by omega)] at h
          cases h
  · rintro ⟨hlt, rfl⟩
    exact wordAt_of_lt hlt

/-- **The word at a column, for every line and every column.**  Past the end of the line there is no
word.  At a column counted from the start there is none exactly where no name character touches it;
everywhere else one word surrounds the column, and all columns of that word have it.  A column
counted back beyond the first character cannot be read, and every other column can.  At a column
counted from the end there is no word exactly where no name character stands, and everywhere else it
is the one that goes on through the end of the line.  Both walks end, each in one way, and the word
is what they find. -/
theorem wordAt_exact (shown : List Char) (column : Int) :
    (shown.length < column → wordAt shown column = .ok none) ∧
    (∀ place : Nat, column = place → place ≤ shown.length →
      (wordAt shown column = .ok none ↔ Untouched shown place) ∧
      (¬ Untouched shown place → ∃ (word : List Char) (start stop : Nat),
        (∀ word' start' stop', Surrounds shown place word' start' stop' ↔
          word' = word ∧ start' = start ∧ stop' = stop) ∧
        wordAt shown column = .ok (some ⟨String.ofList word, start, stop⟩) ∧
        ∀ other : Nat, start ≤ other → other ≤ stop → wordAt shown other = wordAt shown column)) ∧
    (∀ e, wordAt shown column = .error e ↔
      column < -shown.length ∧ e = .ofBack column.natAbs .character) ∧
    (∀ (place : Nat) (c : Char), column = place - shown.length → shown[place]? = some c →
      (wordAt shown column = .ok none ↔ isNameChar c = false) ∧
      (isNameChar c = true → wordAt shown column = .ok (some (wordThrough shown place)))) ∧
    (column ≤ shown.length → ∃ (start : Int) (ending : Except Missing Int),
      (∀ e, Walk (stepBack shown) column e ↔ e = .ok start) ∧
      (∀ e, Walk (stepOn shown) column e ↔ e = ending) ∧
      wordAt shown column = ending.map (foundBetween shown start)) := by
  refine ⟨?_, ?_, fun e => wordAt_eq_error_iff, ?_, ?_⟩
  · intro hlt
    obtain ⟨place, rfl⟩ := Int.eq_ofNat_of_zero_le (by omega : 0 ≤ column)
    exact wordAt_eq_none_iff.mpr (.inl (by omega))
  · rintro place rfl hle
    have hnone : wordAt shown place = .ok none ↔ Untouched shown place := by
      rw [wordAt_eq_none_iff]
      exact or_iff_right (by omega)
    refine ⟨hnone, fun htouched => ?_⟩
    obtain ⟨word, start, stop, hsurrounds, hsame⟩ := exists_wordAt hle htouched
    have hword := hsame place hsurrounds.start_le hsurrounds.le_stop
    refine ⟨word, start, stop, ?_, hword, fun other hlow hhigh => ?_⟩
    · intro word' start' stop'
      rw [← wordAt_eq_some_iff_surrounds htouched, hword, Except.ok.injEq, Option.some.injEq,
        Word.mk.injEq, String.ofList_inj, Int.natCast_inj, Int.natCast_inj]
      simp only [eq_comm]
    · rw [hword, hsame other hlow hhigh]
  · rintro place c rfl hc
    exact ⟨wordAt_place_eq_none_iff hc, wordAt_eq_wordThrough hc⟩
  · intro hle
    obtain ⟨start, ending, hback, hon, hfound⟩ := wordAt_of_walks hle
    refine ⟨start, ending, fun e => ⟨hback.unique, ?_⟩, fun e => ⟨hon.unique, ?_⟩, hfound⟩
    · rintro rfl
      exact hback
    · rintro rfl
      exact hon

/-- The column after a word still has it.  From the last column of a line with two words, the walk
goes on through the first word and stops before the place where it started, so nothing lies between;
in a line of one word it stops at the end. -/
theorem wordAt_exact_wrapped :
    wordAt "ab c".toList 2 = .ok (some ⟨"ab", 0, 2⟩) ∧
      wordAt "a b".toList (-1) = .ok (some ⟨"", -1, 1⟩) ∧
      wordAt "ab".toList (-1) = .ok (some ⟨"b", -1, 2⟩) ∧
      wordAt "ab".toList (-3) = .error .character := by
  obtain ⟨-, hstart, -⟩ := wordAt_exact "ab c".toList 2
  obtain ⟨-, -, -, htwo, -⟩ := wordAt_exact "a b".toList (-1)
  obtain ⟨-, -, -, hone, -⟩ := wordAt_exact "ab".toList (-1)
  obtain ⟨-, -, herror, -⟩ := wordAt_exact "ab".toList (-3)
  refine ⟨?_, ?_, ?_, ?_⟩
  · have htouched : ¬ Untouched "ab c".toList 2 := fun h =>
      absurd (h 1 'b' rfl (.inl rfl)) (by decide)
    have hword : Surrounds "ab c".toList 2 "ab".toList 0 2 :=
      ⟨by decide, by decide, by decide, by decide, List.all_eq_true.mp (by decide),
        by rintro index c ⟨⟩, by rintro c ⟨⟩; decide⟩
    obtain ⟨word, start, stop, hunique, hfound, -⟩ := (hstart 2 rfl (by decide)).2 htouched
    obtain ⟨rfl, rfl, rfl⟩ := (hunique _ _ _).mp hword
    exact hfound
  · exact (htwo 2 'b' (by decide) rfl).2 (by decide)
  · exact (hone 1 'b' (by decide) rfl).2 (by decide)
  · exact (herror _).mpr ⟨by decide, by decide⟩

end EditorAssist.Document
