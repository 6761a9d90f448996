import Mathlib.Data.Rat.Floor
import Mathlib.Data.String.Basic
import EditorAssist.Log.Record
import EditorAssist.Proofs.Calendar

/-! # Log lines in the order of time

The stamp of a log line writes the numbers of a date and time one after the other, from the year
down to the milliseconds, each filled up with zeros to a width of its own.  Numbers that fit into
such a layout are compared as their text is (`written_lt_written_iff`), and the numbers of later
moments are greater (`DateTime.fields_ofSeconds_lt_iff`), so stamps are in the order of time.

* `paddedNat_lt_paddedNat_iff`: padded numbers are compared as numbers;
* `written_lt_written_iff`, `length_written`: numbers in a layout;
* `stamps_in_order`: stamps are compared as moments, and colours change nothing else in a line. -/

namespace EditorAssist

namespace Text

/-! ### Padded numbers -/

/-- Of two lists with heads of one length, the heads are compared first. -/
theorem append_lt_append_iff {α : Type} [LT α] {a b : List α} (h : a.length = b.length)
    (c d : List α) : a ++ c < b ++ d ↔ a < b ∨ a = b ∧ c < d := by
  induction a generalizing b with
  | nil =>
      obtain rfl : b = [] := List.eq_nil_of_length_eq_zero h.symm
      simp
  | cons x a ih =>
      cases b with
      | nil => simp at h
      | cons y b =>
          simp only [List.cons_append, List.cons_lt_cons_iff, List.cons.injEq,
            ih (Nat.succ.inj h)]
          tauto

/-- What is compared alike is equal alike. -/
theorem eq_iff_eq_of_lt_iff_lt {α β : Type} [LinearOrder α] [LinearOrder β] {a b : α} {c d : β}
    (h : a < b ↔ c < d) (h' : b < a ↔ d < c) : a = b ↔ c = d := by
  simp only [le_antisymm_iff, ← not_lt, h, h']

theorem digitChar_lt_digitChar_iff {a b : Nat} (ha : a < 10) (hb : b < 10) :
    a.digitChar < b.digitChar ↔ a < b := by
  rw [Char.lt_def, UInt32.lt_iff_toNat_lt]
  show a.digitChar.toNat < b.digitChar.toNat ↔ a < b
  rw [Nat.toNat_digitChar_of_lt_ten ha, Nat.toNat_digitChar_of_lt_ten hb]
  omega

theorem length_paddedNat {width n : Nat} (hwidth : 0 < width) (h : n < 10 ^ width) :
    (paddedNat width n).length = width := by
  have hdigits : (Nat.toDigits 10 n).length ≤ width :=
    (Nat.length_toDigits_le_iff (by omega) hwidth).mpr h
  simp only [paddedNat, List.length_append, List.length_replicate]
  omega

/-- The last digit of a padded number stands behind the padded rest of it. -/
theorem paddedNat_add_one {width : Nat} (hwidth : 0 < width) (n : Nat) :
    paddedNat (width + 1) n = paddedNat width (n / 10) ++ [(n % 10).digitChar] := by
  unfold paddedNat
  rw [Nat.toDigits_eq_if (by omega : 1 < 10)]
  by_cases hn : n < 10
  · have hrest : n / 10 = 0 := by omega
    obtain ⟨w, rfl⟩ : ∃ w, width = w + 1 := ⟨width - 1, by omega⟩
    rw [if_pos hn, hrest, Nat.mod_eq_of_lt hn]
    simp [List.replicate_succ']
  · rw [if_neg hn]
    simp

/-- **Numbers that are padded to one width are compared as their text is.** -/
theorem paddedNat_lt_paddedNat_iff {width m n : Nat} (hwidth : 0 < width) (hm : m < 10 ^ width)
    (hn : n < 10 ^ width) : paddedNat width m < paddedNat width n ↔ m < n := by
  induction width, hwidth using Nat.le_induction generalizing m n with
  | base =>
      have hone : ∀ {k}, k < 10 ^ (0 + 1) → paddedNat (0 + 1) k = [k.digitChar] := by
        intro k hk
        rw [paddedNat, Nat.toDigits_of_lt_base (by omega)]
        rfl
      rw [hone hm, hone hn, List.cons_lt_cons_iff, digitChar_lt_digitChar_iff (by omega) (by omega)]
      simp
  | succ width hwidth ih =>
      rw [Nat.pow_succ] at hm hn
      have hm' : m / 10 < 10 ^ width := by omega
      have hn' : n / 10 < 10 ^ width := by omega
      have heq : paddedNat width (m / 10) = paddedNat width (n / 10) ↔ m / 10 = n / 10 :=
        eq_iff_eq_of_lt_iff_lt (ih hm' hn') (ih hn' hm')
      have hlength : (paddedNat width (m / 10)).length = (paddedNat width (n / 10)).length := by
        rw [length_paddedNat hwidth hm', length_paddedNat hwidth hn']
      rw [paddedNat_add_one hwidth, paddedNat_add_one hwidth, append_lt_append_iff hlength,
        ih hm' hn', heq, List.cons_lt_cons_iff,
        digitChar_lt_digitChar_iff (by omega) (by omega)]
      simp only [List.not_lt_nil, and_false, or_false]
      omega

/-! ### Numbers in a layout -/

/-- Places for numbers: the width of each, and the text after it. -/
abbrev Layout := List (Nat × String)

/-- The numbers in their places, filled up with zeros. -/
def written : Layout → List Int → List Char
  | (width, separator) :: layout, n :: numbers =>
    (padded width n).toList ++ (separator.toList ++ written layout numbers)
  | _, _ => []

/-- The numbers have no sign and are not too long for their places. -/
abbrev Fits (layout : Layout) (numbers : List Int) : Prop :=
  List.Forall₂ (fun place n => 0 < place.1 ∧ 0 ≤ n ∧ n < 10 ^ place.1) layout numbers

theorem toList_padded {n : Int} (h : 0 ≤ n) (width : Nat) :
    (padded width n).toList = paddedNat width n.toNat := by
  obtain ⟨k, rfl⟩ := Int.eq_ofNat_of_zero_le h
  exact String.toList_ofList

theorem toNat_lt_pow {n : Int} {width : Nat} (h : 0 ≤ n ∧ n < 10 ^ width) :
    n.toNat < 10 ^ width := by
  zify
  omega

theorem padded_lt_padded_iff {width : Nat} {m n : Int} (hwidth : 0 < width)
    (hm : 0 ≤ m ∧ m < 10 ^ width) (hn : 0 ≤ n ∧ n < 10 ^ width) :
    (padded width m).toList < (padded width n).toList ↔ m < n := by
  rw [toList_padded hm.1, toList_padded hn.1,
    paddedNat_lt_paddedNat_iff hwidth (toNat_lt_pow hm) (toNat_lt_pow hn)]
  omega

theorem length_padded {width : Nat} {n : Int} (hwidth : 0 < width) (hn : 0 ≤ n ∧ n < 10 ^ width) :
    (padded width n).toList.length = width := by
  rw [toList_padded hn.1, length_paddedNat hwidth (toNat_lt_pow hn)]

/-- All numbers that fit into a layout are written with the same length. -/
theorem length_written {layout : Layout} {numbers : List Int} (h : Fits layout numbers) :
    (written layout numbers).length =
      (layout.map fun place => place.1 + place.2.length).sum := by
  induction h with
  | nil => rfl
  | cons hplace _ ih =>
      simp only [written, List.length_append, length_padded hplace.1 hplace.2, ih, List.map_cons,
        List.sum_cons, String.length_toList]
      omega

/-- **Numbers that fit into a layout are compared as their text is,** the first number first. -/
theorem written_lt_written_iff {layout : Layout} {a b : List Int} (ha : Fits layout a)
    (hb : Fits layout b) : written layout a < written layout b ↔ a < b := by
  induction ha generalizing b with
  | nil =>
      cases hb
      simp [written]
  | @cons place m layout a hplace _ ih =>
      cases hb with
      | @cons _ n _ b hplace' hb =>
          obtain ⟨hwidth, hm⟩ := hplace
          obtain ⟨-, hn⟩ := hplace'
          have hlength : (padded place.1 m).toList.length = (padded place.1 n).toList.length := by
            rw [length_padded hwidth hm, length_padded hwidth hn]
          have hfirst := padded_lt_padded_iff hwidth hm hn
          have hsame := eq_iff_eq_of_lt_iff_lt hfirst (padded_lt_padded_iff hwidth hn hm)
          -- after equal numbers comes the same separator, which decides nothing
          have hrest : place.2.toList ++ written layout a < place.2.toList ++ written layout b ↔
              a < b := by
            rw [append_lt_append_iff rfl, ih hb]
            simp
          simp only [written]
          rw [append_lt_append_iff hlength, hfirst, hsame, hrest, List.cons_lt_cons_iff]

end Text

namespace Log

open Text

/-! ### Stamps -/

/-- The places of the numbers in a stamp. -/
def stampLayout : Layout :=
  [(4, "-"), (2, "-"), (2, " "), (2, ":"), (2, ":"), (2, "."), (3, "")]

namespace Moment

/-- The numbers of a stamp. -/
def fields (m : Moment) : List Int := (DateTime.ofSeconds m.seconds).fields ++ [⌊m.milliseconds⌋]

/-- The numbers of a stamp in their layout. -/
def stampText (m : Moment) : String := String.ofList (written stampLayout m.fields)

/-- The year has one to four digits, and there are less than a thousand milliseconds. -/
structure IsCommon (m : Moment) : Prop where
  year : 1 ≤ (DateTime.ofSeconds m.seconds).year ∧ (DateTime.ofSeconds m.seconds).year ≤ 9999
  milliseconds : 0 ≤ m.milliseconds ∧ m.milliseconds < 1000

/-- The moment is earlier, as far as the fraction of its milliseconds does not matter. -/
def Precedes (m m' : Moment) : Prop :=
  m.seconds < m'.seconds ∨ m.seconds = m'.seconds ∧ ⌊m.milliseconds⌋ < ⌊m'.milliseconds⌋

variable {m m' : Moment}

theorem wholeMilliseconds_eq_floor (h : 0 ≤ m.milliseconds) :
    m.wholeMilliseconds = ⌊m.milliseconds⌋ := by
  unfold wholeMilliseconds
  rw [Int.tdiv_eq_ediv_of_nonneg (Rat.num_nonneg.mpr h), Rat.floor_def']

theorem IsCommon.floor_range (h : m.IsCommon) :
    0 ≤ ⌊m.milliseconds⌋ ∧ ⌊m.milliseconds⌋ < 1000 := by
  obtain ⟨-, hlow, hhigh⟩ := h
  refine ⟨Int.floor_nonneg.mpr hlow, Int.floor_lt.mpr ?_⟩
  exact_mod_cast hhigh

theorem IsCommon.fits (h : m.IsCommon) : Fits stampLayout m.fields := by
  have hms := h.floor_range
  obtain ⟨⟨hyear, hyear'⟩, -⟩ := h
  obtain ⟨hmonth, hday, hhour, hminute, hsecond⟩ := DateTime.isValid_ofSeconds m.seconds
  have hlength := DateTime.monthLength_le (DateTime.ofSeconds m.seconds).year
    (DateTime.ofSeconds m.seconds).month
  simp only [Fits, stampLayout, fields, DateTime.fields, List.cons_append, List.nil_append,
    List.forall₂_cons, List.Forall₂.nil, and_true]
  omega

/-- A stamp is written in its layout. -/
theorem text_eq_written (t : DateTime) (milliseconds : Int) :
    t.text ++ "." ++ padded 3 milliseconds =
      String.ofList (written stampLayout (t.fields ++ [milliseconds])) := by
  apply String.toList_injective
  simp [DateTime.text, written, stampLayout, DateTime.fields]

/-- In these years, no moment is too large to be told. -/
theorem IsCommon.dateTime (h : m.IsCommon) : m.dateTime = .ok (DateTime.ofSeconds m.seconds) := by
  obtain ⟨⟨hyear, hyear'⟩, -⟩ := h
  -- the first seconds of the years zero and ten thousand
  have hlow : -62167219200 < m.seconds := by
    by_contra hle
    have hbefore := DateTime.year_le_of_le (not_lt.mp hle)
    have hzero : (DateTime.ofSeconds (-62167219200)).year = 0 := by decide
    omega
  have hhigh : m.seconds < 253402300800 := by
    by_contra hle
    have hafter := DateTime.year_le_of_le (not_lt.mp hle)
    have hlater : (DateTime.ofSeconds 253402300800).year = 10000 := by decide
    omega
  have hseconds : fitsSeconds m.seconds = true := by
    simp only [fitsSeconds, Bool.and_eq_true, decide_eq_true_eq]
    omega
  have hfits : fitsYear (DateTime.ofSeconds m.seconds).year = true := by
    simp only [fitsYear, Bool.and_eq_true, decide_eq_true_eq]
    omega
  simp [Moment.dateTime, hseconds, hfits]

/-- The stamp of such a moment holds its numbers. -/
theorem IsCommon.stamp (h : m.IsCommon) : m.stamp = .ok m.stampText := by
  rw [Moment.stamp, h.dateTime, wholeMilliseconds_eq_floor h.milliseconds.1]
  exact congrArg Except.ok (text_eq_written _ _)

theorem IsCommon.length_stampText (h : m.IsCommon) : m.stampText.length = 23 := by
  rw [stampText, String.length_ofList, length_written h.fits]
  rfl

theorem fields_lt_fields_iff : m.fields < m'.fields ↔ m.Precedes m' := by
  have hlength : (DateTime.ofSeconds m.seconds).fields.length =
      (DateTime.ofSeconds m'.seconds).fields.length := rfl
  have hsame : (DateTime.ofSeconds m.seconds).fields = (DateTime.ofSeconds m'.seconds).fields ↔
      m.seconds = m'.seconds :=
    eq_iff_eq_of_lt_iff_lt DateTime.fields_ofSeconds_lt_iff DateTime.fields_ofSeconds_lt_iff
  rw [fields, fields, append_lt_append_iff hlength, DateTime.fields_ofSeconds_lt_iff, hsame,
    List.cons_lt_cons_iff]
  simp [Precedes]

/-- **Stamps are in the order of time.** -/
theorem stampText_lt_iff (h : m.IsCommon) (h' : m'.IsCommon) :
    m.stampText < m'.stampText ↔ m.Precedes m' := by
  rw [stampText, stampText, String.lt_iff_toList_lt, String.toList_ofList, String.toList_ofList,
    written_lt_written_iff h.fits h'.fits, fields_lt_fields_iff]

theorem stampText_eq_iff (h : m.IsCommon) (h' : m'.IsCommon) :
    m.stampText = m'.stampText ↔
      m.seconds = m'.seconds ∧ ⌊m.milliseconds⌋ = ⌊m'.milliseconds⌋ := by
  rw [le_antisymm_iff, ← not_lt, ← not_lt, stampText_lt_iff h h', stampText_lt_iff h' h]
  unfold Precedes
  omega

end Moment

/-! ### Lines -/

namespace Record

variable {r : Record} {inColor : Bool} {line : String}

/-- The head of a line: in brackets, the first letter of the level, a stamp, and the part of the
program that wrote the record. -/
def HeadShows (r : Record) (head stamp : String) : Prop :=
  ∃ letter ∈ r.levelName.toList.head?,
    head = "[" ++ letter.toString ++ " " ++ stamp ++ " " ++ shortName r.name ++ "]"

/-- The line has the stamp in its brackets.  In colour, these stand between the colour of the level
and a reset. -/
def Shows (r : Record) (inColor : Bool) (line stamp : String) : Prop :=
  ∃ head, r.HeadShows head stamp ∧
    line = (if inColor then color r.levelName ++ head ++ reset else head) ++ r.tail

theorem head_eq_ok_iff {head : String} :
    r.head = .ok head ↔ ∃ stamp, r.moment.stamp = .ok stamp ∧ r.HeadShows head stamp := by
  unfold Record.head HeadShows
  cases r.levelName.toList with
  | nil => simp
  | cons letter letters =>
      cases r.moment.stamp with
      | error e => simp [Except.map]
      | ok stamp => simp [Except.map, eq_comm]

theorem line_eq_ok_iff :
    r.line inColor = .ok line ↔
      ∃ stamp, r.moment.stamp = .ok stamp ∧ r.Shows inColor line stamp := by
  unfold Record.line Shows
  constructor
  · intro h
    cases hhead : r.head with
    | error e =>
        rw [hhead] at h
        cases h
    | ok head =>
        rw [hhead] at h
        obtain ⟨stamp, hstamp, hshows⟩ := head_eq_ok_iff.mp hhead
        exact ⟨stamp, hstamp, head, hshows, (Except.ok.inj h).symm⟩
  · rintro ⟨stamp, hstamp, head, hshows, rfl⟩
    rw [head_eq_ok_iff.mpr ⟨stamp, hstamp, hshows⟩]
    rfl

/-- A line fails where its head does, in colour or not. -/
theorem line_eq_error_iff {error : Unwritable} :
    r.line inColor = .error error ↔ r.head = .error error := by
  unfold Record.line
  cases r.head with
  | error e => simp [Except.map]
  | ok head => simp [Except.map]

theorem head_of_levelName_empty (h : r.levelName = "") : r.head = .error .emptyLevelName := by
  rw [Record.head, h]
  rfl

/-- In years of at most four digits, only a record without a level name is refused. -/
theorem exists_line_iff (h : r.moment.IsCommon) :
    (∃ line, r.line inColor = .ok line) ↔ r.levelName ≠ "" := by
  constructor
  · rintro ⟨line, hline⟩ hempty
    rw [line_eq_error_iff.mpr (head_of_levelName_empty hempty)] at hline
    cases hline
  · intro hne
    have hletters : r.levelName.toList ≠ [] := by simpa using hne
    obtain ⟨letter, letters, hletter⟩ := List.exists_cons_of_ne_nil hletters
    exact ⟨_, line_eq_ok_iff.mpr ⟨_, h.stamp, _, ⟨letter, by simp [hletter], rfl⟩, rfl⟩⟩

end Record

/-- The colour of a level is one code for the terminal. -/
theorem exists_color_eq (levelName : String) :
    ∃ number : Nat, color levelName = "\x1b[" ++ toString number ++ "m" := by
  unfold color
  split
  · exact ⟨36, rfl⟩
  · exact ⟨32, rfl⟩
  · exact ⟨33, rfl⟩
  · exact ⟨31, rfl⟩
  · exact ⟨35, rfl⟩
  · exact ⟨0, rfl⟩

/-- **Stamps are in the order of time, and colours change nothing else.**  In years of one to four
digits, two lines have stamps of twenty-three characters in their brackets, and these are compared
as the seconds and then the whole milliseconds of the records; only a record without a level name is
refused there.  Any record fails in colour as it fails without, and if it does not, the line in
colour is the plain one with one code before its brackets and a reset right after them. -/
theorem stamps_in_order :
    (∀ (r r' : Record) (inColor inColor' : Bool) (line line' : String),
      r.moment.IsCommon → r'.moment.IsCommon →
      r.line inColor = .ok line → r'.line inColor' = .ok line' →
      ∃ stamp stamp', r.Shows inColor line stamp ∧ r'.Shows inColor' line' stamp' ∧
        stamp.length = 23 ∧ stamp'.length = 23 ∧
        (stamp < stamp' ↔ r.moment.Precedes r'.moment) ∧
        (stamp' < stamp ↔ r'.moment.Precedes r.moment) ∧
        (stamp = stamp' ↔ r.moment.seconds = r'.moment.seconds ∧
          ⌊r.moment.milliseconds⌋ = ⌊r'.moment.milliseconds⌋)) ∧
    (∀ (r : Record) (inColor : Bool), r.moment.IsCommon →
      ((∃ line, r.line inColor = .ok line) ↔ r.levelName ≠ "")) ∧
    ∀ r : Record,
      (∀ error, r.line true = .error error ↔ r.line false = .error error) ∧
      (r.levelName = "" → ∀ inColor, r.line inColor = .error .emptyLevelName) ∧
      (∃ number : Nat, color r.levelName = "\x1b[" ++ toString number ++ "m") ∧
      ∀ plain, r.line false = .ok plain →
        ∃ head stamp rest, r.HeadShows head stamp ∧ plain = head ++ rest ∧
          r.line true = .ok (color r.levelName ++ head ++ reset ++ rest) := by
  refine ⟨?_, fun r inColor h => Record.exists_line_iff h, ?_⟩
  · intro r r' inColor inColor' line line' hr hr' hline hline'
    obtain ⟨stamp, hstamp, hshows⟩ := Record.line_eq_ok_iff.mp hline
    obtain ⟨stamp', hstamp', hshows'⟩ := Record.line_eq_ok_iff.mp hline'
    obtain rfl := Except.ok.inj (hstamp.symm.trans hr.stamp)
    obtain rfl := Except.ok.inj (hstamp'.symm.trans hr'.stamp)
    exact ⟨_, _, hshows, hshows', hr.length_stampText, hr'.length_stampText,
      Moment.stampText_lt_iff hr hr', Moment.stampText_lt_iff hr' hr,
      Moment.stampText_eq_iff hr hr'⟩
  · intro r
    refine ⟨?_, ?_, exists_color_eq r.levelName, ?_⟩
    · intro error
      rw [Record.line_eq_error_iff, Record.line_eq_error_iff]
    · intro hempty inColor
      exact Record.line_eq_error_iff.mpr (Record.head_of_levelName_empty hempty)
    · intro plain hplain
      obtain ⟨stamp, hstamp, head, hshows, rfl⟩ := Record.line_eq_ok_iff.mp hplain
      exact ⟨head, stamp, r.tail, hshows, rfl,
        Record.line_eq_ok_iff.mpr ⟨stamp, hstamp, head, hshows, rfl⟩⟩

/-- The last millisecond before the leap day of a year that ends a century comes before the first
one of that day, whatever the colours and levels.  Without a level name, both kinds of line fail. -/
theorem stamps_in_order_leap_day :
    let r : Record := ⟨"mrya_lsp.server", "INFO", "Late.", ⟨951782399, 1999 / 2⟩, none⟩
    let r' : Record := ⟨"mrya_lsp", "Level 7", "Early.", ⟨951782400, 0⟩, some ⟨"KeyError", ""⟩⟩
    let line := "[I 2000-02-28 23:59:59.999 server] Late."
    let line' := "\x1b[0m[L 2000-02-29 00:00:00.000 MryaLSP]\x1b[0m Early.\nKeyError"
    (r.moment.IsCommon ∧ r'.moment.IsCommon ∧ r.line false = .ok line ∧ r'.line true = .ok line') ∧
    (∃ stamp stamp', r.Shows false line stamp ∧ r'.Shows true line' stamp' ∧
      stamp.length = 23 ∧ stamp'.length = 23 ∧ stamp < stamp') ∧
    (∃ shown, r.line true = .ok shown) ∧
    (∃ head stamp rest, r.HeadShows head stamp ∧ line = head ++ rest ∧
      r.line true = .ok ("\x1b[32m" ++ head ++ reset ++ rest)) ∧
    { r with levelName := "" }.line true = .error .emptyLevelName := by
  intro r r' line line'
  have hr : r.moment.IsCommon := ⟨by decide, by decide +kernel⟩
  have hr' : r'.moment.IsCommon := ⟨by decide, by decide +kernel⟩
  have hline : r.line false = .ok line := by decide +kernel
  have hline' : r'.line true = .ok line' := by decide +kernel
  obtain ⟨hordered, haccepted, hcolored⟩ := stamps_in_order
  obtain ⟨stamp, stamp', hshows, hshows', hlength, hlength', hlt, -⟩ :=
    hordered r r' false true line line' hr hr' hline hline'
  have hprecedes : r.moment.Precedes r'.moment := .inl (by decide)
  refine ⟨⟨hr, hr', hline, hline'⟩, ?_, (haccepted r true hr).mpr (by decide), ?_, ?_⟩
  · exact ⟨stamp, stamp', hshows, hshows', hlength, hlength', hlt.mpr hprecedes⟩
  · exact (hcolored r).2.2.2 line hline
  · exact (hcolored { r with levelName := "" }).2.1 rfl true

end Log

end EditorAssist
