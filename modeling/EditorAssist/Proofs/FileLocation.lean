import EditorAssist.Proofs.Root
import EditorAssist.Proofs.Unescaping

/-! # Locations of files

The location of a file is its path, escaped, after `file://`.  Cutting such a location into its
parts never cuts the path, so the path is read back, whatever characters it has.  A path that begins
with a drive letter is the one exception: it loses its slash, and the letter goes to lower case.

* `IsFileLocation`: the locations of a path;
* `parts_of_isFileLocation`: the whole path is the path part of its location;
* `toPath_of_isFileLocation`: the path that is read back, and the root that a start takes from it. -/

namespace EditorAssist.Location

open Text

/-- The location of a path: the path with its bytes escaped, after `file://`. -/
def IsFileLocation (path location : String) : Prop :=
  ∃ text, location = "file://" ++ String.ofList text ∧ Escapes path.toUTF8.data.toList text

/-- How a path is given back: with a drive letter, without its slash and in lower case, and else as
it is. -/
inductive GivenBack : List Char → List Char → Prop
  | drive {letter : Char} {rest : List Char} : letter.isAlpha = true →
      GivenBack ('/' :: letter :: ':' :: rest) (letter.toLower :: ':' :: rest)
  | whole {path : List Char} :
      (∀ letter rest, letter.isAlpha = true → path ≠ '/' :: letter :: ':' :: rest) →
      GivenBack path path

theorem givenBack_localPath (path : List Char) : GivenBack path (localPath path) := by
  unfold localPath
  split
  · next letter rest =>
      split
      · next hletter => exact .drive hletter
      · next hletter =>
          refine .whole fun letter' rest' halpha e => ?_
          obtain ⟨-, rfl, -⟩ : '/' = '/' ∧ letter = letter' ∧ ':' :: rest = ':' :: rest' := by
            simpa using e
          exact hletter halpha
  · next hnot => exact .whole fun letter rest _ e => hnot letter rest e

section parts

variable {bytes : List UInt8} {text : List Char}

/-- A character that is neither kept nor a percent sign stands in no escaped text. -/
theorem Escapes.notMem (h : Escapes bytes text) {c : Char} (hkept : isKept c = false)
    (hpercent : c ≠ '%') : c ∉ text := by
  intro hmem
  rcases h.isKept_or c hmem with hc | hc
  · rw [hc] at hkept
    cases hkept
  · exact hpercent hc

/-- A text without the character is not cut there. -/
theorem takeWhile_of_notMem {c : Char} (h : c ∉ text) : text.takeWhile (· ≠ c) = text := by
  rw [List.takeWhile_eq_self_iff]
  intro d hd
  simp only [ne_eq, decide_not, Bool.not_eq_true', decide_eq_false_iff_not]
  rintro rfl
  exact h hd

/-- Nothing is cleaned away from an escaped text. -/
theorem clean_file (h : Escapes bytes text) :
    clean ("file://".toList ++ text) = "file://".toList ++ text := by
  have hstop : Source.Stops (fun c => decide (c.toNat ≤ 0x20)) ("file://".toList ++ text) :=
    Source.stops_cons.mpr rfl
  have hlead : ∀ c ∈ "file://".toList, c ≠ '\t' ∧ c ≠ '\r' ∧ c ≠ '\n' := by simp
  have htext : ∀ c ∈ text, c ≠ '\t' ∧ c ≠ '\r' ∧ c ≠ '\n' := by
    intro c hc
    refine ⟨?_, ?_, ?_⟩
    all_goals
      rintro rfl
      exact h.notMem (by decide) (by decide) hc
  rw [clean, Source.dropWhile_of_stops hstop, List.filter_eq_self]
  intro c hc
  rw [decide_eq_true_eq]
  exact (List.forall_mem_append.mpr ⟨hlead, htext⟩) c hc

theorem splitScheme_file (rest : List Char) :
    splitScheme ("file://".toList ++ rest) = ("file".toList, '/' :: '/' :: rest) := rfl

/-- The path of a file starts where its authority would stand, so there is none. -/
theorem splitAuthority_slash (rest : List Char) :
    splitAuthority ('/' :: '/' :: '/' :: rest) = ([], '/' :: rest) := rfl

end parts

/-- An escaped path starts with a slash, as the path does. -/
theorem head?_of_escapes {path : String} {text : List Char} (hpath : path.toList.head? = some '/')
    (h : Escapes path.toUTF8.data.toList text) : text.head? = some '/' := by
  obtain ⟨rest, hrest⟩ := List.head?_eq_some_iff.mp hpath
  have hslash : String.utf8EncodeChar '/' = [0x2F] := by decide
  rw [toUTF8_toList, hrest, List.flatMap_cons, hslash, List.singleton_append] at h
  cases h with
  | kept _ _ => rfl
  | escaped hescaped _ _ _ => exact absurd hescaped (by decide)

/-- The whole escaped path is the path part of its location, and the authority is empty. -/
theorem parts_of_isFileLocation {path location : String} (hpath : path.toList.head? = some '/')
    (h : IsFileLocation path location) :
    ∃ text, Escapes path.toUTF8.data.toList text ∧
      parts location = .ok ⟨"file".toList, [], text⟩ := by
  obtain ⟨text, rfl, hescapes⟩ := h
  refine ⟨text, hescapes, ?_⟩
  have htext : ("file://" ++ String.ofList text).toList = "file://".toList ++ text := by simp
  have hnumber : text.takeWhile (· ≠ '#') = text :=
    takeWhile_of_notMem (hescapes.notMem (by decide) (by decide))
  have hquestion : text.takeWhile (· ≠ '?') = text :=
    takeWhile_of_notMem (hescapes.notMem (by decide) (by decide))
  obtain ⟨rest, rfl⟩ := List.head?_eq_some_iff.mp (head?_of_escapes hpath hescapes)
  have hscheme : ¬ String.ofList "file".toList ∈ schemesWithParameters := by decide +kernel
  unfold parts
  rw [htext, clean_file hescapes, splitScheme_file]
  dsimp only
  rw [splitAuthority_slash, checkAuthority_nil]
  dsimp only [Except.map]
  rw [hnumber, hquestion, if_neg hscheme]

theorem toPath_eq_localPath {path location : String} (hpath : path.toList.head? = some '/')
    (h : IsFileLocation path location) :
    toPath location = .ok (String.ofList (localPath path.toList)) := by
  obtain ⟨text, hescapes, hparts⟩ := parts_of_isFileLocation hpath h
  have hauthority : unescape [] = [] := rfl
  rw [toPath, hparts]
  dsimp only [Except.map, Parts.toPath]
  rw [hauthority, if_neg (by simp), unescape_of_escapes hescapes]

/-- Every path has a location. -/
theorem exists_isFileLocation (path : String) : ∃ location, IsFileLocation path location := by
  obtain ⟨text, h⟩ := exists_escapes path.toUTF8.data.toList
  exact ⟨_, text, rfl, h⟩

/-- **A path is read back from its location.**  Every path that starts with a slash has a location,
and from each of its locations, however the escapes are written, the path is read back, a drive
letter aside.  A start takes that path as the root if the location is that of its first folder and
the new store does not refuse its root, or if it names no folder and the location is its root. -/
theorem toPath_of_isFileLocation (path : String) (hpath : path.toList.head? = some '/') :
    (∃ location, IsFileLocation path location) ∧
    ∀ location, IsFileLocation path location →
      ∃ given : String, GivenBack path.toList given.toList ∧ toPath location = .ok given ∧
        (∀ (s : Session) (more : List String) (rootUri rootPath : Option String),
          ¬ Session.RefusesRoot rootUri rootPath →
            (s.run (.start (location :: more) rootUri rootPath)).1.assistant.root = some given) ∧
        ∀ (s : Session) (rootPath : Option String),
          (s.run (.start [] (some location) rootPath)).1.assistant.root = some given := by
  refine ⟨exists_isFileLocation path, ?_⟩
  intro location h
  have htoPath := toPath_eq_localPath hpath h
  have hlocation : location ≠ "" := by
    obtain ⟨text, rfl, -⟩ := h
    simp
  refine ⟨String.ofList (localPath path.toList), ?_, htoPath, ?_, ?_⟩
  · rw [String.toList_ofList]
    exact givenBack_localPath path.toList
  · intro s more rootUri rootPath hrefuses
    exact Session.run_of_setsRoot (.folder hrefuses htoPath)
  · intro s rootPath
    exact Session.run_of_setsRoot (.location hlocation htoPath)

/-- A path with a drive letter, a character beyond ASCII, a number sign and a percent sign. -/
theorem toPath_of_isFileLocation_drive :
    IsFileLocation "/C:/é#%" "file:///C%3A/%c3%A9%23%25" ∧
      GivenBack "/C:/é#%".toList "c:/é#%".toList ∧
      toPath "file:///C%3A/%c3%A9%23%25" = .ok "c:/é#%" ∧
      ((Session.ofSettings {} fun _ => ⟨.ok [], []⟩).run
        (.start ["file:///C%3A/%c3%A9%23%25"] none (some "/p"))).1.assistant.root =
          some "c:/é#%" := by
  have hlocation : IsFileLocation "/C:/é#%" "file:///C%3A/%c3%A9%23%25" := by
    refine ⟨"/C%3A/%c3%A9%23%25".toList, by decide +kernel, ?_⟩
    have hbytes : "/C:/é#%".toUTF8.data.toList =
        [0x2F, 0x43, 0x3A, 0x2F, 0xC3, 0xA9, 0x23, 0x25] := by decide +kernel
    rw [hbytes]
    refine .kept rfl (.kept rfl (.escaped rfl ?_ ?_ (.kept rfl (.escaped rfl ?_ ?_
      (.escaped rfl ?_ ?_ (.escaped rfl ?_ ?_ (.escaped rfl ?_ ?_ .nil)))))))
    all_goals
      unfold SpellsHex
      decide
  obtain ⟨-, hread⟩ := toPath_of_isFileLocation "/C:/é#%" (by decide +kernel)
  obtain ⟨given, hgiven, hpath, hfolder, -⟩ := hread _ hlocation
  have hknown : toPath "file:///C%3A/%c3%A9%23%25" = .ok "c:/é#%" := by decide +kernel
  obtain rfl : given = "c:/é#%" := Except.ok.inj (hpath.symm.trans hknown)
  refine ⟨hlocation, hgiven, hknown, hfolder _ [] none (some "/p") ?_⟩
  exact Session.checkStoreRoot_eq_ok_iff.mp (by decide +kernel)

/-- A start does not take the path of its first folder if the new store refuses its root, nor that
of its root if it names a folder too. -/
theorem location_is_passed_over :
    let rootAfter := fun step =>
      ((Session.ofSettings {} fun _ => ⟨.ok [], []⟩).run step).1.assistant.root
    IsFileLocation "/f" "file:///f" ∧ toPath "file:///f" = .ok "/f" ∧
      rootAfter (.start ["file:///f"] none (some "//host")) ≠ some "/f" ∧
      rootAfter (.start ["file:///g"] (some "file:///f") none) ≠ some "/f" := by
  have hbytes : "/f".toUTF8.data.toList = [0x2F, 0x66] := by decide +kernel
  have hlocation : IsFileLocation "/f" "file:///f" := by
    refine ⟨"/f".toList, by decide +kernel, ?_⟩
    rw [hbytes]
    exact .kept rfl (.kept rfl .nil)
  exact ⟨hlocation, by decide +kernel, by decide +kernel, by decide +kernel⟩

end EditorAssist.Location
