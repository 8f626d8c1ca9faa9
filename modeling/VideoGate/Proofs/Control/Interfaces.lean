import VideoGate.Control.Options
import VideoGate.Proofs.System.Entries
import VideoGate.Proofs.Text.Spelling

/-!
# Which interface a text means

A text that spells a word of 32 bits is the number of an interface, and no file is read for it.  Any
other text is taken for a name: one file is read, whatever the text is, and what has to stand in it
is again a numeral, between white space (`resolveInterface_accepts`).  So every interface can be
given by its number as it is written, and found by the number in its file.
-/

namespace VideoGate

open Numeral (Spells SpellsInWhite parseWord32)

/-! ## Files that are read -/

/-- Reads a file as text, and notes its path behind those of the files that have been read. -/
def Files.readTextNoted (files : Files) (path : String) :
    StateM (List String) (Except FileFault String) := do
  modify (· ++ [path])
  return files.readText path

/-- The file in which the number of an interface is looked up. -/
def interfaceFile (directory name : String) : String :=
  Path.join (Path.join directory name) "ifindex"

/-- The files that are read to resolve a text, in order. -/
def filesRead (directory text : String) (files : Files) : List String :=
  ((resolveInterfaceThrough files.readTextNoted directory text).run []).2

theorem Files.readText_of_find {files : Files} {path text : String} {place : Place}
    (h : files.find path = .ok (place, .file text.toUTF8)) : files.readText path = .ok text := by
  have htext : String.fromUTF8? text.toUTF8 = some text := by
    rw [String.fromUTF8?, String.toUTF8_eq_toByteArray, dif_pos text.isValidUTF8]
    rfl
  unfold readText
  rw [h]
  simp only [bind, Except.bind, htext]

/-! ## Numbers and names -/

theorem parseWord32_eq_error_iff {text : String} :
    (∃ fault, parseWord32 text = .error fault) ↔
      ∀ word : UInt32, ¬ Spells text.toList word.toNat := by
  cases hparse : parseWord32 text with
  | error fault =>
      refine iff_of_true ⟨fault, rfl⟩ fun word hspells => ?_
      rw [Numeral.parseWord32_eq_ok_iff.mpr hspells] at hparse
      cases hparse
  | ok word =>
      refine iff_of_false nofun fun hnone => ?_
      exact hnone word (Numeral.parseWord32_eq_ok_iff.mp hparse)

/-- A number is the answer at once. -/
theorem resolveInterface_of_number (directory : String) {text : String} (files : Files)
    {word : UInt32} (h : Spells text.toList word.toNat) :
    resolveInterface directory text files = .ok word ∧ filesRead directory text files = [] := by
  have hparse := Numeral.parseWord32_eq_ok_iff.mpr h
  unfold filesRead resolveInterface resolveInterfaceThrough
  rw [hparse]
  exact ⟨rfl, rfl⟩

/-- A name is looked up in its file, and nowhere else. -/
theorem resolveInterface_of_name (directory : String) {text : String} (files : Files)
    (h : ∀ word : UInt32, ¬ Spells text.toList word.toNat) :
    resolveInterface directory text files =
        readInterfaceNumber text (interfaceFile directory text)
          (files.readText (interfaceFile directory text)) ∧
      filesRead directory text files = [interfaceFile directory text] := by
  obtain ⟨fault, hparse⟩ := parseWord32_eq_error_iff.mpr h
  unfold filesRead resolveInterface resolveInterfaceThrough
  rw [hparse, ← interfaceFile]
  generalize interfaceFile directory text = path
  exact ⟨rfl, rfl⟩

theorem readInterfaceNumber_eq_ok_iff {name path : String} {outcome : Except FileFault String}
    {word : UInt32} :
    readInterfaceNumber name path outcome = .ok word ↔
      ∃ content, outcome = .ok content ∧ SpellsInWhite content.toList word.toNat := by
  cases outcome with
  | error fault => exact iff_of_false nofun nofun
  | ok content =>
      have hread : parseWord32 (String.ofList (Text.strip content)) = .ok word ↔
          SpellsInWhite content.toList word.toNat := by
        rw [Numeral.parseWord32_eq_ok_iff, String.toList_ofList, Numeral.spells_strip_iff]
      simp only [Except.ok.injEq, exists_eq_left', ← hread, readInterfaceNumber]
      cases parseWord32 (String.ofList (Text.strip content)) <;> simp

/-- A number and a new line are what the file of an interface holds. -/
theorem spellsInWhite_line (n : Nat) : SpellsInWhite (Numeral.text n ++ "\n").toList n := by
  have hwhite : Text.isWhite '\n' = true := rfl
  refine ⟨[], Numeral.render n, ['\n'], ?_, List.forall_mem_nil _,
    List.forall_mem_singleton.mpr hwhite, Numeral.spells_render n⟩
  rw [String.toList_append, Numeral.text, String.toList_ofList]
  rfl

/-! ## All texts -/

/-- **What resolving a text accepts.**  A number is answered without a file exactly if the text
spells it.  For any other text one file is read, and a number is answered exactly if that file can
be read as text and is a numeral of it between white space.  Every number can be given as it is
written, and is found in a file with a line of it. -/
theorem resolveInterface_accepts (directory text : String) (files : Files) :
    (∀ n : UInt32,
      (resolveInterface directory text files = .ok n ∧ filesRead directory text files = []) ↔
        Spells text.toList n.toNat) ∧
    ((∀ n : UInt32, ¬ Spells text.toList n.toNat) →
      filesRead directory text files = [interfaceFile directory text] ∧
      (∀ n : UInt32, resolveInterface directory text files = .ok n ↔
        ∃ content, files.readText (interfaceFile directory text) = .ok content ∧
          SpellsInWhite content.toList n.toNat) ∧
      ∀ (n : UInt32) (place : Place),
        files.find (interfaceFile directory text) =
          .ok (place, .file (Numeral.text n.toNat ++ "\n").toUTF8) →
        resolveInterface directory text files = .ok n) ∧
    ∀ n : UInt32, resolveInterface directory (Numeral.text n.toNat) files = .ok n := by
  refine ⟨fun n => ⟨?_, resolveInterface_of_number directory files⟩, fun hname => ?_, fun n => ?_⟩
  case refine_1 =>
    rintro ⟨hanswer, hnone⟩
    by_cases hnumber : ∃ m : UInt32, Spells text.toList m.toNat
    · obtain ⟨m, hm⟩ := hnumber
      obtain ⟨hanswer', -⟩ := resolveInterface_of_number directory files hm
      obtain rfl : m = n := Except.ok.inj (hanswer'.symm.trans hanswer)
      exact hm
    · -- A name is not answered before its file has been read.
      obtain ⟨-, hfile⟩ := resolveInterface_of_name directory files (not_exists.mp hnumber)
      rw [hnone] at hfile
      cases hfile
  case refine_2 =>
    obtain ⟨hanswer, hfile⟩ := resolveInterface_of_name directory files hname
    rw [hanswer]
    refine ⟨hfile, fun n => readInterfaceNumber_eq_ok_iff, fun n place hfind => ?_⟩
    exact readInterfaceNumber_eq_ok_iff.mpr
      ⟨_, Files.readText_of_find hfind, spellsInWhite_line n.toNat⟩
  case refine_3 =>
    have hspells : Spells (Numeral.text n.toNat).toList n.toNat := by
      rw [Numeral.text, String.toList_ofList]
      exact Numeral.spells_render n.toNat
    exact (resolveInterface_of_number directory files hspells).1

/-- A system with one interface, whose name is the least number that is none of an interface. -/
def filesOfMisnamed : Files where
  cwd := ["tmp"]
  entries :=
    [(["sys"], .directory), (["sys", "class"], .directory), (["sys", "class", "net"], .directory),
      (["sys", "class", "net", "4294967296"], .directory),
      (["sys", "class", "net", "4294967296", "ifindex"],
        .file (Numeral.text 12 ++ "\n").toUTF8)]

theorem resolveInterface_accepts_misnamed :
    (∀ n : UInt32, ¬ Spells "4294967296".toList n.toNat) ∧
      filesRead interfaceDirectory "4294967296" filesOfMisnamed =
        ["/sys/class/net/4294967296/ifindex"] ∧
      resolveInterface interfaceDirectory "4294967296" filesOfMisnamed = .ok 12 := by
  have hspells : Spells "4294967296".toList 4294967296 := by decide +kernel
  have hname : ∀ n : UInt32, ¬ Spells "4294967296".toList n.toNat := by
    intro n hn
    have hlt := n.toNat_lt
    have hn' := hn.unique hspells
    omega
  obtain ⟨-, hothers, -⟩ := resolveInterface_accepts interfaceDirectory "4294967296" filesOfMisnamed
  obtain ⟨hfiles, -, hline⟩ := hothers hname
  have hpath : interfaceFile interfaceDirectory "4294967296" =
      "/sys/class/net/4294967296/ifindex" := by decide
  refine ⟨hname, hpath ▸ hfiles, hline 12 ["sys", "class", "net", "4294967296", "ifindex"] ?_⟩
  rw [hpath]
  exact Files.find_eq_ok_iff.mpr ⟨Files.locate_eq_ok_iff.mpr (by decide +kernel), rfl⟩

end VideoGate
