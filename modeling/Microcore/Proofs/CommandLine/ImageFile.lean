/-
  Microcore/Proofs/CommandLine/ImageFile.lean
  ===========================================
  **An image file is run, or its fault is reported.**  A file in ASCII is loaded if its words spell an
  image; otherwise it has a fault, and the run ends with a message (`image_file_runs_or_is_reported`).  A
  byte outside ASCII has no such message: unless a fault is found in the blocks in front of it, which in
  a short file there are none of, the run ends without an outcome (`undecodable_image_escapes`).
-/
import Microcore.Proofs.CommandLine.Run

namespace Microcore

/-! ### Bytes in ASCII -/

namespace Encoding

theorem ascii_of_lt {bytes : List UInt8} (h : ∀ b ∈ bytes, b < 128) :
    ascii bytes = .all (bytes.map fun b => Char.ofNat b.toNat) := by
  have hnone : bytes.findIdx? (fun b => 128 ≤ b) = none := by
    rw [List.findIdx?_eq_none_iff]
    intro b hb
    rw [decide_eq_false_iff_not, UInt8.not_le]
    exact h b hb
  rw [ascii, hnone]

/-- A text with a byte outside ASCII is known up to the block of the first one. -/
theorem ascii_of_ge {bytes : List UInt8} (h : ∃ b ∈ bytes, 128 ≤ b) : ∃ index < bytes.length,
    ascii bytes = .broken ((bytes.map fun b => Char.ofNat b.toNat).take
      (index / blockSize * blockSize)) := by
  obtain ⟨b, hb, hge⟩ := h
  cases hindex : bytes.findIdx? (fun b => 128 ≤ b) with
  | none =>
    have hlt := List.findIdx?_eq_none_iff.mp hindex b hb
    rw [decide_eq_false_iff_not] at hlt
    exact absurd hge hlt
  | some index =>
    refine ⟨index, (List.findIdx?_eq_some_iff_getElem.mp hindex).1, ?_⟩
    rw [ascii, hindex]

end Encoding

namespace CommandLine

/-! ### What a file holds -/

/-- What stands between white space in a file, with a character for each byte. -/
def tokens (bytes : ByteArray) : List (List Char) :=
  (Lines.lines (Lines.normalize (bytes.data.toList.map fun b => Char.ofNat b.toNat))).flatMap Blank.words

/-- A file holds an image: between white space are 256 numbers in hexadecimal, each of twelve bits. -/
def HoldsImage (bytes : ByteArray) (words : Vector Word 256) : Prop :=
  HexImage.Reads (tokens bytes) words.toList

/-- **An image in ASCII is loaded, or has a fault.** -/
theorem readImage_of_lt {bytes : ByteArray} (h : ∀ b ∈ bytes.data.toList, b < 128) :
    (∃ words, HoldsImage bytes words ∧ readImage bytes = .ok { words }) ∨
      (¬∃ words, HoldsImage bytes words) ∧ ∃ fault, readImage bytes = .error (.image fault) := by
  simp only [readImage, Encoding.ascii_of_lt h]
  cases hread : HexImage.read? (Lines.lines (Lines.normalize
    (bytes.data.toList.map fun b => Char.ofNat b.toNat))) with
  | ok words => exact .inl ⟨words, HexImage.read?_eq_ok_iff.mp hread, rfl⟩
  | error fault =>
    right
    refine ⟨?_, fault, rfl⟩
    rintro ⟨words, hwords⟩
    rw [HexImage.read?_eq_ok_iff.mpr hwords] at hread
    cases hread

/-- **An image with a byte outside ASCII** has a fault in the blocks in front of it, or cannot be
    decoded. -/
theorem readImage_of_ge {bytes : ByteArray} (h : ∃ b ∈ bytes.data.toList, 128 ≤ b) :
    (∃ fault, readImage bytes = .error (.image fault)) ∨
      readImage bytes = .error (.failure .undecodable) := by
  obtain ⟨index, -, hascii⟩ := Encoding.ascii_of_ge h
  simp only [readImage, hascii]
  split
  · exact .inr rfl
  · next fault _ => exact .inl ⟨fault, rfl⟩

theorem readImage_of_short {bytes : ByteArray} (h : ∃ b ∈ bytes.data.toList, 128 ≤ b)
    (hsize : bytes.size ≤ Encoding.blockSize) : readImage bytes = .error (.failure .undecodable) := by
  obtain ⟨index, hindex, hascii⟩ := Encoding.ascii_of_ge h
  have hblock : index / Encoding.blockSize = 0 := Nat.div_eq_of_lt (Nat.lt_of_lt_of_le hindex hsize)
  rw [hblock, Nat.zero_mul, List.take_zero] at hascii
  rw [readImage, hascii]
  rfl

/-! ### Runs of an image file -/

/-- A command line that runs an image file, with numbers that are read and no files to write. -/
structure RunsImage (host : Host) (find : Path → Found) (args : List String) (o : Options)
    (bytes : ByteArray) (n : Nat) (t : Int) : Prop where
  parsed : parse args host = .ok o
  found : find o.source = .file bytes
  image : o.asHex = true ∨ Letter.lower o.source.suffix = ".hex".toList
  unlisted : o.listing = none
  unsaved : o.hexOut = none
  cycles : o.cycles = some (n : Int)
  trace : o.trace = some t

section Outcomes

variable (host : Host) (find : Path → Found) (filter : Log.Filter) (args : List String) (o : Options)

/-- The image is loaded, and the run ends well if the host has room for the trace. -/
structure RunsWords (t : Int) (words : Vector Word 256) : Prop where
  loaded : load find o = .ok { words }
  length : (words.toList.map unsigned).length = 256
  bounded : ∀ w ∈ words.toList.map unsigned, 0 ≤ w ∧ w ≤ 0xFFF
  ends : t ≤ host.room → ∃ stdout, run find filter args host = .ok { status := 0, stdout }
  noRoom : host.room < t → ∃ fault, run find filter args host = .error (.machine (.trace fault))

/-- The image has a fault, and the run reports it. -/
structure ReportsFault (fault : HexImage.Fault) : Prop where
  loaded : load find o = .error (.image fault)
  ends : run find filter args host =
    .ok { status := 1, stdout := "", stderr := s!"run.py: {fault.message}\n", files := [] }

/-- The image cannot be decoded, and the run has no outcome. -/
structure Escapes : Prop where
  loaded : load find o = .error (.failure .undecodable)
  ends : run find filter args host = .error .undecodable

end Outcomes

section RunsImage

variable {host : Host} {find : Path → Found} {args : List String} {o : Options} {bytes : ByteArray}
  {n : Nat} {t : Int} (h : RunsImage host find args o bytes n t) (filter : Log.Filter)

include h

theorem RunsImage.load_eq : load find o = readImage bytes := load_of_image h.image h.found

theorem RunsImage.runsWords {words : Vector Word 256} (hload : readImage bytes = .ok { words }) :
    RunsWords host find filter args o t words := by
  rw [← h.load_eq] at hload
  have hfiles : writeFiles find o { words } = .ok [] := by
    obtain ⟨text, htext⟩ := HexImage.exists_write? words
    simp only [writeFiles, h.unlisted, h.unsaved, writeFile_none, ok_bind, htext]
  have hrun := run_eq_runOptions h.parsed h.found h.cycles filter
  refine ⟨hload, ?_, bounded_map_unsigned words.toList, ?_, ?_⟩
  · rw [List.length_map, Vector.length_toList]
  · intro hroom
    obtain ⟨stdout, houtput⟩ := exists_output hroom filter n o.dump { words }
    exact ⟨stdout, hrun.trans (runOptions_of_output hload h.trace hfiles houtput)⟩
  · intro hroom
    rw [hrun]
    exact runOptions_of_no_room hload h.trace hfiles hroom filter n

theorem RunsImage.reportsFault {fault : HexImage.Fault} (hload : readImage bytes = .error (.image fault)) :
    ReportsFault host find filter args o fault := by
  rw [← h.load_eq] at hload
  refine ⟨hload, ?_⟩
  rw [run_eq_runOptions h.parsed h.found h.cycles, runOptions, hload]
  rfl

theorem RunsImage.escapes (hload : readImage bytes = .error (.failure .undecodable)) :
    Escapes host find filter args o := by
  rw [← h.load_eq] at hload
  refine ⟨hload, ?_⟩
  rw [run_eq_runOptions h.parsed h.found h.cycles, runOptions, hload]

/-- **An image file is run, or its fault is reported.**  A file in ASCII that holds an image is run, and
    any other file in ASCII has a fault that is reported.  A file with a byte outside ASCII has such a
    fault or escapes, and escapes if it is no longer than a block. -/
theorem image_file_runs_or_is_reported :
    ((∀ b ∈ bytes.data.toList, b < 128) →
      (∃ words, HoldsImage bytes words ∧ RunsWords host find filter args o t words) ∨
        (¬∃ words, HoldsImage bytes words) ∧ ∃ fault, ReportsFault host find filter args o fault) ∧
    ((∃ b ∈ bytes.data.toList, 128 ≤ b) →
      ((∃ fault, ReportsFault host find filter args o fault) ∨ Escapes host find filter args o) ∧
        (bytes.size ≤ Encoding.blockSize → Escapes host find filter args o)) := by
  constructor
  · intro hascii
    rcases readImage_of_lt hascii with ⟨words, hwords, hload⟩ | ⟨hnone, fault, hload⟩
    · exact .inl ⟨words, hwords, h.runsWords filter hload⟩
    · exact .inr ⟨hnone, fault, h.reportsFault filter hload⟩
  · intro hbeyond
    constructor
    · rcases readImage_of_ge hbeyond with ⟨fault, hload⟩ | hload
      · exact .inl ⟨fault, h.reportsFault filter hload⟩
      · exact .inr (h.escapes filter hload)
    · intro hsize
      exact h.escapes filter (readImage_of_short hbeyond hsize)

end RunsImage

/-- A directory that holds one file. -/
def holdingFile (name : String) (bytes : ByteArray) (path : Path) : Found :=
  if path = Path.ofString name then .file bytes else .vacant

/-- An image, by an option on the command line, in which a word is no number. -/
theorem malformed_image_is_reported :
    let bytes := "D05 e1G\n".toUTF8
    let find := holdingFile "a.bin" bytes
    let args := ["--hex", "a.bin", "--cycles", "9", "--dump"]
    let o : Options := { source := Path.ofString "a.bin", asHex := true, cycles := some 9, dump := true }
    RunsImage .usual find args o bytes 9 0 ∧ (∀ b ∈ bytes.data.toList, b < 128) ∧
      ∃ fault, ReportsFault .usual find quiet args o fault := by
  intro bytes find args o
  have hruns : RunsImage .usual find args o bytes 9 0 :=
    ⟨by decide, if_pos rfl, by decide, rfl, rfl, rfl, rfl⟩
  have hascii : ∀ b ∈ bytes.data.toList, b < 128 := by decide +kernel
  have hcount : (tokens bytes).length ≠ 256 := by decide +kernel
  refine ⟨hruns, hascii, ?_⟩
  rcases (image_file_runs_or_is_reported hruns quiet).1 hascii with ⟨words, hwords, -⟩ | ⟨-, hreported⟩
  · exact absurd (hwords.length_eq.trans words.length_toList) hcount
  · exact hreported

/-- A file with a single byte, which is outside ASCII, is no image and has no fault. -/
theorem undecodable_image_escapes :
    let bytes : ByteArray := ⟨#[0xFF]⟩
    let find := holdingFile "a.hex" bytes
    let args := ["a.hex", "--cycles", "0"]
    let o : Options := { source := Path.ofString "a.hex", cycles := some 0 }
    RunsImage .usual find args o bytes 0 0 ∧ ¬((∃ words, RunsWords .usual find quiet args o 0 words) ∨
      ∃ fault, ReportsFault .usual find quiet args o fault) := by
  intro bytes find args o
  have hruns : RunsImage .usual find args o bytes 0 0 :=
    ⟨by decide, if_pos rfl, by decide, rfl, rfl, rfl, rfl⟩
  have hescapes : Escapes .usual find quiet args o :=
    hruns.escapes quiet (readImage_of_short ⟨0xFF, by decide, by decide⟩ (by decide))
  refine ⟨hruns, ?_⟩
  rintro (⟨words, hwords⟩ | ⟨fault, hfault⟩)
  · have hloaded := hescapes.loaded
    rw [hwords.loaded] at hloaded
    cases hloaded
  · have hloaded := hescapes.loaded
    rw [hfault.loaded] at hloaded
    cases hloaded

end CommandLine

end Microcore
