/-
  Microcore/Proofs/Assembly/Entries.lean
  ======================================
  **Listed lines read from their text.**  An entry of a listing begins with the number of a line, a colon
  and the two digits of a location, and its columns 12 to 14 are blank or hold a word.  `Shown.read?` reads
  the three from the text alone, and finds what was listed (`read?_entry`).  So an image is recovered from
  the text of its listing (`listing_shows_image`).
-/
import Microcore.Proofs.Assembly.Relisting

namespace Microcore.Assembly

open Blank (isBlank)

namespace Listing

/-! ### The text of an entry -/

/-- A number in decimal digits, at least one. -/
def decimal? (text : List Char) : Option Nat :=
  if text = [] then none else (text.mapM Digit.value?).map (Digit.number 10)

/-- A number in hexadecimal digits, as many as asked for. -/
def hexadecimal? (count : Nat) (text : List Char) : Option Nat :=
  if text.length = count ∧ text.all hexDigits.contains = true then some (hexValue text) else none

/-- The number in front of the colon. -/
def lineNumber? (entry : List Char) : Option Nat :=
  decimal? (Blank.skip isBlank (entry.takeWhile (· ≠ ':')))

/-- The two hexadecimal digits behind the number and the colon. -/
def location? (entry : List Char) : Option Nat :=
  hexadecimal? 2 ((Blank.skip isBlank ((entry.dropWhile (· ≠ ':')).drop 1)).take 2)

/-- What the columns 12 to 14 hold: a word, if they are not blank. -/
def wordField? (entry : List Char) : Option (Option Nat) :=
  let columns := (entry.drop 12).take 3
  if columns.all isBlank then some none else (hexadecimal? 3 columns).map some

/-! ### Numbers -/

theorem decimal?_decimalChars (n : Nat) : decimal? (Numeral.decimalChars 0 n) = some n := by
  obtain ⟨values, hvalues, -, hnumber⟩ := Digit.mapM_value?_toDigits n
  have hne : Nat.toDigits 10 n ≠ [] := List.ne_nil_of_length_pos Nat.length_toDigits_pos
  rw [decimal?, Numeral.decimalChars_natCast, if_neg hne, hvalues, Option.map_some, hnumber]

theorem hexChar_mem {d : Nat} (h : d < 16) : hexChar d ∈ hexDigits ∧ hexDigits.idxOf (hexChar d) = d := by
  revert d
  decide

theorem hexValue_map_hexChar {ds : List Nat} (h : ∀ d ∈ ds, d < 16) :
    hexValue (ds.map hexChar) = Digit.number 16 ds := by
  rw [hexValue, List.foldl_map, Digit.number]
  apply List.foldl_ext
  intro value d hd
  rw [(hexChar_mem (h d hd)).2]

/-- **A number in a fixed count of digits is read back.** -/
theorem hexadecimal?_hexChars {n count : Nat} (hcount : 0 < count) (h : n < 16 ^ count) :
    hexadecimal? count (Numeral.hexChars count n) = some n := by
  obtain ⟨ds, htext, -, hbelow, hnumber⟩ :=
    Numeral.hexForm.exists_writes (by decide) rfl count (n : Int)
  have hdigits : Numeral.hexChars count n = ds.map hexChar := htext
  have hmem : (ds.map hexChar).all hexDigits.contains = true := by
    rw [List.all_eq_true]
    intro c hc
    obtain ⟨d, hd, rfl⟩ := List.mem_map.mp hc
    exact List.contains_iff_mem.mpr (hexChar_mem (hbelow d hd)).1
  have hlength := Numeral.length_hexChars hcount h
  rw [hdigits] at hlength
  rw [hexadecimal?, hdigits, if_pos ⟨hlength, hmem⟩, hexValue_map_hexChar hbelow]
  exact congrArg some hnumber

/-! ### Number and location -/

theorem isDigit_of_mem_decimalChars {n : Nat} : ∀ c ∈ Numeral.decimalChars 0 n, c.isDigit = true := by
  intro c hc
  rw [Numeral.decimalChars_natCast] at hc
  exact Nat.isDigit_of_mem_toDigits (by decide) (by decide) hc

theorem ne_colon_of_mem_padStart {n : Nat} :
    ∀ c ∈ Numeral.padStart 4 (Numeral.decimalChars 0 n), decide (c ≠ ':') = true := by
  intro c hc
  apply decide_eq_true
  rintro rfl
  rcases List.mem_append.mp hc with hmem | hmem
  · cases List.eq_of_mem_replicate hmem
  · cases isDigit_of_mem_decimalChars ':' hmem

theorem skip_padStart (n : Nat) : Blank.skip isBlank (Numeral.padStart 4 (Numeral.decimalChars 0 n)) =
    Numeral.decimalChars 0 n := by
  rw [Blank.skip, Numeral.padStart, List.dropWhile_append_of_pos Blank.isBlank_of_mem_replicate,
    List.dropWhile_eq_self_iff]
  intro hlength
  rw [isBlank_of_isDigit (isDigit_of_mem_decimalChars _ (List.getElem_mem hlength))]
  exact Bool.false_ne_true

/-- **The number in front of a colon is read back**, in an entry and in the text of a message. -/
theorem lineNumber?_padStart (n : Nat) (tail : List Char) :
    lineNumber? (Numeral.padStart 4 (Numeral.decimalChars 0 n) ++ ':' :: tail) = some n := by
  rw [lineNumber?, List.takeWhile_append_of_pos ne_colon_of_mem_padStart,
    List.takeWhile_cons_of_neg (by decide), List.append_nil, skip_padStart, decimal?_decimalChars]

theorem headText_append (number : Nat) (location : Byte) (tail : List Char) :
    headText number location ++ tail = Numeral.padStart 4 (Numeral.decimalChars 0 number) ++
      ':' :: ([' ', ' ', ' '] ++ (Numeral.hexChars 2 location.toNat ++ tail)) := by
  simp only [headText, List.append_assoc, List.cons_append, List.nil_append]

/-- **The location behind the colon is read back.** -/
theorem location?_headText (number : Nat) (location : Byte) (tail : List Char) :
    location? (headText number location ++ tail) = some location.toNat := by
  have hblank : ∀ c ∈ [' ', ' ', ' '], isBlank c = true := @Blank.isBlank_of_mem_replicate 3
  have hlength := Numeral.length_hexChars (by decide : 0 < 2) location.isLt
  have hskip : Blank.skip isBlank (Numeral.hexChars 2 location.toNat ++ tail) =
      Numeral.hexChars 2 location.toNat ++ tail := by
    rw [Blank.skip, List.dropWhile_eq_self_iff]
    intro hpos
    have hlt : 0 < (Numeral.hexChars 2 location.toNat).length := by omega
    rw [List.getElem_append_left hlt, (isWord_hexChars location).solid _ (List.getElem_mem hlt)]
    exact Bool.false_ne_true
  rw [location?, headText_append, List.dropWhile_append_of_pos ne_colon_of_mem_padStart,
    List.dropWhile_cons_of_neg (by decide), List.drop_one, List.tail_cons, Blank.skip,
    List.dropWhile_append_of_pos hblank, ← Blank.skip, hskip, List.take_left' hlength,
    hexadecimal?_hexChars (by decide) location.isLt]

/-! ### The columns of the word -/

/-- A text at the column of the word, with the fields of a line behind it. -/
def fieldsBehind (line : Line) (text : List Char) : List Char :=
  let statement := line.statement.map statementText
  text
    |> addField? (labelColumn - wordColumn) (line.label.map labelText)
    |> addField? (mnemonicColumn - wordColumn) (statement.map Prod.fst)
    |> addField? (operandColumn - wordColumn) (statement.map Prod.snd)
    |> addField? (commentColumn - wordColumn) line.comment

theorem drop_wordColumn {number : Nat} (h : number < 100000) (p : Placed) (word : Option Word) :
    (entryChars number p word).drop wordColumn =
      fieldsBehind p.line ((word.map fun w => Numeral.hexChars 3 w.toNat).getD []) := by
  have hlength : (headText number p.location).length < wordColumn :=
    Nat.lt_succ_of_le (length_headText h p.location)
  simp only [entryChars, fieldsBehind]
  rw [drop_addField? (by decide), drop_addField? (by decide), drop_addField? (by decide),
    drop_addField? (by decide), drop_addField?_self hlength]

theorem prefix_fieldsBehind (line : Line) (text : List Char) : text <+: fieldsBehind line text :=
  (prefix_addField? _ _ _).trans <| (prefix_addField? _ _ _).trans <|
    (prefix_addField? _ _ _).trans (prefix_addField? _ _ _)

/-- A field leaves what stands in front of its column blank. -/
theorem isBlank_take_addField? {n column : Nat} (hn : n ≤ column) (field : Option (List Char))
    {text : List Char} (h : ∀ c ∈ text.take n, isBlank c = true) :
    ∀ c ∈ (addField? column field text).take n, isBlank c = true := by
  cases field with
  | none => exact h
  | some field =>
    intro c hc
    have hcolumn : n ≤ (text ++ List.replicate (max 1 (column - text.length)) ' ').length := by
      rw [List.length_append, List.length_replicate]
      omega
    have htext : addField? column (some field) text =
        (text ++ List.replicate (max 1 (column - text.length)) ' ') ++ field := by
      rw [List.append_assoc]
      exact addField_eq column field text
    rw [htext, List.take_append_of_le_length hcolumn, List.take_append] at hc
    rcases List.mem_append.mp hc with hmem | hmem
    · exact h c hmem
    · exact Blank.isBlank_of_mem_replicate c (List.mem_of_mem_take hmem)

theorem isBlank_take_fieldsBehind (line : Line) : ∀ c ∈ (fieldsBehind line []).take 3,
    isBlank c = true := by
  apply isBlank_take_addField? (by decide)
  apply isBlank_take_addField? (by decide)
  apply isBlank_take_addField? (by decide)
  apply isBlank_take_addField? (by decide)
  intro c hc
  cases hc

/-- **The word of a line is read back** from its columns, which are blank if the line has none. -/
theorem wordField?_entryChars {number : Nat} (h : number < 100000) (p : Placed) (word : Option Word) :
    wordField? (entryChars number p word) = some (word.map BitVec.toNat) := by
  have hcolumns : (entryChars number p word).drop 12 = _ := drop_wordColumn h p word
  simp only [wordField?, hcolumns]
  cases word with
  | none => exact if_pos (List.all_eq_true.mpr (isBlank_take_fieldsBehind p.line))
  | some w =>
    have hread := hexadecimal?_hexChars (by decide : 0 < 3) w.isLt
    have hlength := Numeral.length_hexChars (by decide : 0 < 3) w.isLt
    obtain ⟨tail, htail⟩ := prefix_fieldsBehind p.line (Numeral.hexChars 3 w.toNat)
    have hsolid : ¬(Numeral.hexChars 3 w.toNat).all isBlank = true := by
      intro hblank
      obtain ⟨c, hc⟩ := List.exists_mem_of_length_pos (by omega : 0 < (Numeral.hexChars 3 w.toNat).length)
      have hsolid := (Numeral.isWord_hexChars 3 w.toNat).solid c hc
      rw [List.all_eq_true.mp hblank c hc] at hsolid
      cases hsolid
    simp only [Option.map_some, Option.getD_some]
    rw [← htail, List.take_left' hlength, if_neg hsolid, hread]
    rfl

end Listing

/-! ### Entries -/

/-- What an entry of a listing shows in front of the text of the line. -/
structure Shown where
  number : Nat
  location : Nat
  word : Option Nat
deriving DecidableEq, Repr

/-- An entry read from its text alone. -/
def Shown.read? (entry : String) : Option Shown := do
  let number ← Listing.lineNumber? entry.toList
  let location ← Listing.location? entry.toList
  let word ← Listing.wordField? entry.toList
  return ⟨number, location, word⟩

/-- A listed line as it is shown. -/
def Placed.shown (labels : Labels) (number : Nat) (p : Placed) : Shown :=
  ⟨number, p.location.toNat, (p.word? labels).map BitVec.toNat⟩

theorem lineNumber?_entry (table : Labels) (number : Nat) (p : Placed) :
    Listing.lineNumber? (Listing.entry table number p).toList = some number := by
  obtain ⟨tail, htail⟩ := Listing.prefix_entryChars number p (p.word? table)
  rw [Listing.entry, String.toList_ofList, ← htail, Listing.headText_append,
    Listing.lineNumber?_padStart]

theorem location?_entry (table : Labels) (number : Nat) (p : Placed) :
    Listing.location? (Listing.entry table number p).toList = some p.location.toNat := by
  obtain ⟨tail, htail⟩ := Listing.prefix_entryChars number p (p.word? table)
  rw [Listing.entry, String.toList_ofList, ← htail, Listing.location?_headText]

/-- **What a line shows is read from its entry.** -/
theorem read?_entry (table : Labels) {number : Nat} (h : number < 100000) (p : Placed) :
    Shown.read? (Listing.entry table number p) = some (p.shown table number) := by
  have hword : Listing.wordField? (Listing.entry table number p).toList =
      some ((p.word? table).map BitVec.toNat) := by
    rw [Listing.entry, String.toList_ofList, Listing.wordField?_entryChars h]
  rw [Shown.read?, lineNumber?_entry, location?_entry, hword]
  rfl

/-! ### The entries of an image -/

/-- The entries of a listing: what it holds behind the header, without the messages on undefined
    labels. -/
def Image.entries (image : Image) : List String :=
  (image.listing.drop 2).filter fun line => line ∉ image.errors

theorem zip_place (lines : List Line) : (List.range' 1 lines.length).zip (place 0 lines) =
    (List.range lines.length).map fun i => (i + 1, placedAt lines i) := by
  have hnumbers : List.range' 1 lines.length = (List.range lines.length).map (· + 1) := by
    rw [List.range'_eq_map_range]
    exact List.map_congr_left fun i _ => Nat.add_comm 1 i
  rw [hnumbers, place_eq_map, List.zip_map']

theorem Image.entries_ofLines (name : String) (lines : List Line) : (Image.ofLines name lines).entries =
    (List.range lines.length).map fun i =>
      Listing.entry (labels (place 0 lines)) (i + 1) (placedAt lines i) := by
  rw [Image.entries, Image.filter_listing, zip_place, List.map_map]
  rfl

/-- An accepted source reads as its words say. -/
theorem ReadsAs.reads {source : List Char} {lines : List Line} (h : ReadsAs source lines) (i : Nat) :
    Reads ((Source.ofText source).line i) (lines.getD i {}) := by
  have hreads := reads_sourceLines h.message?_eq_nil i
  rwa [h.map_line] at hreads

theorem ReadsAs.length_ofText {source : List Char} {lines : List Line} (h : ReadsAs source lines) :
    lines.length = (Source.ofText source).length := by
  rw [← h.length_eq, Source.ofText, List.length_map]

/-! ### The image that a listing shows -/

/-- The undefined label that a line refers to. -/
def Source.undefinedAt? (s : Source) (i : Nat) : Option Nat :=
  (s.line i).reference?.filter fun number => (s.labelValue? number).isNone

/-- The word that entries show at an address: that of the last entry with a word at this location. -/
def Shown.wordAt (entries : List Shown) (a : Nat) : Nat :=
  ((entries.filter fun e => e.word.isSome && e.location = a).getLast?.bind Shown.word).getD 0

/-- A listing that shows the image of a source: an entry for each line, behind the message on the
    undefined label that the line refers to, if there is one; and at each address the word of the image. -/
structure Image.Listed (image : Image) (s : Source) : Prop where
  length : image.listing.length = 2 + s.length + image.errors.length
  lines : image.listing.drop 2 = (List.range s.length).flatMap fun i =>
    (s.undefinedAt? i).toList.map Listing.undefinedMessage ++ [image.entries.getD i ""]
  entries : ∃ shown, image.entries.map Shown.read? = shown.map some ∧
    shown.map Shown.number = List.range' 1 s.length ∧
    ∀ a < 256, image.numbers[a]? = some (Shown.wordAt shown a : Int)

theorem length_flatMap_listed (table : Labels) (f : Nat → Placed) (n : Nat) :
    (((List.range n).map fun i => (i + 1, f i)).flatMap fun (number, p) => listed table number p).length =
      n + (((List.range n).map f).filterMap (Placed.undefined? table)).length := by
  induction n with
  | zero => rfl
  | succ n ih =>
    rw [List.range_succ, List.map_append, List.flatMap_append, List.length_append, ih, List.map_append,
      List.filterMap_append, List.length_append]
    cases hundefined : (f n).undefined? table with
    | none =>
      simp [listed, hundefined]
      omega
    | some number =>
      simp [listed, hundefined]
      omega

theorem Shown.wordAt_map_range (f : Nat → Shown) (n a : Nat) : Shown.wordAt ((List.range n).map f) a =
    ((lastBelow? (fun i => (f i).word.isSome && (f i).location = a) n).bind
      fun i => (f i).word).getD 0 := by
  rw [wordAt, List.filter_map, List.getLast?_map, Option.bind_map]
  rfl

/-- **The entries show the words of the image.** -/
theorem wordAt_shown (table : Labels) (f : Nat → Placed) (n a : Nat) (ha : a < 256) :
    Shown.wordAt ((List.range n).map fun i => (f i).shown table (i + 1)) a =
      (emit table (Vector.replicate 256 0) ((List.range n).map f))[a].toNat := by
  have hplaced (i : Nat) : (((f i).shown table (i + 1)).word.isSome &&
      decide (((f i).shown table (i + 1)).location = a)) =
        (((f i).word? table).isSome && decide ((f i).location.toNat = a)) := by
    rw [Placed.shown, Option.isSome_map]
  rw [Shown.wordAt_map_range, getElem_emit, Vector.getElem_replicate]
  simp only [hplaced]
  cases lastBelow? (fun i => ((f i).word? table).isSome && decide ((f i).location.toNat = a)) n with
  | none => rfl
  | some i =>
    show (((f i).word? table).map BitVec.toNat).getD 0 = (((f i).word? table).getD 0).toNat
    cases (f i).word? table <;> rfl

/-- **The listing shows the image.**  Of an image of fewer than 100000 lines, header and messages apart,
    the listing has an entry for each line, with the number of the line; and the last entry with a word
    at a location shows the word of the image there, which is zero if there is none. -/
theorem listing_shows_image {name : String} {source : List Char} {image : Image}
    (hlength : (Lines.lines source).length < 100000) (h : assemble name source = .ok image) :
    image.Listed (Source.ofText source) := by
  obtain ⟨lines, hreads, rfl⟩ := exists_readsAs h
  have hcount := hreads.length_ofText
  rw [hreads.length_eq] at hlength
  have hentries := Image.entries_ofLines name lines
  have hlisting : (Image.ofLines name lines).listing.drop 2 =
      ((List.range lines.length).map fun i => (i + 1, placedAt lines i)).flatMap
        fun (number, p) => listed (labels (place 0 lines)) number p := by
    rw [← zip_place]
    rfl
  refine ⟨?_, ?_, ?_⟩
  · have herrors : (Image.ofLines name lines).errors.length =
        ((place 0 lines).filterMap (Placed.undefined? (labels (place 0 lines)))).length :=
      List.length_map _
    have hbody := length_flatMap_listed (labels (place 0 lines)) (placedAt lines) lines.length
    rw [← hlisting, ← place_eq_map, List.length_drop, hcount] at hbody
    have hheader : 2 ≤ (Image.ofLines name lines).listing.length := Nat.le_add_left 2 _
    omega
  · rw [hlisting, List.flatMap_map, ← hcount]
    refine List.flatMap_congr ?_
    intro i hi
    have hundefined : (placedAt lines i).undefined? (labels (place 0 lines)) =
        (Source.ofText source).undefinedAt? i :=
      Reads.undefined?_eq (lookup_eq_labelValue? hreads.reads hcount) (hreads.reads i)
    have hentry : (Image.ofLines name lines).entries.getD i "" =
        Listing.entry (labels (place 0 lines)) (i + 1) (placedAt lines i) := by
      rw [hentries, List.getD_eq_getElem?_getD, List.getElem?_map,
        List.getElem?_range (List.mem_range.mp hi)]
      rfl
    rw [← hundefined, hentry]
    rfl
  · refine ⟨(List.range lines.length).map fun i =>
      (placedAt lines i).shown (labels (place 0 lines)) (i + 1), ?_, ?_, ?_⟩
    · rw [hentries, List.map_map, List.map_map]
      refine List.map_congr_left ?_
      intro i hi
      exact read?_entry _ (by have := List.mem_range.mp hi; omega) _
    · rw [List.map_map, ← hcount, List.range'_eq_map_range]
      exact List.map_congr_left fun i _ => Nat.add_comm i 1
    · intro a ha
      rw [wordAt_shown _ _ _ a ha, ← place_eq_map, Image.getElem?_numbers _ a ha]
      rfl

/-- Labels with zeros in front, a comment like a word, an undefined label, a run of code over the end of
    memory, and a word that a later line overwrites. -/
theorem overwritten_listing_shows_image :
    let source := "$007 ldi a ; D05\n ORG FF\n JMP $9\n LDI 0b\n$1 ; JMP $1\nORG 00\nSTA %IX\nbnz $1".toList
    (Lines.lines source).length < 100000 ∧
      ∃ image, assemble "demo" source = .ok image ∧ image.Listed (Source.ofText source) := by
  intro source
  have hlength : (Lines.lines source).length < 100000 := by decide
  obtain ⟨image, himage⟩ := @exists_image "demo" source (by decide)
  exact ⟨hlength, image, himage, listing_shows_image hlength himage⟩

end Microcore.Assembly
