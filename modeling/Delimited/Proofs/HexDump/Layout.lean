import Delimited.HexDump
import Delimited.Proofs.Escape.Syntax
import Mathlib.Algebra.Group.Nat.Defs

set_option autoImplicit false
set_option relaxedAutoImplicit false

/-!
# The layout of hex dumps

All lines of a dump have the same layout, also the last one, which may show fewer bytes. So a dump
can be read by columns: the offset, the cells and the text of each byte stand where the number of
the line and the place in the line say, and the cells alone give back all bytes.

## Main definitions

* `Delimited.HexDump.lines`, `Delimited.HexDump.cellAt` — the lines of a dump, and their cells.
* `Delimited.HexDump.read?` — the bytes that the cells of a dump write.
* `Delimited.HexDump.Shows` — what stands in the text column.
* `Delimited.HexDump.IsLine` — the line of a dump with a given number.

## Main results

* `Delimited.HexDump.lines_render` — the lines of a dump show sixteen bytes each.
* `Delimited.HexDump.cellAt_body`, `Delimited.HexDump.shows_body` — the columns of a line.
* `Delimited.HexDump.render_layout` — the layout of a dump, which loses no byte.
-/

namespace Delimited.HexDump

open Escape

/-! ## Reading by columns -/

/-- The **lines** of a text in which each of them ends with a line break. -/
def lines (text : Text) : List Text :=
  (text.splitOn '\n').dropLast

/-- The column in which a cell begins. Before the ninth there is a gap of one more column. -/
def cellColumn (j : Nat) : Nat :=
  10 + 3 * j + if 8 ≤ j then 1 else 0

/-- The two characters of a **cell**. -/
def cellAt (text : Text) (j : Nat) : Text :=
  (text.drop (cellColumn j)).take 2

/-- The cells of a line that are not blank. -/
def filledCells (text : Text) : List Text :=
  ((List.range 16).map (cellAt text)).filter (· ≠ [' ', ' '])

/-- The byte that a cell writes with two hexadecimal digits. -/
def readCell? : Text → Option UInt8
  | [a, b] => (hexNumber? [a, b]).map UInt8.ofNat
  | _ => none

/-- The **bytes of a dump**, as its cells write them. There are none if a cell that is not blank
does not hold two digits. -/
def read? (dump : Text) : Option Bytes :=
  ((lines dump).flatMap filledCells).mapM readCell?

/-- A character in the text column **shows** a byte, or that there is none. -/
inductive Shows : Char → Option UInt8 → Prop
  | printable {c : Char} {b : UInt8} (hb : 0x20 ≤ b.toNat ∧ b.toNat ≤ 0x7E)
      (h : c.toNat = b.toNat) : Shows c (some b)
  | other {b : UInt8} (hb : ¬(0x20 ≤ b.toNat ∧ b.toNat ≤ 0x7E)) : Shows '.' (some b)
  | blank : Shows ' ' none

/-- A text is **the line with number `i`** of a dump of `data`, counted from zero: 76 characters, of
which eight capital hexadecimal digits at the front write the place of the first byte and sixteen at
the end show the bytes, with blanks past the end of the data. -/
structure IsLine (data : Bytes) (i : Nat) (l : Text) : Prop where
  length_eq : l.length = 76
  offset_capital : l.take 8 ⊆ capitalDigits
  offset_eq : hexNumber? (l.take 8) = some (16 * i)
  shows : ∀ j < 16, ∃ c, l[60 + j]? = some c ∧ Shows c data[16 * i + j]?

/-! ## Digits -/

/-- A further digit at the end of a number. -/
theorem hexNumber?_concat (ds : Text) (c : Char) :
    hexNumber? (ds ++ [c]) =
      (hexNumber? ds).bind fun n => (hexDigit? c).map (16 * n + ·) := by
  simp [hexNumber?, List.foldlM_append]

/-- Zeros before a number do not change it. -/
theorem hexNumber?_replicate_append (k : Nat) (ds : Text) :
    hexNumber? (List.replicate k '0' ++ ds) = hexNumber? ds := by
  induction k with
  | zero => rfl
  | succ k ih => rw [List.replicate_succ, List.cons_append, hexNumber?_zero_cons, ih]

/-- A number is written with its capital digits. -/
theorem capitals_toDigits (n : Nat) :
    (Nat.toDigits 16 n).map Char.toUpper ⊆ capitalDigits ∧
      hexNumber? ((Nat.toDigits 16 n).map Char.toUpper) = some n := by
  have hdigit : ∀ k < 16, k.digitChar.toUpper ∈ capitalDigits ∧
      hexDigit? k.digitChar.toUpper = some k := by
    decide
  induction n using Nat.strongRecOn with
  | _ n ih =>
    rw [Nat.toDigits_eq_if (by decide)]
    split
    · next hlt =>
      obtain ⟨hmem, hvalue⟩ := hdigit n hlt
      refine ⟨List.cons_subset.2 ⟨hmem, List.nil_subset _⟩, ?_⟩
      simp [hexNumber?, hvalue]
    · next hge =>
      obtain ⟨hsubset, hnumber⟩ := ih (n / 16) (by omega)
      obtain ⟨hmem, hvalue⟩ := hdigit (n % 16) (Nat.mod_lt _ (by decide))
      rw [List.map_append, List.map_singleton, hexNumber?_concat, hnumber]
      refine ⟨List.append_subset.2 ⟨hsubset, List.cons_subset.2 ⟨hmem, List.nil_subset _⟩⟩, ?_⟩
      rw [Option.bind_some, hvalue, Option.map_some, Nat.div_add_mod]

/-- **The digits of a number** are capital ones. -/
theorem digits_subset (width n : Nat) : digits width n ⊆ capitalDigits :=
  List.append_subset.2 ⟨fun c hc => by rw [List.eq_of_mem_replicate hc]; decide,
    (capitals_toDigits n).1⟩

/-- They write the number. -/
theorem hexNumber?_digits (width n : Nat) : hexNumber? (digits width n) = some n :=
  (hexNumber?_replicate_append _ _).trans (capitals_toDigits n).2

/-- There are as many as asked for, if so many are enough. -/
theorem length_digits {width n : Nat} (hwidth : 0 < width) (h : n < 16 ^ width) :
    (digits width n).length = width := by
  have hle : (Nat.toDigits 16 n).length ≤ width :=
    (Nat.length_toDigits_le_iff (by decide) hwidth).2 h
  simp only [digits, List.length_append, List.length_replicate, List.length_map]
  omega

/-- The digits that are printed are capitals. -/
theorem digit_mem : ∀ n < 16, digit n ∈ capitalDigits := by
  decide

/-- A printed digit is read back. -/
theorem hexDigit?_digit : ∀ n < 16, hexDigit? (digit n) = some n := by
  decide

/-! ## The columns of a line -/

/-- A line without its line break. -/
def body (offset : Nat) (chunk : Bytes) : Text :=
  digits 8 offset ++ [' ', ' '] ++ cells chunk ++ [' '] ++ chunk.map ascii ++
    List.replicate (bytesPerLine - chunk.length) ' '

/-- The cell of a byte without the blank after it. -/
def pair (b : UInt8) : Text :=
  [digit (b.toNat / 16), digit (b.toNat % 16)]

/-- The two digits of a byte are read back. -/
theorem readCell?_pair (b : UInt8) : readCell? (pair b) = some b := by
  have hb := b.toNat_lt
  have hhigh := hexDigit?_digit (b.toNat / 16) (by omega)
  have hlow := hexDigit?_digit (b.toNat % 16) (by omega)
  simp only [pair, readCell?, hexNumber?, List.foldlM_cons, List.foldlM_nil, hhigh, hlow]
  simp [Nat.div_add_mod]

/-- The cell of a byte has capital digits. -/
theorem pair_subset (b : UInt8) : pair b ⊆ capitalDigits := by
  have hb := b.toNat_lt
  have hhigh := digit_mem (b.toNat / 16) (by omega)
  have hlow := digit_mem (b.toNat % 16) (by omega)
  exact List.cons_subset.2 ⟨hhigh, List.cons_subset.2 ⟨hlow, List.nil_subset _⟩⟩

/-- The cell of a byte is its two digits and a blank. -/
theorem cell_some (b : UInt8) : cell (some b) = pair b ++ [' '] := rfl

/-- Each cell is three characters wide. -/
theorem length_cell (b : Option UInt8) : (cell b).length = 3 := by
  cases b <;> rfl

/-- A cell with the gap before it, if there is one. -/
def gappedCell (chunk : Bytes) (j : Nat) : Text :=
  (if j = 8 then [' '] else []) ++ cell chunk[j]?

/-- The cells of a line, with the gap among them. -/
theorem cells_eq (chunk : Bytes) : cells chunk = (List.range 16).flatMap (gappedCell chunk) := rfl

/-- The width of the cells before a place. -/
theorem length_flatMap_gappedCell (chunk : Bytes) (j : Nat) :
    ((List.range j).flatMap (gappedCell chunk)).length = 3 * j + if 8 < j then 1 else 0 := by
  induction j with
  | zero => rfl
  | succ j ih =>
    rw [List.range_succ, List.flatMap_append, List.length_append, ih, List.flatMap_singleton,
      gappedCell, List.length_append, length_cell]
    split_ifs <;> simp only [List.length_singleton, List.length_nil] <;> omega

/-- The cells of a line are 49 characters, the gap included. -/
theorem length_cells (chunk : Bytes) : (cells chunk).length = 49 :=
  length_flatMap_gappedCell chunk 16

/-- What stands before a cell and after it. -/
theorem cells_eq_append (chunk : Bytes) {j : Nat} (hj : j < 16) :
    ∃ before after, cells chunk = before ++ (cell chunk[j]? ++ after) ∧
      before.length = 3 * j + if 8 ≤ j then 1 else 0 := by
  obtain ⟨m, hm⟩ : ∃ m, 16 = j + (m + 1) := ⟨15 - j, by omega⟩
  have hsplit : cells chunk =
      (List.range j).flatMap (gappedCell chunk) ++ (if j = 8 then [' '] else []) ++
        (cell chunk[j]? ++
          (((List.range m).map Nat.succ).map (j + ·)).flatMap (gappedCell chunk)) := by
    rw [cells_eq, hm, List.range_add, List.range_succ_eq_map, List.map_cons,
      List.flatMap_append, List.flatMap_cons, Nat.add_zero, gappedCell]
    simp only [List.append_assoc]
  refine ⟨_, _, hsplit, ?_⟩
  rw [List.length_append, length_flatMap_gappedCell]
  split_ifs <;> simp only [List.length_singleton, List.length_nil] <;> omega

/-- A character of the text column shows its byte. -/
theorem shows_ascii (b : UInt8) : Shows (ascii b) (some b) := by
  have hrange : (0x20 ≤ b && b ≤ 0x7E) = true ↔ 0x20 ≤ b.toNat ∧ b.toNat ≤ 0x7E := by
    rw [Bool.and_eq_true, decide_eq_true_iff, decide_eq_true_iff, UInt8.le_iff_toNat_le,
      UInt8.le_iff_toNat_le]
    rfl
  rw [ascii]
  split
  · next h =>
    obtain ⟨hlow, hhigh⟩ := hrange.1 h
    refine .printable ⟨hlow, hhigh⟩ ?_
    have hvalid : b.toNat.isValidChar := Or.inl (by omega)
    rw [Char.ofNat, dif_pos hvalid]
    rfl
  · next h => exact .other fun hb => h (hrange.2 hb)

section Body

variable {offset : Nat} {chunk : Bytes}

/-- **A line is 76 characters long**, if its offset has at most eight digits. -/
theorem length_body (hoffset : offset < 16 ^ 8) (hchunk : chunk.length ≤ 16) :
    (body offset chunk).length = 76 := by
  simp only [body, List.length_append, length_digits (by decide) hoffset, length_cells,
    List.length_map, List.length_replicate, bytesPerLine, List.length_cons, List.length_nil]
  omega

/-- A line starts with its offset. -/
theorem take_body (hoffset : offset < 16 ^ 8) (chunk : Bytes) :
    (body offset chunk).take 8 = digits 8 offset := by
  simp only [body, List.append_assoc]
  exact List.take_left' (length_digits (by decide) hoffset)

/-- **A cell** of a line. -/
theorem cellAt_body (hoffset : offset < 16 ^ 8) (chunk : Bytes) {j : Nat} (hj : j < 16) :
    cellAt (body offset chunk) j = (cell chunk[j]?).take 2 := by
  obtain ⟨before, after, hcells, hbefore⟩ := cells_eq_append chunk hj
  have hbody : body offset chunk =
      (digits 8 offset ++ [' ', ' '] ++ before) ++ (cell chunk[j]? ++ (after ++ ([' '] ++
        (chunk.map ascii ++ List.replicate (bytesPerLine - chunk.length) ' ')))) := by
    rw [body, hcells]
    simp only [List.append_assoc]
  have hlength : (digits 8 offset ++ [' ', ' '] ++ before).length = cellColumn j := by
    simp only [List.length_append, length_digits (by decide) hoffset, hbefore, cellColumn,
      List.length_cons, List.length_nil, Nat.add_assoc]
    omega
  rw [cellAt, hbody, List.drop_left' hlength, List.take_append_of_le_length]
  rw [length_cell]
  decide

/-- **The text column** of a line. -/
theorem shows_body (hoffset : offset < 16 ^ 8) (hchunk : chunk.length ≤ 16) {j : Nat}
    (hj : j < 16) : ∃ c, (body offset chunk)[60 + j]? = some c ∧ Shows c chunk[j]? := by
  have hlength : (digits 8 offset ++ [' ', ' '] ++ cells chunk ++ [' ']).length = 60 := by
    simp only [List.length_append, length_digits (by decide) hoffset, length_cells,
      List.length_cons, List.length_nil]
  have htext : (body offset chunk)[60 + j]? =
      (chunk.map ascii ++ List.replicate (bytesPerLine - chunk.length) ' ')[j]? := by
    rw [body, List.append_assoc _ (chunk.map ascii), ← hlength,
      List.getElem?_append_right (Nat.le_add_right _ _), Nat.add_sub_cancel_left]
  rw [htext]
  rcases Nat.lt_or_ge j chunk.length with h | h
  · rw [List.getElem?_append_left (by rwa [List.length_map]), List.getElem?_map,
      List.getElem?_eq_getElem h]
    exact ⟨_, rfl, shows_ascii _⟩
  · rw [List.getElem?_append_right (by rwa [List.length_map]), List.length_map,
      List.getElem?_replicate_of_lt (by rw [bytesPerLine]; omega), List.getElem?_eq_none h]
    exact ⟨_, rfl, .blank⟩

/-- A cell starts with the digits of its byte. -/
theorem take_cell (b : UInt8) : (cell (some b)).take 2 = pair b := rfl

/-- No digit is a blank. -/
theorem pair_ne_blank (b : UInt8) : pair b ≠ [' ', ' '] := by
  intro h
  have hblank := pair_subset b
  rw [h] at hblank
  revert hblank
  decide

/-- The cells of some bytes, and blank ones after them. -/
theorem filter_cells (m : Nat) (chunk : Bytes) (h : chunk.length ≤ m) :
    ((List.range m).map fun j => (cell chunk[j]?).take 2).filter (· ≠ [' ', ' ']) =
      chunk.map pair := by
  induction m generalizing chunk with
  | zero =>
    rw [List.eq_nil_of_length_eq_zero (Nat.le_zero.1 h)]
    rfl
  | succ m ih =>
    rw [List.range_succ_eq_map, List.map_cons, List.map_map]
    cases chunk with
    | nil =>
      rw [List.filter_cons_of_neg (by decide)]
      exact ih [] (Nat.zero_le m)
    | cons b bs =>
      have hrest := ih bs (Nat.le_of_succ_le_succ h)
      rw [List.filter_cons_of_pos (by simpa [take_cell] using pair_ne_blank b), List.map_cons]
      exact congrArg (pair b :: ·) hrest

/-- **The cells of a line** that are not blank are those of its bytes. -/
theorem filledCells_body (hoffset : offset < 16 ^ 8) (hchunk : chunk.length ≤ 16) :
    filledCells (body offset chunk) = chunk.map pair := by
  have hcells : (List.range 16).map (cellAt (body offset chunk)) =
      (List.range 16).map fun j => (cell chunk[j]?).take 2 :=
    List.map_congr_left fun j hj => cellAt_body hoffset chunk (List.mem_range.1 hj)
  rw [filledCells, hcells, filter_cells 16 chunk hchunk]

end Body

/-! ## Line breaks -/

/-- Digits have no newline among them. -/
theorem newline_not_mem_digits (width n : Nat) : '\n' ∉ digits width n := by
  intro h
  have hcapital := digits_subset width n h
  revert hcapital
  decide

/-- Nor have the cells. -/
theorem newline_not_mem_cells (chunk : Bytes) : '\n' ∉ cells chunk := by
  intro h
  rw [cells_eq] at h
  obtain ⟨j, -, hj⟩ := List.mem_flatMap.1 h
  rcases List.mem_append.1 hj with hgap | hcell
  · split_ifs at hgap
    · exact absurd hgap (by decide)
    · cases hgap
  · cases hb : chunk[j]? with
    | none =>
      rw [hb] at hcell
      exact absurd hcell (by decide)
    | some b =>
      rw [hb, cell_some] at hcell
      rcases List.mem_append.1 hcell with hdigit | hblank
      · exact absurd (pair_subset b hdigit) (by decide)
      · exact absurd hblank (by decide)

/-- Nor is a newline shown for any byte. -/
theorem ascii_ne_newline (b : UInt8) : ascii b ≠ '\n' := by
  intro hb
  have hshows := shows_ascii b
  rw [hb] at hshows
  cases hshows with
  | printable hrange h =>
    have hvalue : '\n'.toNat = 10 := rfl
    omega

/-- **A line has no line break** inside. -/
theorem newline_not_mem_body (offset : Nat) (chunk : Bytes) : '\n' ∉ body offset chunk := by
  simp only [body, List.mem_append, not_or]
  refine ⟨⟨⟨⟨⟨newline_not_mem_digits _ _, by decide⟩, newline_not_mem_cells chunk⟩, by decide⟩,
    fun h => ?_⟩, fun h => ?_⟩
  · obtain ⟨b, -, hb⟩ := List.mem_map.1 h
    exact ascii_ne_newline b hb
  · exact absurd (List.eq_of_mem_replicate h) (by decide)

/-! ## The lines of a dump -/

/-- Lines that were put together are found again. -/
theorem lines_flatMap {ls : List Text} (h : ∀ l ∈ ls, '\n' ∉ l) :
    lines (ls.flatMap (· ++ ['\n'])) = ls := by
  have hsplit : (ls.flatMap (· ++ ['\n'])).splitOn '\n' = ls ++ [[]] := by
    induction ls with
    | nil => rfl
    | cons l ls ih =>
      rw [List.forall_mem_cons] at h
      rw [List.flatMap_cons, List.append_assoc, List.singleton_append,
        List.splitOn_append_cons_self_of_not_mem h.1, ih h.2]
      rfl
  rw [lines, hsplit, List.dropLast_concat]

/-- The bytes that a line shows. -/
def chunkAt (data : Bytes) (i : Nat) : Bytes :=
  (data.drop (16 * i)).take 16

/-- The first line has the first sixteen bytes. -/
theorem chunkAt_zero (data : Bytes) : chunkAt data 0 = data.take 16 := rfl

/-- The other lines are those of the other bytes. -/
theorem chunkAt_succ (data : Bytes) (i : Nat) :
    chunkAt data (i + 1) = chunkAt (data.drop 16) i := by
  rw [chunkAt, chunkAt, List.drop_drop, Nat.mul_succ, Nat.add_comm]

/-- No line has more than sixteen bytes. -/
theorem length_chunkAt_le (data : Bytes) (i : Nat) : (chunkAt data i).length ≤ 16 :=
  List.length_take_le _ _

/-- The bytes of a line by their place in the data. -/
theorem getElem?_chunkAt (data : Bytes) (i : Nat) {j : Nat} (hj : j < 16) :
    (chunkAt data i)[j]? = data[16 * i + j]? := by
  rw [chunkAt, List.getElem?_take_of_lt hj, List.getElem?_drop]

/-- The lines together show all bytes. -/
theorem flatMap_chunkAt {data : Bytes} {k : Nat} (h : data.length ≤ 16 * k) :
    (List.range k).flatMap (chunkAt data) = data := by
  induction k generalizing data with
  | zero => rw [List.eq_nil_of_length_eq_zero (Nat.le_zero.1 h)]; rfl
  | succ k ih =>
    have hrest : (data.drop 16).length ≤ 16 * k := by
      rw [List.length_drop]
      omega
    rw [List.range_succ_eq_map, List.flatMap_cons, List.flatMap_map, chunkAt_zero]
    simp only [Nat.succ_eq_add_one, chunkAt_succ]
    rw [ih hrest, List.take_append_drop]

/-- A dump **line by line**. -/
theorem linesFrom_eq (offset : Nat) (data : Bytes) :
    linesFrom offset data = ((List.range ((data.length + 15) / 16)).map fun i =>
      body (offset + 16 * i) (chunkAt data i)).flatMap (· ++ ['\n']) := by
  fun_induction linesFrom offset data with
  | case1 offset => rfl
  | case2 offset data h ih =>
    have hpos := List.length_pos_iff.2 h
    have hcount : (data.length + 15) / 16 = ((data.drop 16).length + 15) / 16 + 1 := by
      rw [List.length_drop]
      omega
    have hnext : ∀ i, offset + 16 * Nat.succ i = offset + bytesPerLine + 16 * i := by
      intro i
      rw [bytesPerLine]
      omega
    rw [hcount, List.range_succ_eq_map, List.map_cons, List.flatMap_cons, List.map_map, ih]
    simp only [Function.comp_def, hnext, Nat.succ_eq_add_one, chunkAt_succ]
    rfl

/-- **The lines of a dump** show sixteen bytes each, with their offset. -/
theorem lines_render (data : Bytes) :
    lines (render data) = (List.range ((data.length + 15) / 16)).map fun i =>
      body (16 * i) (chunkAt data i) := by
  rw [render, linesFrom_eq, lines_flatMap]
  · simp only [Nat.zero_add]
  · intro l hl
    obtain ⟨i, -, rfl⟩ := List.mem_map.1 hl
    exact newline_not_mem_body _ _

/-- Reading the cells of all lines gives **all bytes**. -/
theorem read?_render {data : Bytes} (h : data.length ≤ 2 ^ 32) :
    read? (render data) = some data := by
  have hcells : (lines (render data)).flatMap filledCells = data.map pair := by
    have hline : ∀ i ∈ List.range ((data.length + 15) / 16),
        filledCells (body (16 * i) (chunkAt data i)) = (chunkAt data i).map pair := by
      intro i hi
      have hi := List.mem_range.1 hi
      exact filledCells_body (by omega) (length_chunkAt_le data i)
    rw [lines_render, List.flatMap_map, List.flatMap_def, List.map_congr_left hline,
      ← List.flatMap_def, ← List.map_flatMap, flatMap_chunkAt (by omega)]
  rw [read?, hcells, List.mapM_map]
  have hread : readCell? ∘ pair = some := funext readCell?_pair
  rw [hread]
  exact List.mapM_pure.trans (congrArg some (List.map_id data))

/-- **Each line of a dump** is as it should be. -/
theorem isLine_body {data : Bytes} {i : Nat} (hoffset : 16 * i < 16 ^ 8) :
    IsLine data i (body (16 * i) (chunkAt data i)) where
  length_eq := length_body hoffset (length_chunkAt_le data i)
  offset_capital := by
    rw [take_body hoffset]
    exact digits_subset _ _
  offset_eq := by
    rw [take_body hoffset]
    exact hexNumber?_digits _ _
  shows j hj := by
    rw [← getElem?_chunkAt data i hj]
    exact shows_body hoffset (length_chunkAt_le data i) hj

/-- **The layout of a dump** of at most `2 ^ 32` bytes. It is made of lines with a line break after
each, one for each sixteen bytes begun. All lines have the same columns, and the cells alone give
back all bytes.

**Proof sketch.** A dump is its lines put together, and splitting it at the line breaks finds them
again, since there is none inside. Line `i` starts at byte `16 * i`, which is less than `2 ^ 32` and
has eight digits, so its columns are where they should be. -/
theorem render_layout (data : Bytes) (h : data.length ≤ 2 ^ 32) :
    render data = (lines (render data)).flatMap (· ++ ['\n']) ∧
      (lines (render data)).length = (data.length + 15) / 16 ∧
      (∀ i l, (lines (render data))[i]? = some l → IsLine data i l) ∧
      read? (render data) = some data := by
  have hlines := lines_render data
  refine ⟨?_, ?_, fun i l hl => ?_, read?_render h⟩
  · rw [hlines, render, linesFrom_eq]
    simp only [Nat.zero_add]
  · rw [hlines, List.length_map, List.length_range]
  · rw [hlines, List.getElem?_map, Option.map_eq_some_iff] at hl
    obtain ⟨k, hk, rfl⟩ := hl
    obtain ⟨hi, hk⟩ := List.getElem?_eq_some_iff.1 hk
    rw [List.length_range] at hi
    obtain rfl : i = k := (List.getElem_range _).symm.trans hk
    exact isLine_body (by omega)

/-- The last line may show a single byte. -/
theorem render_layout_single_byte :
    let data : Bytes := List.replicate 16 0x41 ++ [0x0A]
    data.length ≤ 2 ^ 32 ∧ (lines (render data)).length = 2 ∧
      (∀ i l, (lines (render data))[i]? = some l → IsLine data i l) ∧
      read? (render data) = some data := by
  intro data
  have h : data.length ≤ 2 ^ 32 := by decide
  obtain ⟨-, hcount, hlines, hread⟩ := render_layout data h
  exact ⟨h, hcount.trans (by decide), hlines, hread⟩

/-- A dump of three bytes. -/
example : String.ofList (render [0x48, 0x69, 0x0A]) =
    "00000000  48 69 0A                                          Hi.             \n" := by
  cbv

end Delimited.HexDump
