import Delimited.Text

set_option autoImplicit false
set_option relaxedAutoImplicit false

/-!
# Hex dumps

A dump shows a byte string in lines of sixteen bytes: the offset, the bytes as two-digit
hexadecimal cells with a wider gap in the middle, and the bytes as ASCII.

```text
00000000  48 65 6C 6C 6F 5E 7C 77  6F 72 6C 64              Hello^|world
```

## Main definitions

* `Delimited.HexDump.line` — one line of a dump.
* `Delimited.HexDump.render` — a whole dump.
-/

namespace Delimited.HexDump

/-- How many bytes one line shows. -/
def bytesPerLine : Nat := 16

/-- The upper-case hexadecimal digit of a number below sixteen. -/
def digit (n : Nat) : Char :=
  if n < 10 then Char.ofNat (0x30 + n) else Char.ofNat (0x41 + (n - 10))

/-- The hexadecimal digits of `n`, at least `width` of them. -/
def digits (width n : Nat) : Text :=
  let ds := (Nat.toDigits 16 n).map Char.toUpper
  List.replicate (width - ds.length) '0' ++ ds

/-- One cell of the hexadecimal column: two digits and a blank, or three blanks past the end. -/
def cell : Option UInt8 → Text
  | some b => [digit (b.toNat / 16), digit (b.toNat % 16), ' ']
  | none => [' ', ' ', ' ']

/-- A byte in the ASCII column; what ASCII cannot print is shown as a full stop. -/
def ascii (b : UInt8) : Char :=
  if 0x20 ≤ b && b ≤ 0x7E then Char.ofNat b.toNat else '.'

/-- The hexadecimal column: sixteen cells with one more blank after the eighth. -/
def cells (chunk : Bytes) : Text :=
  (List.range bytesPerLine).flatMap fun j => (if j = 8 then [' '] else []) ++ cell chunk[j]?

/-- One line: the offset, the hexadecimal column, the ASCII column and a line break. -/
def line (offset : Nat) (chunk : Bytes) : Text :=
  digits 8 offset ++ [' ', ' '] ++ cells chunk ++ [' '] ++ chunk.map ascii ++
    List.replicate (bytesPerLine - chunk.length) ' ' ++ ['\n']

/-- The lines of a dump whose first byte has the given offset. -/
def linesFrom (offset : Nat) (data : Bytes) : Text :=
  if _h : data = [] then []
  else
    line offset (data.take bytesPerLine) ++
      linesFrom (offset + bytesPerLine) (data.drop bytesPerLine)
termination_by data.length
decreasing_by
  have := List.length_pos_iff.2 _h
  simp only [List.length_drop, bytesPerLine]
  omega

/-- The **hex dump** of a byte string. -/
def render (data : Bytes) : Text :=
  linesFrom 0 data

end Delimited.HexDump
