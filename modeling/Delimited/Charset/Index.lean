import Std.Data.HashMap
import Delimited.Charset.Codec

set_option autoImplicit false
set_option relaxedAutoImplicit false

/-!
# Character tables

A charset that has no arithmetic rule is given by a table: the character of each cell, the cells
being numbered by pointers. Decoding looks a pointer up, encoding looks for a pointer of a
character. A character may stand in several cells, so a table also says which of its cells may be
used for encoding.

## Main definitions

* `Delimited.Index` — a table that can be searched in both directions.
* `Delimited.Index.ofLines` — the table written as lines of characters.
* `Delimited.Index.char?`, `Delimited.Index.pointer?` — the two searches.
-/

namespace Delimited

/-- A **character table**. -/
structure Index where
  /-- The cells in pointer order. -/
  cells : Array Char
  /-- A cell for the code point of each character that can be encoded. -/
  pointers : Std.HashMap Nat Nat

namespace Index

/-- The mark of an unassigned cell. -/
def gap : Char := '.'

/-- The first cell of each character, from the pointer `p` on, among those that `usable` admits. -/
def firstCells (usable : Nat → Bool) :
    Nat → List Char → Std.HashMap Nat Nat → Std.HashMap Nat Nat
  | _, [], found => found
  | p, c :: cs, found =>
    firstCells usable (p + 1) cs
      (if c ≠ gap ∧ usable p then found.insertIfNew c.toNat p else found)

/-- The table whose cells are written one after another in `lines`. -/
def ofLines (lines : List String) (usable : Nat → Bool) : Index :=
  let cells := lines.flatMap String.toList
  { cells := cells.toArray, pointers := firstCells usable 0 cells ∅ }

/-- The character of a cell. -/
def char? (index : Index) (pointer : Nat) : Option Char :=
  index.cells[pointer]?.filter (· ≠ gap)

/-- The cell that encodes a character. -/
def pointer? (index : Index) (c : Char) : Option Nat :=
  index.pointers[c.toNat]?

end Index

end Delimited
