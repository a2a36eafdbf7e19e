import Delimited.Archive.StateCode
import Delimited.Archive.Stretch

set_option autoImplicit false
set_option relaxedAutoImplicit false

/-!
# Registers

The bits of a block are read from their end through a register of eight bytes. After the last of them
come those of the register again. Whether there were enough bits is asked later, if at all: a sequence
for which there are too few may be refused for another reason first, and literals may even pass.

## Main definitions

* `Delimited.Zstd.Register` — the bits that are left, and those that come again after them.
* `Delimited.Zstd.Register.next`, `Delimited.Zstd.Register.skip` — a look ahead and a step.
* `Delimited.Zstd.RegisterReader` — readers that do not fail.
* `Delimited.Zstd.Register.first`, `Delimited.Zstd.Register.after`, `Delimited.Zstd.Register.scaled` —
  the reading of states and of numbers.
-/

namespace Delimited.Zstd

/-- Bits that are read from the end of their bytes. The highest one in the last byte is a mark above
the first bit to be read. -/
def backward? (bits : Bits) : Option Bits :=
  let fromEnd := bits.reverse
  let zeros := (fromEnd.takeWhile (· = false)).length
  match fromEnd.drop zeros with
  | _ :: rest => if zeros < 8 then some rest else none
  | [] => none

/-- Bits that are read through a **register**. -/
structure Register where
  /-- The bits that are left. -/
  left : Bits
  /-- The bits that come again after them. -/
  again : Bits
  /-- Whether more bits were read than there are. -/
  isSpent : Bool

namespace Register

/-- The number of bits in a register. -/
def width : Nat := 64

/-- The register for bits of which these are left. -/
def start (bits left : Bits) : Register :=
  ⟨left, ((bits.take width).rightpad width false).reverse, false⟩

/-- The register for bits that are read from their end. -/
def ofBits? (bits : Bits) : Option Register :=
  (backward? bits).map (start bits)

/-- The register for bits that are read from their end, all of them if there is no mark. -/
def ofBits (bits : Bits) : Register :=
  start bits ((backward? bits).getD bits.reverse)

/-- Whether all bits were read, and no more. -/
def isUsedUp (r : Register) : Bool :=
  r.left.isEmpty && !r.isSpent

/-- How many of the next bits are missing. -/
def missing (r : Register) (count : Nat) : Nat :=
  count - (r.left.take count).length

/-- The next bits. Where some are missing they are zero, and where all are missing the others come
again. -/
def next (r : Register) (count : Nat) : Bits :=
  if r.left.isEmpty then r.again.take count else (r.left.take count).rightpad count false

/-- The next bits. Where some are missing, only as many of those that come again count. -/
def nextWhole (r : Register) (count : Nat) : Bits :=
  match r.missing count with
  | 0 => r.left.take count
  | n + 1 => r.again.take (n + 1)

/-- The register after the next bits. -/
def skip (r : Register) (count : Nat) : Register :=
  match r.missing count with
  | 0 => { r with left := r.left.drop count }
  | n + 1 => { r with left := r.again.drop (n + 1), isSpent := true }

end Register

/-! ## Reading -/

/-- A **reader** of a register. -/
abbrev RegisterReader := StateM Register

/-- The number that bits make up, the highest bit first. -/
def highNumberOf (bits : Bits) : Nat :=
  bits.foldl (fun high b => 2 * high + b.toNat) 0

namespace Register

/-- The **first state** of a code. -/
def first (code : StateCode) : RegisterReader CodeState := fun r =>
  (code.first (highNumberOf (r.nextWhole code.log)), r.skip code.log)

/-- The **state after** another one. -/
def after (code : StateCode) (state : CodeState) : RegisterReader CodeState := fun r =>
  (code.after state (highNumberOf (r.nextWhole state.bits)), r.skip state.bits)

/-- The **number** that a symbol of a scale and the bits after it stand for. -/
def scaled (scale : Scale) (symbol : Nat) : RegisterReader Nat := fun r =>
  let (extra, base) := scale.getD symbol (0, 0)
  (base + highNumberOf (r.next extra), r.skip extra)

end Register

end Delimited.Zstd
