import Delimited.Text

set_option autoImplicit false
set_option relaxedAutoImplicit false

/-!
# Reading bits

Compressed content is a sequence of bits. A reader takes some of them away from the front and gives
the value that they stand for. It fails if there are too few of them, or if they stand for nothing.

## Main definitions

* `Delimited.Bits`, `Delimited.bitsOf` — bits, and those of a byte string.
* `Delimited.numberOf` — the number in a byte string.
* `Delimited.BitFault`, `Delimited.BitReader` — readers, and why they fail.
* `Delimited.BitReader.number`, `Delimited.BitReader.bytes` — numbers and bytes.
* `Delimited.BitReader.iterate`, `Delimited.BitReader.repeated` — the repetition of a step.
* `Delimited.BitReader.whole?` — the value of all bits.
-/

namespace Delimited

/-- **Bits** in the order in which they are read. -/
abbrev Bits := List Bool

/-- The bits of a byte string, the lowest bit of each byte first. -/
def bitsOf (bytes : Bytes) : Bits :=
  bytes.flatMap fun b => (List.range 8).map fun i => b.toNat.testBit i

/-- The number in a byte string, the lowest byte first. -/
def numberOf (bytes : Bytes) : Nat :=
  bytes.foldr (fun b high => b.toNat + 256 * high) 0

/-- Why reading bits fails. -/
inductive BitFault where
  /-- There are too few bits. -/
  | ended
  /-- The bits stand for nothing. -/
  | malformed
  deriving DecidableEq, Repr

/-- A **reader** of bits gives a value and the bits after it, or fails. -/
abbrev BitReader := StateT Bits (Except BitFault)

namespace BitReader

variable {α σ : Type}

/-- The reader for which no bits stand for anything. -/
def malformed : BitReader α := fun _ => .error .malformed

/-- The value that there may be; without one the bits stand for nothing. -/
def ofOption : Option α → BitReader α
  | some value => pure value
  | none => malformed

/-- The next bit. -/
def bit : BitReader Bool
  | [] => .error .ended
  | b :: bits => .ok (b, bits)

/-- The number in the next `count` bits, the **lowest bit first**. -/
def number : Nat → BitReader Nat
  | 0 => pure 0
  | n + 1 => do
    let b ← bit
    return b.toNat + 2 * (← number n)

/-- The number in the next `count` bits, the **highest bit first**. -/
def highNumber : Nat → BitReader Nat
  | 0 => pure 0
  | n + 1 => do
    let b ← bit
    return (b.toNat <<< n) + (← highNumber n)

/-- A step on a state, so many times. -/
def iterate (step : σ → BitReader σ) : Nat → σ → BitReader σ
  | 0, state, bits => .ok (state, bits)
  | n + 1, state, bits =>
    match step state bits with
    | .ok (next, rest) => iterate step n next rest
    | .error fault => .error fault

/-- As many values as asked for, one after another. -/
def times (r : BitReader α) (count : Nat) : BitReader (List α) := do
  return (← iterate (fun found => found.push <$> r) count #[]).toList

/-- The next `count` bytes. -/
def bytes (count : Nat) : BitReader Bytes :=
  (UInt8.ofNat <$> number 8).times count

/-- A step on a state until it says that it was the last one, but at most so many times. -/
def repeatedUpTo (step : σ → BitReader (σ × Bool)) : Nat → σ → BitReader σ
  | 0, _, _ => .error .ended
  | n + 1, state, bits =>
    match step state bits with
    | .ok ((next, true), rest) => .ok (next, rest)
    | .ok ((next, false), rest) => repeatedUpTo step n next rest
    | .error fault => .error fault

/-- The **repetition of a step** on a state until it says that it was the last one. Since the step
takes at least one bit, there are no more repetitions than bits. -/
def repeated (step : σ → BitReader (σ × Bool)) (state : σ) : BitReader σ := do
  repeatedUpTo step (← get).length state

/-- Leaves out the bits up to the next one that starts a byte, where the last byte ends with the last
bit. -/
def align : BitReader Unit :=
  modify fun bits => bits.drop (bits.length % 8)

/-- All bits that are left. -/
def rest : BitReader Bits :=
  modifyGet fun bits => (bits, [])

/-- The value for which a reader uses all bits up. -/
def whole? (r : BitReader α) (bits : Bits) : Option α :=
  match r bits with
  | .ok (value, []) => some value
  | _ => none

end BitReader

end Delimited
