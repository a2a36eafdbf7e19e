import Delimited.Archive.Bits

set_option autoImplicit false
set_option relaxedAutoImplicit false

/-!
# Repeated stretches

Compressed content names a stretch of bytes that was there before by its length and by the distance
back to it. Both are given as a symbol of a scale and further bits, the more of them the greater the
number.

## Main definitions

* `Delimited.Scale` — what the symbols for a number stand for.
* `Delimited.stretched` — bytes with a stretch of them repeated.
-/

namespace Delimited

/-- A **scale** tells for each symbol how many bits follow, and what is added to the number in
them. -/
abbrev Scale := List (Nat × Nat)

/-- The number that a symbol of a scale and the bits after it stand for. -/
def Scale.read (scale : Scale) (symbol : Nat) : BitReader Nat := do
  let (extra, base) ← .ofOption scale[symbol]?
  return base + (← .number extra)

/-- The bytes after a stretch of the given length that **repeats** those at a distance. Where there
are none, because the stretch begins before the first byte, they are zero. -/
def stretched (distance : Nat) : Nat → Array UInt8 → Array UInt8
  | 0, out => out
  | n + 1, out =>
    stretched distance n
      (out.push (if distance ≤ out.size then out.getD (out.size - distance) 0 else 0))

end Delimited
