import Delimited.Archive.Bits

set_option autoImplicit false
set_option relaxedAutoImplicit false

/-!
# Prefix codes

A prefix code gives each symbol a code word, a string of bits with which no other code word begins.
The lengths of the code words fix the code: in the order of the strings a shorter one comes before a
longer one, and of equally long ones that of the smaller symbol comes first.

## Main definitions

* `Delimited.PrefixCode` — a prefix code, with `ofLengths`.
* `Delimited.PrefixCode.Complete`, `Delimited.PrefixCode.Proper` — whether the lengths fit.
* `Delimited.PrefixCode.begun` — how many strings go on to a code word.
* `Delimited.PrefixCode.symbol` — the reader of a symbol.
-/

namespace Delimited

/-- A **prefix code**: the symbols with code words of one bit, those with code words of two bits,
and so on, in the order of their code words. -/
abbrev PrefixCode := List (List Nat)

namespace PrefixCode

/-- The code of the symbols from zero on whose code words have these lengths. A symbol of length zero
has no code word. -/
def ofLengths (lengths : List Nat) : PrefixCode :=
  (List.range (lengths.foldl max 0)).map fun n =>
    lengths.zipIdx.filterMap fun (length, symbol) => if length = n + 1 then some symbol else none

/-- How many strings are left after the last level, where `free` are left before the first. At each
level a string goes on with either bit, and a code word takes one string. If there are too few, the
lengths fit no code. -/
def spare? : Nat → PrefixCode → Option Nat
  | free, [] => some free
  | free, level :: levels =>
    if level.length ≤ 2 * free then spare? (2 * free - level.length) levels else none

/-- In a **complete** code every string that is long enough begins with a code word. -/
def Complete (code : PrefixCode) : Prop := code.spare? 1 = some 0

/-- Whether a code is complete can be computed. -/
instance (code : PrefixCode) : Decidable code.Complete := by
  unfold Complete; infer_instance

/-- A **proper** code is complete, unless it has at most one symbol. -/
def Proper (code : PrefixCode) : Prop := code.Complete ∨ code.flatten.length ≤ 1

/-- So can whether it is proper. -/
instance (code : PrefixCode) : Decidable code.Proper := by
  unfold Proper; infer_instance

/-- How many strings the code words of all further levels begin with. -/
def begun : PrefixCode → Nat
  | [] => 0
  | level :: levels => (level.length + begun levels + 1) / 2

/-- The symbol of the code word at the start of some bits. So far the bits of a string were read that
begins with no code word, and `before` other such strings of its length come before it. There are too
few bits only if some code word goes on from them. -/
def symbolFrom : Nat → PrefixCode → Bits → Except BitFault (Nat × Bits)
  | before, level :: levels, b :: bits =>
    match level[2 * before + b.toNat]? with
    | some symbol => .ok (symbol, bits)
    | none => symbolFrom (2 * before + b.toNat - level.length) levels bits
  | before, levels, [] => .error (if before < begun levels then .ended else .malformed)
  | _, [], _ :: _ => .error .malformed

/-- The **symbol whose code word comes next**. -/
def symbol (code : PrefixCode) : BitReader Nat
  | [] => .error .ended
  | b :: bits => symbolFrom 0 code (b :: bits)

end PrefixCode

end Delimited
