import Delimited.Archive.PrefixCode
import Delimited.Archive.Stretch

set_option autoImplicit false
set_option relaxedAutoImplicit false

/-!
# Deflated content

Deflated content is cut into blocks. A block holds its bytes as they are, or as symbols of a prefix
code: a symbol is a byte, the end of the block, or the length of a stretch that repeats earlier
bytes. How far back the stretch begins is a symbol of a second code. A block brings the lengths of
the code words of its two codes, packed with a third code, or it uses two codes that are known.

## Main definitions

* `Delimited.Deflate.Codes` — the two codes of a block, with `fixed` and `read`.
* `Delimited.Deflate.item`, `Delimited.Deflate.block` — a symbol and a block.
* `Delimited.Deflate.inflate` — the bytes that deflated content stands for.
-/

namespace Delimited.Deflate

open BitReader

/-! ## The codes of a block -/

/-- The **two codes of a block**. -/
structure Codes where
  /-- Bytes, the end of the block at 256, and the lengths of stretches from 257 on. -/
  symbols : PrefixCode
  distances : PrefixCode

/-- The codes of blocks that bring none. -/
def Codes.fixed : Codes where
  symbols := .ofLengths (List.replicate 144 8 ++ List.replicate 112 9 ++ List.replicate 24 7 ++
    List.replicate 8 8)
  distances := .ofLengths (List.replicate 32 5)

/-- The run of equal lengths that a symbol stands for: the length, and how often it comes again after
the first time. A run repeats the `last` length, or zero, or has the symbol as its length. -/
def lengthRun (last : Option Nat) : Nat → BitReader (Nat × Nat)
  | 16 => do return (← ofOption last, (← number 2) + 2)
  | 17 => do return (0, (← number 3) + 2)
  | 18 => do return (0, (← number 7) + 10)
  | symbol => pure (symbol, 0)

/-- The lengths of exactly `total` code words, the first of which are in `found`. -/
def lengths (code : PrefixCode) (total : Nat) (found : Array Nat) : BitReader (Array Nat) :=
  if found.size < total then do
    let (length, again) ← lengthRun found.back? (← code.symbol)
    lengths code total (found.push length ++ Array.replicate again length)
  else if found.size = total then pure found
  else malformed
termination_by total - found.size
decreasing_by simp; omega

/-- The order in which a block gives the lengths for the code of its lengths. -/
def lengthOrder : List Nat :=
  [16, 17, 18, 0, 8, 7, 9, 6, 10, 5, 11, 4, 12, 3, 13, 2, 14, 1, 15]

/-- The code for the lengths of code words, of which a block gives so many. -/
def lengthCode (count : Nat) : BitReader PrefixCode := do
  let given := lengthOrder.zip (← (number 3).times count)
  let code := PrefixCode.ofLengths ((List.range 19).map fun symbol => (given.lookup symbol).getD 0)
  if code.Complete then return code else malformed

/-- The codes that a block brings. -/
def Codes.read : BitReader Codes := do
  let symbolCount := (← number 5) + 257
  let distanceCount := (← number 5) + 1
  let givenCount := (← number 4) + 4
  if 286 < symbolCount ∨ 30 < distanceCount then malformed
  else
    let code ← lengthCode givenCount
    let all := (← lengths code (symbolCount + distanceCount) #[]).toList
    let codes : Codes := ⟨.ofLengths (all.take symbolCount), .ofLengths (all.drop symbolCount)⟩
    if codes.symbols.Proper ∧ codes.distances.Proper then return codes else malformed

/-! ## Blocks -/

/-- The lengths of stretches. -/
def lengthScale : Scale :=
  [(0, 3), (0, 4), (0, 5), (0, 6), (0, 7), (0, 8), (0, 9), (0, 10), (1, 11), (1, 13), (1, 15),
    (1, 17), (2, 19), (2, 23), (2, 27), (2, 31), (3, 35), (3, 43), (3, 51), (3, 59), (4, 67),
    (4, 83), (4, 99), (4, 115), (5, 131), (5, 163), (5, 195), (5, 227), (0, 258)]

/-- The distances from a stretch back to the bytes that it repeats. -/
def distanceScale : Scale :=
  [(0, 1), (0, 2), (0, 3), (0, 4), (1, 5), (1, 7), (2, 9), (2, 13), (3, 17), (3, 25), (4, 33),
    (4, 49), (5, 65), (5, 97), (6, 129), (6, 193), (7, 257), (7, 385), (8, 513), (8, 769),
    (9, 1025), (9, 1537), (10, 2049), (10, 3073), (11, 4097), (11, 6145), (12, 8193), (12, 12289),
    (13, 16385), (13, 24577)]

/-- The bytes after the next symbol, and whether that was the end of the block. -/
def item (codes : Codes) (out : Array UInt8) : BitReader (Array UInt8 × Bool) := do
  let symbol ← codes.symbols.symbol
  if symbol < 256 then return (out.push (UInt8.ofNat symbol), false)
  else if symbol = 256 then return (out, true)
  else
    let length ← lengthScale.read (symbol - 257)
    let distance ← distanceScale.read (← codes.distances.symbol)
    return (stretched distance length out, false)

/-- The size of a block that holds its bytes as they are. It starts at a byte, and is there twice, the
second time with all bits changed. -/
def plainSize : BitReader Nat := do
  align
  let size ← number 16
  let changed ← number 16
  if size + changed = 65535 then return size else malformed

/-- The bytes after a block of the kind with this number. -/
def blockBody (out : Array UInt8) : Nat → BitReader (Array UInt8)
  | 0 => do return out ++ (← bytes (← plainSize))
  | 1 => repeated (item .fixed) out
  | 2 => do repeated (item (← Codes.read)) out
  | _ => malformed

/-- The bytes after the next **block**, and whether it was the last one. -/
def block (out : Array UInt8) : BitReader (Array UInt8 × Bool) := do
  let isLast ← bit
  return (← blockBody out (← number 2), isLast)

/-- The **bytes that deflated content stands for**. What follows the last block is left out. -/
def inflate (content : Bytes) : Except BitFault Bytes :=
  (repeated block #[] (bitsOf content)).map fun (out, _) => out.toList

end Delimited.Deflate
