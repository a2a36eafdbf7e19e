import Delimited.Text

set_option autoImplicit false
set_option relaxedAutoImplicit false

/-!
# Check sums

The 64-bit check sum of a byte string by the method XXH64 with seed zero. Every 32 bytes four words go
into four lanes; then the lanes are merged, and the bytes that are left go in one after another.

## Main definitions

* `Delimited.CheckSum.Lanes` — the four lanes.
* `Delimited.CheckSum.ofBytes` — the check sum of a byte string.
-/

namespace Delimited.CheckSum

/-- The first of five primes that words are multiplied with. -/
def prime1 : UInt64 := 0x9E3779B185EBCA87

/-- The second prime. -/
def prime2 : UInt64 := 0xC2B2AE3D27D4EB4F

/-- The third prime. -/
def prime3 : UInt64 := 0x165667B19E3779F9

/-- The fourth prime. -/
def prime4 : UInt64 := 0x85EBCA77C2B2AE63

/-- The fifth prime. -/
def prime5 : UInt64 := 0x27D4EB2F165667C5

/-- A word with its highest bits moved to its end. -/
def rotated (x count : UInt64) : UInt64 :=
  (x <<< count) ||| (x >>> (64 - count))

/-- A lane after a further word. -/
def mixed (lane word : UInt64) : UInt64 :=
  rotated (lane + word * prime2) 31 * prime1

/-- The word of so many bytes from a place on, the lowest byte first. -/
def word (bytes : Array UInt8) (start count : Nat) : UInt64 :=
  (List.range count).foldr (fun i high => (bytes.getD (start + i) 0).toUInt64 ||| (high <<< 8)) 0

/-- The four **lanes**. -/
structure Lanes where
  a : UInt64
  b : UInt64
  c : UInt64
  d : UInt64

namespace Lanes

/-- The lanes before the first word. -/
def start : Lanes := ⟨prime1 + prime2, prime2, 0, 0 - prime1⟩

/-- The lanes after 32 bytes from a place on. -/
def after (lanes : Lanes) (bytes : Array UInt8) (start : Nat) : Lanes where
  a := mixed lanes.a (word bytes start 8)
  b := mixed lanes.b (word bytes (start + 8) 8)
  c := mixed lanes.c (word bytes (start + 16) 8)
  d := mixed lanes.d (word bytes (start + 24) 8)

/-- The lanes made one. -/
def merged (lanes : Lanes) : UInt64 :=
  [lanes.a, lanes.b, lanes.c, lanes.d].foldl
    (fun sum lane => (sum ^^^ mixed 0 lane) * prime1 + prime4)
    (rotated lanes.a 1 + rotated lanes.b 7 + rotated lanes.c 12 + rotated lanes.d 18)

end Lanes

/-- A sum after the bytes from a place on, of which there are fewer than 32: words of eight bytes, then
a word of four, then single bytes. -/
def withRest (bytes : Array UInt8) (start : Nat) (sum : UInt64) : UInt64 :=
  let left := bytes.size - start
  let sum := (List.range (left / 8)).foldl (fun sum i =>
    rotated (sum ^^^ mixed 0 (word bytes (start + 8 * i) 8)) 27 * prime1 + prime4) sum
  let start := start + 8 * (left / 8)
  let hasFour := 4 ≤ left % 8
  let sum :=
    if hasFour then rotated (sum ^^^ (word bytes start 4 * prime1)) 23 * prime2 + prime3 else sum
  let start := if hasFour then start + 4 else start
  (List.range (left % 4)).foldl (fun sum i =>
    rotated (sum ^^^ (word bytes (start + i) 1 * prime5)) 11 * prime1) sum

/-- A sum in which every bit depends on all bits. -/
def avalanche (sum : UInt64) : UInt64 :=
  let sum := (sum ^^^ (sum >>> 33)) * prime2
  let sum := (sum ^^^ (sum >>> 29)) * prime3
  sum ^^^ (sum >>> 32)

/-- The **check sum** of a byte string. -/
def ofBytes (bytes : Array UInt8) : UInt64 :=
  let count := bytes.size / 32
  let lanes := (List.range count).foldl (fun lanes i => lanes.after bytes (32 * i)) Lanes.start
  let sum := if count = 0 then prime5 else lanes.merged
  avalanche (withRest bytes (32 * count) (sum + bytes.size.toUInt64))

end Delimited.CheckSum
