import Delimited.Archive.PrefixCode
import Delimited.Archive.Zstd.Register

set_option autoImplicit false
set_option relaxedAutoImplicit false

/-!
# Streams of literals

Literals that are symbols of a prefix code stand in one stream or in four, each of which is read from
its end towards its start. A look at the next bits shows one literal, or two at once if the code is read
in pairs. That is done where it saves time.

A stream has to be used up. But four long streams are read side by side, in rounds of five looks. They
may then end anywhere, except that after the last round none may have come to its start by a whole
byte.

## Main definitions

* `Delimited.Zstd.LiteralCode` — a code for literals.
* `Delimited.Zstd.LiteralCode.savesTime` — whether a code is read in pairs.
* `Delimited.Zstd.LiteralStream` — how far a stream was read.
* `Delimited.Zstd.oneStream?`, `Delimited.Zstd.fourStreams?` — the literals in streams.
-/

namespace Delimited.Zstd

/-! ## Codes -/

/-- A **code for literals**. -/
structure LiteralCode where
  /-- The code words, with all bits changed. -/
  words : PrefixCode
  /-- Whether a look may show two literals. -/
  isPaired : Bool

namespace LiteralCode

/-- The usual number of bits that are looked at. -/
def usualWidth : Nat := 11

/-- The number of bits that are looked at. -/
def width (code : LiteralCode) : Nat := max usualWidth code.words.length

/-- The literals that the next bits show, and the number of bits that they take. -/
def shown (code : LiteralCode) (bits : Bits) : Bytes × Nat :=
  match code.words.symbol (bits.map (!·)) with
  | .error _ => ([], 0)
  | .ok (a, rest) =>
    match code.words.symbol rest with
    | .ok (b, rest') =>
      if code.isPaired then ([UInt8.ofNat a, UInt8.ofNat b], bits.length - rest'.length)
      else ([UInt8.ofNat a], bits.length - rest.length)
    | .error _ => ([UInt8.ofNat a], bits.length - rest.length)

/-- What reading takes by the sixteenths that the size of the code and the streams is of the number of
literals: to begin with and for 256 literals, one at a time and in pairs. -/
def times : List ((Nat × Nat) × (Nat × Nat)) :=
  [((0, 0), (1, 1)), ((0, 0), (1, 1)), ((150, 216), (381, 119)), ((170, 205), (514, 112)),
    ((177, 199), (539, 110)), ((197, 194), (644, 107)), ((221, 192), (735, 107)),
    ((256, 189), (881, 106)), ((359, 188), (1167, 109)), ((582, 187), (1570, 114)),
    ((688, 187), (1712, 122)), ((825, 186), (1965, 136)), ((976, 185), (2131, 150)),
    ((1180, 186), (2070, 175)), ((1377, 185), (1731, 202)), ((1412, 185), (1695, 202))]

/-- Whether reading so many literals in pairs **saves time**, by a thirty-second at least. -/
def savesTime (count size : Nat) : Bool :=
  let (alone, paired) := times.getD (min (size * 16 / count) 15) default
  let timeAlone := alone.1 + alone.2 * (count / 256)
  let timePaired := paired.1 + paired.2 * (count / 256)
  timePaired + timePaired / 32 < timeAlone

end LiteralCode

/-! ## Streams -/

/-- **How far a stream was read**. -/
structure LiteralStream where
  /-- The number of bits in front of the stream that it could go on with. -/
  start : Nat
  /-- The number of literals in the stream. -/
  count : Nat
  register : Register
  found : Array UInt8

namespace LiteralStream

variable (code : LiteralCode)

/-- The stream after a look. -/
def step (s : LiteralStream) : LiteralStream :=
  let (literals, size) := code.shown (s.register.next code.width)
  { s with register := s.register.skip size, found := s.found ++ literals }

/-- The stream after the look for its last literal. If two literals are shown, the second one may go
beyond the end of the bits. -/
def lastStep (s : LiteralStream) : LiteralStream :=
  let (literals, size) := code.shown (s.register.next code.width)
  let size := if literals.length = 2 then size - s.register.missing size else size
  { s with register := s.register.skip size, found := s.found ++ literals.take 1 }

/-- The stream with all its literals, for which so many looks are enough. -/
def filled : Nat → LiteralStream → LiteralStream
  | 0, s => s
  | n + 1, s =>
    if s.found.size + 2 ≤ s.count then filled n (s.step code)
    else if s.found.size < s.count then s.lastStep code
    else s

/-- The number of looks in a round. -/
def roundSize : Nat := 5

/-- Whether there may be a round: there is room for all literals that it may show, and of the first
stream more than fourteen bytes are left with what is in front of it. -/
def mayGoOn (streams : List LiteralStream) : Bool :=
  let most := roundSize * if code.isPaired then 2 else 1
  streams.all (fun s => s.found.size + most ≤ s.count) &&
    streams.head?.any fun s => !(s.register.left.drop (8 * 14)).isEmpty

/-- The streams after all rounds, of which there are at most so many. -/
def rounds : Nat → List LiteralStream → List LiteralStream
  | 0, streams => streams
  | n + 1, streams =>
    if mayGoOn code streams then
      rounds n (streams.map fun s => (List.range roundSize).foldl (fun s _ => s.step code) s)
    else streams

/-- Whether less than a byte was read from what is in front of the stream. -/
def isWithin (s : LiteralStream) : Bool :=
  s.start < s.register.left.length + 8 && !s.register.isSpent

end LiteralStream

/-- So many literals in **one stream**. -/
def oneStream? (code : LiteralCode) (count : Nat) (bits : Bits) : Option Bytes := do
  let register ← Register.ofBits? bits
  let s := LiteralStream.filled code count ⟨0, count, register, #[]⟩
  guard s.register.isUsedUp
  return s.found.toList

/-- The number of bits in a stream that is long enough for rounds. -/
def longStream : Nat := 64

/-- So many literals in **four streams**, of which the first three have their sizes in front, and all
have as many literals but the last. -/
def fourStreams? (code : LiteralCode) (count : Nat) (bits : Bits) : Option Bytes := do
  let (sizes, _) ← ((BitReader.number 16).times 3 bits).toOption
  let ends := (sizes.foldl (fun ends size => (ends.headD 0 + 8 * size) :: ends) [48]).reverse
  let spans := ends.zip (ends.drop 1 ++ [bits.length])
  guard (spans.all fun (start, stop) => start ≤ stop)
  let part := (count + 3) / 4
  let counts := [part, part, part, count - 3 * part]
  let isLong := code.width = LiteralCode.usualWidth && 3 * part < count &&
    spans.all fun (start, stop) => start + longStream ≤ stop
  if isLong then
    let streams := LiteralStream.rounds code count ((spans.zip counts).map
      fun ((start, stop), count) => ⟨start, count, .ofBits (bits.take stop), #[]⟩)
    guard (streams.all LiteralStream.isWithin)
    return streams.flatMap fun s => (s.filled code s.count).found.toList
  else
    let found ← (spans.zip counts).mapM fun ((start, stop), count) =>
      oneStream? code count ((bits.take stop).drop start)
    return found.flatten

end Delimited.Zstd
