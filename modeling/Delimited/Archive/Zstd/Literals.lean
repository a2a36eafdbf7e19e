import Delimited.Archive.Zstd.Fault
import Delimited.Archive.Zstd.LiteralStream

set_option autoImplicit false
set_option relaxedAutoImplicit false

/-!
# Literals

A compressed block begins with its literals: bytes as they are, one byte many times, or symbols of a
prefix code. The code is given by weights, or it is the one of an earlier block. Symbols are read from
the end of their bytes towards the start, in one stream or in four.

## Main definitions

* `Delimited.Zstd.literalCode?` — the code with given weights.
* `Delimited.Zstd.weights` — the reader of weights.
* `Delimited.Zstd.Literals`, `Delimited.Zstd.Literals.read` — the literals of a block.
-/

namespace Delimited.Zstd

open BitReader

/-! ## The code -/

/-- The greatest weight, which is also the greatest length of a code word. -/
def weightLimit : Nat := 12

/-- The code of literals whose symbols have these weights: a symbol of weight zero has no code word,
and the greater the weight the shorter the code word. The weight of one more symbol makes the code
complete; at least two symbols have weight one. Read with all bits changed, the code words come in the
order of their lengths and of the greater symbol first. -/
def literalCode? (weights : List Nat) : Option PrefixCode :=
  let total := weights.foldl (fun total w => total + (1 <<< w) / 2) 0
  let longest := total.log2 + 1
  let last := ((1 <<< longest) - total).log2
  let all := weights ++ [last + 1]
  if total ≠ 0 ∧ 1 <<< last = (1 <<< longest) - total ∧ longest ≤ weightLimit ∧
      (∀ w ∈ weights, w ≤ weightLimit) ∧ 2 ≤ all.count 1 then
    let lengths := all.map fun w => if w = 0 then 0 else longest + 1 - w
    some ((PrefixCode.ofLengths lengths).map List.reverse)
  else none

/-- The greatest number of weights before the last two that are symbols of a state code. -/
def turnLimit : Nat := 254

/-- Weights that are symbols of a state code with two states by turns, of which there may be so many
before the last two. They end where there are too few bits for a further state. -/
def turns (code : StateCode) : Nat → CodeState → CodeState → BitReader (List Nat)
  | 0, _, _ => malformed
  | n + 1, a, b => do
    if (← get).length < a.bits then
      let _ ← rest
      return [a.symbol, b.symbol]
    else return a.symbol :: (← turns code n b (code.after a (← highNumber a.bits)))

/-- The weights of literals, with a code of their own or four bits for each. -/
def weights : BitReader (List Nat) := do
  let size ← number 8
  if size < 128 then
    let content ← bytes size
    ofOption (whole? (do
      let code ← StateCode.read 256 6
      let bits ← ofOption (backward? (← rest))
      let first := code.first <$> highNumber code.log
      ofOption (whole? (do turns code turnLimit (← first) (← first)) bits)) (bitsOf content))
  else
    let count := size - 127
    let pairs ← (number 8).times ((count + 1) / 2)
    return (pairs.flatMap fun b => [b / 16, b % 16]).take count

/-! ## Symbols -/

/-- So many literals as symbols of a code, which comes first unless it is known. All of it has so many
bytes. -/
def codedLiterals (known : Option LiteralCode) (isOneStream : Bool) (count size : Nat) :
    BitReader (Bytes × LiteralCode) := do
  let code ←
    match known with
    | some code => pure code
    | none => do
      let words ← ofOption (literalCode? (← weights))
      pure ⟨words, !isOneStream && LiteralCode.savesTime count size⟩
  let streams := if isOneStream then oneStream? else fourStreams?
  return (← ofOption (streams code count (← rest)), code)

/-! ## The section -/

/-- The **literals** of a block. -/
structure Literals where
  found : Bytes
  /-- The code for those of later blocks. -/
  code : Option LiteralCode
  /-- The number of bytes that they take in the block. -/
  size : Nat
  /-- Whether they are taken from where they stand in the block, because enough follows them. -/
  isInPlace : Bool

namespace Literals

/-- What has to follow literals that are taken from where they stand. -/
def margin : Nat := 32

/-- Checks the number of literals against what a block may have and against the room for it. -/
def checkCount (blockLimit room count : Nat) : Except Fault Unit :=
  if blockLimit < count then .error .corrupt
  else if room < count then .error .noRoom
  else .ok ()

/-- Literals that stand as they are, or of which one stands for all. -/
def readPlain (known : Option LiteralCode) (blockLimit room : Nat) (content : Bytes)
    (isRepeated : Bool) : Except Fault Literals := do
  let head := numberOf (content.take 3)
  let (headSize, count) :=
    match head / 4 % 4 with
    | 1 => (2, head % 65536 / 16)
    | 3 => (3, head / 16)
    | _ => (1, head % 256 / 8)
  if content.length < headSize + isRepeated.toNat then throw .corrupt
  checkCount blockLimit room count
  let size := headSize + if isRepeated then 1 else count
  let kept := (content.take size).drop headSize
  if content.length < size then throw .corrupt
  if isRepeated then return ⟨List.replicate count (kept.headD 0), known, size, false⟩
  else return ⟨kept, known, size, size + margin ≤ content.length⟩

/-- The least number of literals in four streams. -/
def fourStreamsLeast : Nat := 6

/-- Literals that are symbols of a code. -/
def readCoded (known : Option LiteralCode) (blockLimit room : Nat) (content : Bytes) :
    Except Fault Literals := do
  if content.length < 5 then throw .corrupt
  let head := numberOf (content.take 5)
  let form := head / 4 % 4
  let (width, headSize) :=
    match form with
    | 2 => (14, 4)
    | 3 => (18, 5)
    | _ => (10, 3)
  let count := (head >>> 4) % (1 <<< width)
  let kept := (head >>> (4 + width)) % (1 <<< width)
  if blockLimit < count then throw .corrupt
  if form ≠ 0 ∧ count < fourStreamsLeast then throw .wrongLiterals
  if content.length < headSize + kept then throw .corrupt
  if room < count then throw .noRoom
  match whole? (codedLiterals known (form = 0) count kept)
      (bitsOf ((content.drop headSize).take kept)) with
  | some (found, code) => return ⟨found, some code, headSize + kept, false⟩
  | none => throw .corrupt

/-- Reads the literals of a block with a limit, where there is so much room. -/
def read (known : Option LiteralCode) (blockLimit room : Nat) (content : Bytes) :
    Except Fault Literals :=
  if content.length < 2 then .error .corrupt
  else
    match numberOf (content.take 1) % 4 with
    | 0 => readPlain known blockLimit room content false
    | 1 => readPlain known blockLimit room content true
    | 2 => readCoded none blockLimit room content
    | _ =>
      match known with
      | some code => readCoded (some code) blockLimit room content
      | none => .error .noCode

end Literals

end Delimited.Zstd
