import Delimited.Archive.CheckSum
import Delimited.Archive.Zstd.Sequence

set_option autoImplicit false
set_option relaxedAutoImplicit false

/-!
# Zstandard content

Zstandard content is a sequence of frames, some of which are to be skipped. A frame has a header and
blocks. A block holds its bytes as they are, or one byte many times, or literals and sequences; it may
use the codes of the blocks before it.

A small frame that is all there is read at once. Any other one goes block by block through a ring of
bytes, whose size follows from the header. What is refused, and why, differs between the two.

## Main definitions

* `Delimited.Zstd.Header` — what a frame says about itself.
* `Delimited.Zstd.Memory` — what the blocks of a frame leave for those after them.
* `Delimited.Zstd.Delivery` — the two ways to read a frame.
* `Delimited.Zstd.block`, `Delimited.Zstd.frame` — the reading of a block and of a frame.
* `Delimited.Zstd.decompress` — the bytes that the content stands for.
-/

namespace Delimited.Zstd

/-! ## Headers -/

/-- The four bytes at which a frame starts. -/
def frameMark : Bytes := [0x28, 0xB5, 0x2F, 0xFD]

/-- The last three of the four bytes at which a frame to be skipped starts; the first one is any of
sixteen. -/
def skipMark : Bytes := [0x2A, 0x4D, 0x18]

/-- Whether content starts with a frame, or with a frame to be skipped, as far as it goes. -/
def startsFrame (content : Bytes) : Bool :=
  (content.take 4).isPrefixOf frameMark

/-- Whether content starts with a frame to be skipped, as far as it goes. -/
def startsSkipped (content : Bytes) : Bool :=
  match content with
  | [] => true
  | b :: bs => b.toNat / 16 = 5 && (bs.take 3).isPrefixOf skipMark

/-- What a frame says about itself. -/
structure Header where
  /-- The number of bytes that the header takes. -/
  size : Nat
  window : Nat
  /-- The number of bytes that the frame stands for. -/
  contentSize : Option Nat
  dictionary : Nat
  hasCheckSum : Bool
  deriving DecidableEq, Repr

namespace Header

/-- The greatest exponent of a window that has a meaning. -/
def windowLogLimit : Nat := 31

/-- The greatest window for which there is memory. -/
def windowLimit : Nat := (1 <<< 27) + 1

/-- The window by its byte in the header. -/
def windowOf (b : Nat) : Nat :=
  let base := 1 <<< (b / 8 + 10)
  base + base / 8 * (b % 8)

/-- Reads the header at the start of a frame. -/
def read (content : Bytes) : Except Fault Header := do
  let number (start count : Nat) : Nat := numberOf ((content.drop start).take count)
  let d := number 4 1
  let isSingle : Bool := d / 32 % 2 = 1
  let windowSize := if isSingle then 0 else 1
  let dictionarySize := [0, 1, 2, 4].getD (d % 4) 0
  let contentSizeSize := [isSingle.toNat, 2, 4, 8].getD (d / 64) 0
  let size := 5 + windowSize + dictionarySize + contentSizeSize
  if content.length < size then throw .incomplete
  if d / 8 % 2 = 1 then throw .unknownParameter
  if !isSingle && windowLogLimit < number 5 1 / 8 + 10 then throw .windowTooLarge
  let stated := number (5 + windowSize + dictionarySize) contentSizeSize
  let contentSize :=
    match contentSizeSize with
    | 0 => none
    | 2 => some (stated + 256)
    | _ => some stated
  return {
    size := size
    window := if isSingle then contentSize.getD 0 else windowOf (number 5 1)
    contentSize := contentSize
    dictionary := number (5 + windowSize) dictionarySize
    hasCheckSum := d / 4 % 2 = 1 }

/-- The greatest number of bytes in a block. -/
def blockLimit (h : Header) : Nat := min h.window (1 <<< 17)

end Header

/-! ## Blocks -/

/-- **What the blocks of a frame leave** for those after them. -/
structure Memory where
  out : Array UInt8
  literalCode : Option LiteralCode
  sequenceCodes : Option SequenceCodes
  recent : Recent
  /-- The place in the ring where the next block goes. -/
  place : Nat

/-- The memory before the first block. -/
def Memory.start : Memory := ⟨#[], none, none, .start, 0⟩

/-- The two **ways to read a frame**. -/
inductive Delivery where
  /-- At once. -/
  | whole
  /-- Block by block through a ring of this size. -/
  | ring (size : Nat)
  deriving DecidableEq, Repr

namespace Delivery

/-- The greatest number of bytes that are read at once. -/
def wholeLimit : Nat := 8192

/-- The room for the next block. -/
def room (delivery : Delivery) (memory : Memory) : Nat :=
  match delivery with
  | .whole => wholeLimit - memory.out.size
  | .ring size => size - memory.place

/-- The memory with further bytes. In a ring that is smaller than the frame a block goes back to the
start if there might be no room for it. -/
def push (delivery : Delivery) (h : Header) (memory : Memory) (out : Array UInt8) : Memory :=
  let place := memory.place + (out.size - memory.out.size)
  let goesBack :=
    match delivery with
    | .whole => false
    | .ring size => (h.contentSize.all (size < ·)) && size < place + h.blockLimit
  { memory with out := out, place := if goesBack && out.size ≠ memory.out.size then 0 else place }

end Delivery

/-- The memory after a block of literals and sequences. Read at once, the literals may stand behind the
room for the block, and so bound it. -/
def compressedBlock (delivery : Delivery) (h : Header) (memory : Memory) (content : Bytes) :
    Except Fault Memory := do
  let room := delivery.room memory
  if h.blockLimit < content.length then throw .wrongSize
  let literals ← Literals.read memory.literalCode h.blockLimit room content
  let sequences ← SequenceSection.read memory.sequenceCodes (content.drop literals.size)
  if room = 0 ∧ sequences.count ≠ 0 then throw .noRoom
  let bound := h.blockLimit + Literals.margin
  let isBounded := delivery = .whole && !literals.isInPlace &&
    bound + literals.found.length + Literals.margin < room
  let (out, recent) ← sequences.follow (if isBounded then bound else room) memory.out memory.recent
    literals.found
  return { delivery.push h memory out with
    literalCode := literals.code
    sequenceCodes := sequences.codes
    recent := recent }

/-- The first bytes and those after them. Content that has fewer ends in the middle of a frame. -/
def cut (count : Nat) (content : Bytes) : Except Fault (Bytes × Bytes) :=
  if count ≤ content.length then .ok (content.take count, content.drop count)
  else .error .incomplete

/-- The start of a block: a bit that tells whether it is the last one, two bits for its kind, and a
size. -/
structure BlockStart where
  isLast : Bool
  kind : Nat
  size : Nat

namespace BlockStart

/-- Reads the start of a block, of which there is what comes after it. -/
def read (content : Bytes) : Except Fault (BlockStart × Bytes) := do
  let (bytes, content) ← cut 3 content
  let head := numberOf bytes
  if head / 2 % 4 = 3 then throw .corrupt
  return (⟨head % 2 = 1, head / 2 % 4, head / 8⟩, content)

/-- The number of bytes in the block. One byte stands for all where it comes many times. -/
def kept (start : BlockStart) : Nat :=
  if start.kind = 1 then 1 else start.size

end BlockStart

/-- Whether blocks end within the content, of which at most so many come first, with the check sum
after them. -/
def isComplete (hasCheckSum : Bool) : Nat → Bytes → Bool
  | 0, _ => false
  | n + 1, content =>
    match BlockStart.read content with
    | .error _ => false
    | .ok (start, content) =>
      if content.length < start.kept then false
      else
        let content := content.drop start.kept
        if start.isLast then !hasCheckSum || 4 ≤ content.length
        else isComplete hasCheckSum n content

/-- The memory after a **block**, and what comes after it. -/
def block (delivery : Delivery) (h : Header) (memory : Memory) (start : BlockStart)
    (content : Bytes) : Except Fault (Memory × Bytes) := do
  let room := delivery.room memory
  let isRing := delivery ≠ .whole
  if isRing && h.blockLimit < start.kept then throw .corrupt
  if isRing && start.kept = 0 then return (memory, content)
  if start.kind = 0 ∧ room < min start.size content.length then throw .noRoom
  let (bytes, content) ← cut start.kept content
  if start.kind = 1 ∧ room < start.size then throw .noRoom
  let next ←
    match start.kind with
    | 0 => pure (delivery.push h memory (memory.out ++ bytes))
    | 1 =>
      pure (delivery.push h memory (memory.out ++ Array.replicate start.size (bytes.headD 0)))
    | _ => compressedBlock delivery h memory bytes
  if isRing && h.blockLimit < next.out.size - memory.out.size then throw .corrupt
  return (next, content)

/-- The memory after the blocks of a frame, and what comes after them, with at most so many blocks. The
number of bytes has to be the one in the header; in a ring it is not looked at after an empty last
block. -/
def blocks (delivery : Delivery) (h : Header) : Nat → Memory → Bytes →
    Except Fault (Array UInt8 × Bytes)
  | 0, _, _ => .error .incomplete
  | n + 1, memory, content => do
    let (start, content) ← BlockStart.read content
    let (memory, content) ← block delivery h memory start content
    if start.isLast then
      let isChecked := delivery = .whole || start.kept ≠ 0
      if isChecked && h.contentSize.any (· ≠ memory.out.size) then throw .corrupt
      return (memory.out, content)
    else blocks delivery h n memory content

/-! ## Frames -/

/-- The sizes of the memory for a block and of the ring, which later frames use again. -/
structure Buffers where
  block : Nat
  ring : Nat

/-- The buffers with at least the sizes for a frame. -/
def Buffers.fit (b : Buffers) (h : Header) : Buffers :=
  let window := max h.window 1024
  let needed := window + 2 * h.blockLimit + 2 * Literals.margin
  let block := max h.blockLimit 4
  let ring := h.contentSize.elim needed (min needed)
  if b.block < block ∨ b.ring < ring then ⟨block, ring⟩ else b

/-- What comes after a frame: its check sum, if there is one, has to be the one of its bytes. -/
def afterCheckSum (h : Header) (out : Array UInt8) (content : Bytes) : Except Fault Bytes :=
  if h.hasCheckSum then do
    let (bytes, content) ← cut 4 content
    if numberOf bytes = (CheckSum.ofBytes out).toNat % (1 <<< 32) then return content
    else throw .wrongCheckSum
  else .ok content

/-- The bytes of a frame, the buffers after it, and what comes after it. -/
def frame (buffers : Buffers) (content : Bytes) : Except Fault (Array UInt8 × Buffers × Bytes) := do
  let h ← Header.read content
  let content := content.drop h.size
  let isWhole := h.contentSize.any (· ≤ Delivery.wholeLimit) &&
    isComplete h.hasCheckSum content.length content
  if h.dictionary ≠ 0 then throw .wrongDictionary
  if !isWhole && Header.windowLimit < h.window then throw .windowTooLarge
  let buffers := if isWhole then buffers else buffers.fit h
  let delivery := if isWhole then Delivery.whole else .ring buffers.ring
  let (out, content) ← blocks delivery h (content.length + 1) .start content
  return (out, buffers, ← afterCheckSum h out content)

/-- What comes after a frame to be skipped, and the buffers after it. It has its size after its mark. -/
def skipped (buffers : Buffers) (content : Bytes) : Except Fault (Buffers × Bytes) := do
  let (head, content) ← cut 8 content
  let size := numberOf (head.drop 4)
  let (_, content) ← cut size content
  return (buffers.fit ⟨8, 0, some size, 0, false⟩, content)

/-- The bytes after those in `out`, frame after frame, with at most so many frames. -/
def frames : Nat → Buffers → Array UInt8 → Bytes → Except Fault (Array UInt8)
  | 0, _, _, _ => .error .incomplete
  | n + 1, buffers, out, content =>
    if startsFrame content then
      if content.length < 5 then .error .incomplete
      else do
        let (found, buffers, content) ← frame buffers content
        if content = [] then return out ++ found else frames n buffers (out ++ found) content
    else if startsSkipped content then do
      let (buffers, content) ← skipped buffers content
      if content = [] then return out else frames n buffers out content
    else .error .unknownFrame

/-- The **bytes that the content stands for**. Every frame takes some of the content, so there are at
most as many frames as bytes. -/
def decompress (content : Bytes) : Except Fault Bytes :=
  (frames (content.length + 1) ⟨0, 0⟩ #[] content).map Array.toList

end Delimited.Zstd
