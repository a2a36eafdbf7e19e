import Delimited.Archive.Deflate
import Delimited.Archive.Zstd.Frame
import Delimited.Charset.Unicode
import Delimited.Compression
import Delimited.Error

set_option autoImplicit false
set_option relaxedAutoImplicit false

/-!
# The directory of an archive

The entries of an archive stand one after another, each behind a header of its own. After them comes
a directory, which tells for each entry where it starts, and last an end record, which tells where
the directory starts. All numbers have their lowest byte first. The content of an entry is what the
directory says about it; the header before it only tells where the content begins.

A number that is too great for its bytes is not stated there. It has eight bytes in another place: in
a wide record before the end record, or in the extra fields of a listing.

## Main definitions

* `Delimited.Entry` — an entry of an archive, with its content or why that cannot be read.
* `Delimited.Archive.Listing` — an entry as the directory has it.
* `Delimited.Archive.listings`, `Delimited.Archive.extract` — the directory, and what it leads to.
* `Delimited.Archive.entries` — the entries of an archive.
* `Delimited.Archive.ofStored` — the archive with these entries, kept as they are.
-/

namespace Delimited

/-- An **entry** of an archive. -/
structure Entry where
  name : Text
  /-- The number of the method by which the content is kept. -/
  method : Nat
  /-- The content, or why it cannot be read. -/
  content : Except ArchiveFault Bytes
  deriving Repr

namespace Archive

/-! ## Reading -/

/-- The four bytes at which the end record starts. -/
def endMark : Bytes := [0x50, 0x4B, 0x05, 0x06]

/-- The four bytes at which a listing in the directory starts. -/
def listingMark : Bytes := [0x50, 0x4B, 0x01, 0x02]

/-- The four bytes at which an entry starts. -/
def entryMark : Bytes := [0x50, 0x4B, 0x03, 0x04]

/-- So many bytes from a place on. -/
def slice (archive : Bytes) (start count : Nat) : Except ArchiveFault Bytes :=
  let found := (archive.drop start).take count
  if found.length = count then .ok found else .error (.inaccessible .endedEarly)

/-- The number in so many bytes from a place on. -/
def number (archive : Bytes) (start count : Nat) : Except ArchiveFault Nat :=
  (slice archive start count).map numberOf

/-- The bytes from the last place on where `mark` stands, or else what was found before. -/
def fromLast (mark : Bytes) (found : Option Bytes) : Bytes → Option Bytes
  | [] => found
  | b :: bs => fromLast mark (if mark.isPrefixOf (b :: bs) then some (b :: bs) else found) bs

/-- The greatest size of an end record, with the comment that it may close with. -/
def endRecordLimit : Nat := 22 + 65535

/-- The end record, and what follows it. -/
def endRecord? (archive : Bytes) : Option Bytes :=
  fromLast endMark none (archive.drop (archive.length - endRecordLimit))

/-- The greatest number in so many bytes, which says that a number is not stated in them. -/
def unstated (count : Nat) : Nat := (1 <<< (8 * count)) - 1

/-- An entry **as the directory has it**. -/
structure Listing where
  name : Text
  /-- The number of the method by which the content is kept. -/
  method : Nat
  /-- The number of bytes that are kept. -/
  size : Nat
  /-- The place where the entry starts. -/
  start : Nat
  deriving DecidableEq, Repr

/-- The extra fields of a listing: a number of two bytes tells what a field is for, another one how many
bytes it has. -/
def extraFields : Bytes → List (Nat × Bytes)
  | a :: b :: c :: d :: bytes =>
    let size := numberOf [c, d]
    if size ≤ bytes.length then
      (numberOf [a, b], bytes.take size) :: extraFields (bytes.drop size)
    else []
  | _ => []
termination_by bytes => bytes.length
decreasing_by simp only [List.length_drop, List.length_cons]; omega

/-- Numbers of four bytes, where those that are not stated come one after another in eight bytes each. -/
def widened : List Nat → Bytes → List Nat
  | [], _ => []
  | n :: numbers, wide =>
    if n = unstated 4 ∧ 8 ≤ wide.length then numberOf (wide.take 8) :: widened numbers (wide.drop 8)
    else n :: widened numbers wide

/-- What the extra field for wide numbers is marked with. -/
def wideField : Nat := 1

/-- The listings from a place on, up to `count` of them. What is no listing ends them. -/
def listingsFrom (archive : Bytes) : Nat → Nat → Except ArchiveFault (List Listing)
  | 0, _ => .ok []
  | count + 1, place => do
    if (← slice archive place 4) ≠ listingMark then return []
    let method ← number archive (place + 10) 2
    let size ← number archive (place + 20) 4
    let contentSize ← number archive (place + 24) 4
    let nameSize ← number archive (place + 28) 2
    let extraSize ← number archive (place + 30) 2
    let commentSize ← number archive (place + 32) 2
    let start ← number archive (place + 42) 4
    let name ← slice archive (place + 46) nameSize
    let extra ← slice archive (place + 46 + nameSize) extraSize
    let others ← listingsFrom archive count (place + 46 + nameSize + extraSize + commentSize)
    let wide := ((extraFields extra).lookup wideField).getD []
    let numbers := widened [contentSize, size, start] wide
    return ⟨Utf8.decoder.decode name, method, numbers.getD 1 size, numbers.getD 2 start⟩ :: others

/-- The four bytes at which a wide record starts. -/
def wideMark : Bytes := [0x50, 0x4B, 0x06, 0x06]

/-- The four bytes at which what tells the place of a wide record starts. -/
def wideLocatorMark : Bytes := [0x50, 0x4B, 0x06, 0x07]

/-- The number of listings and their place by the wide record. What tells its place comes somewhere
before the end record, which has so many bytes with all that follows it. -/
def wideRecord (archive : Bytes) (endSize : Nat) : Except ArchiveFault (Nat × Nat) := do
  let endPlace := archive.length - endSize
  match fromLast wideLocatorMark none ((archive.take endPlace).drop (endPlace - endRecordLimit)) with
  | none => throw .noWideLocator
  | some locator =>
    let record ← number archive (endPlace - locator.length + 8) 8
    if (← slice archive record 4) ≠ wideMark then throw .misplacedWideRecord
    return (← number archive (record + 32) 8, ← number archive (record + 48) 8)

/-- The **directory** of an archive. -/
def listings (archive : Bytes) : Except ArchiveFault (List Listing) :=
  match endRecord? archive with
  | none => .error .notAnArchive
  | some record => do
    let count ← number record 10 2
    let size ← number record 12 4
    let place ← number record 16 4
    let isWide : Bool := count = unstated 2 ∨ size = unstated 4 ∨ place = unstated 4
    let (count, place) ← if isWide then wideRecord archive record.length else pure (count, place)
    listingsFrom archive count place

/-- The **content that a listing leads to**. -/
def extract (archive : Bytes) (listing : Listing) : Except ArchiveFault Bytes := do
  if (← slice archive listing.start 4) ≠ entryMark then throw .misplacedEntry
  let nameSize ← number archive (listing.start + 26) 2
  let extraSize ← number archive (listing.start + 28) 2
  let kept ← slice archive (listing.start + 30 + nameSize + extraSize) listing.size
  match listing.method with
  | 0 => return kept
  | 8 =>
    match Deflate.inflate kept with
    | .ok content => return content
    | .error .ended => throw (.inaccessible .incompleteDeflate)
    | .error .malformed => throw (.inaccessible .corruptDeflate)
  | 93 => (Zstd.decompress kept).mapError fun fault => .inaccessible ⟨fault.message⟩
  | code => throw (.unknownMethod code)

/-- The **entries of an archive** in the order of the directory. -/
def entries (archive : Bytes) : Except ArchiveFault (List Entry) :=
  (listings archive).map (·.map fun l => ⟨l.name, l.method, extract archive l⟩)

/-! ## Writing -/

/-- The bytes of a number. -/
def numberBytes (count value : Nat) : Bytes :=
  (List.range count).map fun i => UInt8.ofNat (value >>> (8 * i))

/-- A file to be kept as it is: its name and its content. -/
abbrev Stored := Text × Bytes

/-- What the header of an entry and its listing have in common: the version 2.0, no flags, the method
of keeping content as it is, no time and no check sum, the two sizes, and the size of the name. -/
def commonFields (name content : Bytes) : Bytes :=
  numberBytes 2 20 ++ List.replicate 12 0 ++ numberBytes 4 content.length ++
    numberBytes 4 content.length ++ numberBytes 2 name.length

/-- An entry with its header. -/
def entryBytes : Stored → Bytes
  | (name, content) =>
    entryMark ++ commonFields (utf8Bytes name) content ++ numberBytes 2 0 ++ utf8Bytes name ++ content

/-- The listing of an entry that starts at a place. -/
def listingBytes (start : Nat) : Stored → Bytes
  | (name, content) =>
    listingMark ++ numberBytes 2 20 ++ commonFields (utf8Bytes name) content ++
      List.replicate 12 0 ++ numberBytes 4 start ++ utf8Bytes name

/-- The directory of entries of which the first starts at a place. -/
def directoryBytes : Nat → List Stored → Bytes
  | _, [] => []
  | start, file :: files =>
    listingBytes start file ++ directoryBytes (start + (entryBytes file).length) files

/-- The **archive that stores files** as they are. -/
def ofStored (files : List Stored) : Bytes :=
  let kept := files.flatMap entryBytes
  let directory := directoryBytes 0 files
  kept ++ directory ++ endMark ++ numberBytes 4 0 ++ numberBytes 2 files.length ++
    numberBytes 2 files.length ++ numberBytes 4 directory.length ++ numberBytes 4 kept.length ++
    numberBytes 2 0

end Archive

end Delimited
