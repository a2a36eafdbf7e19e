import Delimited.Archive.Directory
import Delimited.Compression

set_option autoImplicit false
set_option relaxedAutoImplicit false

/-!
# Libraries for archives

How an archive is written and read is left to a library. It writes one entry after another, each from
pieces of its bytes, and only a finished archive is one that can be read. Every call may fail.

## Main definitions

* `Delimited.Content` — what a file holds.
* `Delimited.ArchiveLibrary` — the calls of a library.
* `Delimited.ArchiveLibrary.keeping` — the library whose archives are known by their entries.
-/

namespace Delimited

/-- The **content** of a file. -/
inductive Content where
  | plain (bytes : Bytes)
  /-- An archive, known by its entries alone. -/
  | archive (entries : List Entry)
  deriving Repr

/-- The entries of the archive that some content is. -/
def Content.entries : Content → Except ArchiveFault (List Entry)
  | .plain bytes => Archive.entries bytes
  | .archive entries => .ok entries

/-- A **library for archives**. -/
structure ArchiveLibrary where
  /-- An archive that is being written. -/
  Writer : Type
  /-- A new archive in an empty file. Its entries are kept by the method with this number, at this
  level. -/
  create : (method level : Nat) → Except ArchiveFault Writer
  /-- Starts an entry with this name. -/
  startEntry : Text → Writer → Except ArchiveFault Unit × Writer
  /-- Adds bytes to the entry that was started last. -/
  writeData : Bytes → Writer → Except ArchiveFault Unit × Writer
  /-- Completes the archive. -/
  finish : Writer → Except ArchiveFault Unit × Writer
  /-- What the file of an archive holds. -/
  content : Writer → Content
  /-- The entries of the archive that some content is, in their order. -/
  entries : Content → Except ArchiveFault (List Entry)

namespace ArchiveLibrary

/-- An archive that is being written, with its entries so far. -/
structure Draft where
  /-- The number of the method by which entries are kept. -/
  method : Nat
  /-- The entries before the last one. -/
  earlier : List Entry
  /-- The last entry, if one was started: its name and its bytes so far. -/
  current : Option (Text × Array UInt8)

namespace Draft

/-- The entries so far. -/
def entries (d : Draft) : List Entry :=
  match d.current with
  | some (name, bytes) => d.earlier ++ [⟨name, d.method, .ok bytes.toList⟩]
  | none => d.earlier

/-- Adds bytes to the last entry. -/
def write (bytes : Bytes) (d : Draft) : Except ArchiveFault Unit × Draft :=
  match d.current with
  | some (name, before) =>
    (.ok (), { d with current := some (name, before ++ bytes.toArray) })
  | none => (.error (.other "no entry was started"), d)

end Draft

/-- The library that **keeps entries as they are**: its archives are known by their entries. Archives
that were not made by it are read as bytes. -/
def keeping : ArchiveLibrary where
  Writer := Draft
  create method _ := .ok ⟨method, [], none⟩
  startEntry name d := (.ok (), ⟨d.method, d.entries, some (name, #[])⟩)
  writeData := Draft.write
  finish d := (.ok (), d)
  content d := .archive d.entries
  entries := Content.entries

end ArchiveLibrary

end Delimited
