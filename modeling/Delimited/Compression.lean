import Delimited.Path

set_option autoImplicit false
set_option relaxedAutoImplicit false

/-!
# Compression by file name

The extension of a file name tells whether a path stands for a plain file or for an archive, and how
that archive is compressed.

## Main definitions

* `Delimited.Compression` — the compressions, each with its method and level.
* `Delimited.ArchiveForm` — the compression of an archive and the name of its entry.
* `Delimited.ArchiveForm.ofPath?` — the form of the archive that a path stands for.
-/

namespace Delimited

/-- A **compression** of archives. -/
inductive Compression where
  | zstd
  | deflate
  deriving DecidableEq, Repr

namespace Compression

/-- The name of a compression. -/
def name : Compression → String
  | .zstd => "Zstd"
  | .deflate => "Deflate"

/-- The number that archives have for the method of a compression. -/
def method : Compression → Nat
  | .zstd => 93
  | .deflate => 8

/-- The level of compression. -/
def level : Compression → Nat
  | .zstd => 3
  | .deflate => 6

/-- The compression for an extension in any case. -/
def ofExtension? (extension : Bytes) : Option Compression :=
  match (Utf8.text? extension).map fun text => String.ofList (text.map Char.toLower) with
  | some "zst" | some "zip" => some .zstd
  | some "gz" => some .deflate
  | _ => none

end Compression

/-- The **form of an archive**. -/
structure ArchiveForm where
  compression : Compression
  /-- The name of the entry that is written, and of the one that is looked for in reading. -/
  entry : Text
  deriving DecidableEq, Repr

namespace ArchiveForm

/-- The name of an entry for which the file name has none. -/
def defaultEntry : Text := ['d', 'a', 't', 'a']

/-- The name of the entry for a file name without its extension: that text, if it is one. -/
def entryName (stem : Bytes) : Text :=
  ((Utf8.text? stem).filter (· ≠ [])).getD defaultEntry

/-- The form of the archive with a file name, if that is the name of an archive. -/
def ofFileName? (name : Bytes) : Option ArchiveForm :=
  match Path.splitExtension name with
  | (stem, some extension) => (Compression.ofExtension? extension).map (⟨·, entryName stem⟩)
  | (_, none) => none

/-- The form of the archive that a path stands for, if it stands for one. -/
def ofPath? (path : Path) : Option ArchiveForm :=
  path.fileName?.bind ofFileName?

end ArchiveForm

end Delimited
