import Delimited.Escape
import Delimited.Path

set_option autoImplicit false
set_option relaxedAutoImplicit false

/-!
# What can go wrong

Every failure is a value that names its cause; its wording is given in one place.

## Main definitions

* `Delimited.IoFault` — a failure of a byte stream or of the file system.
* `Delimited.Error` — the causes for which configuring or running a conversion fails.
* `Delimited.Error.message` — the wording of an error.
* `Delimited.Error.during` — an error with the phase of the run in which it occurred.
* `Delimited.Error.isValidation` — whether the input data is at fault.
-/

namespace Delimited

/-- A failure of a byte stream or of the file system, known by its wording. -/
structure IoFault where
  message : String
  deriving DecidableEq, Repr, Inhabited

namespace IoFault

/-- The fault of a destination that takes no more bytes. -/
def notAllWritten : IoFault := ⟨"failed to write whole buffer"⟩

/-- The fault of a path that leads nowhere. -/
def notFound : IoFault := ⟨"No such file or directory (os error 2)"⟩

/-- The fault of a path that goes on after a plain file. -/
def notADirectory : IoFault := ⟨"Not a directory (os error 20)"⟩

/-- The fault of a directory that is used as a file. -/
def isADirectory : IoFault := ⟨"Is a directory (os error 21)"⟩

/-- The fault of a path, or of a name in it, that has too many bytes. -/
def nameTooLong : IoFault := ⟨"File name too long (os error 36)"⟩

/-- The fault of a path with a NUL in it. -/
def nulInPath : IoFault := ⟨"file name contained an unexpected NUL byte"⟩

/-- The fault of writing into an archive after that was finished. -/
def archiveFinished : IoFault := ⟨"archive already finished"⟩

/-- The fault of content that stops where more has to follow. -/
def endedEarly : IoFault := ⟨"failed to fill whole buffer"⟩

/-- The fault of deflated content that stands for nothing. -/
def corruptDeflate : IoFault := ⟨"corrupt deflate stream"⟩

/-- The fault of deflated content that stops before its end. -/
def incompleteDeflate : IoFault := ⟨"incomplete deflate stream"⟩

end IoFault

/-- The stages of a run. -/
inductive Phase where
  /-- Leading rows are discarded. -/
  | skip
  /-- The header is copied. -/
  | header
  /-- Data rows are converted. -/
  | data
  /-- The output is completed. -/
  | finish
  deriving DecidableEq, Repr, Inhabited

/-- The name of a phase. -/
def Phase.name : Phase → String
  | .skip => "skip"
  | .header => "header"
  | .data => "data"
  | .finish => "finish"

/-- The place of a row: the header, or a data row by its number from one. -/
inductive RowLocation where
  | header
  | data (number : Nat)
  deriving DecidableEq, Repr, Inhabited

/-- The wording of a row's place. -/
def RowLocation.name : RowLocation → String
  | .header => "header row"
  | .data n => s!"data row {n}"

/-- The two directions of a conversion. -/
inductive Side where
  | input
  | output
  deriving DecidableEq, Repr, Inhabited

/-- The name of a direction. -/
def Side.name : Side → String
  | .input => "input"
  | .output => "output"

/-- The two kinds of delimiter. -/
inductive DelimiterRole where
  | column
  | row
  deriving DecidableEq, Repr, Inhabited

/-- The name of a kind of delimiter. -/
def DelimiterRole.name : DelimiterRole → String
  | .column => "column delimiter"
  | .row => "row delimiter"

/-- Settings with which no run can start. -/
inductive ConfigFault where
  /-- A delimiter is empty. -/
  | emptyDelimiter (side : Side) (role : DelimiterRole)
  /-- The fixed width is zero. -/
  | zeroWidth
  /-- The setting for the quote stands for this text, which is not one character. -/
  | quoteLength (given : Text)
  /-- The setting for a delimiter stands for no text. -/
  | emptySetting (what : String)
  /-- Any other reason. -/
  | other (reason : String)
  deriving DecidableEq, Repr, Inhabited

/-- The wording of a fault in the settings. -/
def ConfigFault.message : ConfigFault → String
  | .emptyDelimiter side role => s!"{side.name} {role.name} must not be empty"
  | .zeroWidth => "fixed width must be greater than zero"
  | .quoteLength given =>
    "quote must be exactly one character after unescape, got '" ++
      String.ofList (Escape.printable given) ++ "'"
  | .emptySetting what => s!"{what} must not be empty after unescape"
  | .other reason => reason

/-- Reasons for which a file cannot be used as an archive. -/
inductive ArchiveFault where
  /-- The file cannot be read or made. -/
  | inaccessible (fault : IoFault)
  /-- The content has no archive directory. -/
  | notAnArchive
  /-- A number is not stated, and nothing tells where the record for it is. -/
  | noWideLocator
  /-- No record for numbers that are not stated starts where it should. -/
  | misplacedWideRecord
  /-- No entry starts where the directory says. -/
  | misplacedEntry
  /-- An entry is kept by the method with this number, which is not known. -/
  | unknownMethod (code : Nat)
  /-- Any other reason. -/
  | other (reason : String)
  deriving DecidableEq, Repr, Inhabited

/-- The wording of an archive fault. -/
def ArchiveFault.message : ArchiveFault → String
  | .inaccessible fault => s!"I/O error: {fault.message}"
  | .notAnArchive => "Invalid ZIP format: End of central directory not found"
  | .noWideLocator => "Invalid ZIP format: ZIP64 EOCD locator not found"
  | .misplacedWideRecord => "Invalid ZIP format: Invalid ZIP64 EOCD signature"
  | .misplacedEntry => "Invalid ZIP format: Invalid local file header signature"
  | .unknownMethod code => s!"Unsupported compression method: {code}"
  | .other reason => reason

/-- What failed about an archive. -/
inductive ArchiveError where
  /-- The archive cannot be opened for reading. -/
  | cannotOpen (path : Path) (fault : ArchiveFault)
  /-- The archive has no entry to read. -/
  | noEntries (path : Path)
  /-- An entry of the archive cannot be read. -/
  | cannotRead (entry : Text) (fault : ArchiveFault)
  /-- The archive cannot be created. -/
  | cannotCreate (path : Path) (fault : ArchiveFault)
  /-- The entry of a new archive cannot be started. -/
  | cannotStart (fault : ArchiveFault)
  /-- A new archive cannot be completed. -/
  | cannotFinish (fault : ArchiveFault)
  /-- Any other reason. -/
  | other (reason : String)
  deriving DecidableEq, Repr, Inhabited

/-- The wording of an archive error. -/
def ArchiveError.message : ArchiveError → String
  | .cannotOpen path fault => s!"failed to open {path.display}: {fault.message}"
  | .noEntries path => s!"{path.display} contains no entries"
  | .cannotRead entry fault =>
    s!"failed to read entry {String.ofList entry}: {fault.message}"
  | .cannotCreate path fault => s!"failed to create {path.display}: {fault.message}"
  | .cannotStart fault => s!"failed to start entry: {fault.message}"
  | .cannotFinish fault => s!"failed to finish archive: {fault.message}"
  | .other reason => reason

/-- A row whose number of fields is not the one required. -/
structure ColumnMismatch where
  location : RowLocation
  /-- The number of columns in the settings. -/
  configured : Nat
  /-- The number of fields required, which counts the empty one after a trailing delimiter. -/
  expected : Nat
  actual : Nat
  /-- The row put together again with the column delimiter. -/
  row : Text
  deriving DecidableEq, Repr, Inhabited

/-- The part of a row that a width is measured on. -/
inductive WidthScope where
  /-- The column with this number, from one. -/
  | column (number : Nat)
  /-- The whole row. -/
  | row
  deriving DecidableEq, Repr, Inhabited

/-- A data row that is not as wide as required. -/
structure WidthMismatch where
  /-- The number of the data row, from one. -/
  row : Nat
  scope : WidthScope
  expected : Nat
  actual : Nat
  /-- The fields of the row, one after another. -/
  content : Text
  deriving DecidableEq, Repr, Inhabited

/-- The reasons for which configuring or running a conversion fails. -/
inductive Error where
  /-- The settings allow no run. -/
  | config (fault : ConfigFault)
  /-- No charset has this label. -/
  | unknownCharset (label : String)
  /-- A row has the wrong number of fields. -/
  | columnCount (mismatch : ColumnMismatch)
  /-- A row has the wrong width. -/
  | width (mismatch : WidthMismatch)
  /-- The record with this number has a newline outside quotes, where none is allowed. -/
  | unquotedNewline (record : Nat)
  /-- The input ended before a header, of which so many rows were to be skipped. -/
  | missingHeader (skipped : Nat)
  /-- The processing of a data row failed. -/
  | processing (row : Nat) (reason : String)
  /-- A stream failed. -/
  | stream (fault : IoFault)
  /-- A stream failed in a known phase of the run. -/
  | streamIn (phase : Phase) (fault : IoFault)
  /-- A file cannot be opened. -/
  | cannotOpen (path : Path) (fault : IoFault)
  /-- An archive cannot be used. -/
  | archive (reason : ArchiveError)
  deriving DecidableEq, Repr, Inhabited

namespace Error

/-- The **wording of an error**. -/
def message : Error → String
  | .config fault => s!"invalid configuration: {fault.message}"
  | .unknownCharset label => s!"unknown charset: {label}"
  | .columnCount m =>
    s!"column count mismatch at {m.location.name} (expected={m.expected}, actual={m.actual}): " ++
      String.ofList m.row
  | .width m =>
    match m.scope with
    | .column n =>
      s!"field width mismatch at data row {m.row}, column {n} (expected={m.expected}, " ++
        s!"actual={m.actual})"
    | .row =>
      s!"row width mismatch at data row {m.row} (expected={m.expected}, actual={m.actual})"
  | .unquotedNewline record => s!"unquoted newline in record {record}"
  | .missingHeader skipped => s!"EOF while skipping first {skipped} rows: no header present"
  | .processing row reason => s!"row processor failed at data row {row}: {reason}"
  | .stream fault => s!"I/O error: {fault.message}"
  | .streamIn phase fault => s!"I/O error during {phase.name} phase: {fault.message}"
  | .cannotOpen path fault => s!"cannot open {path.display}: {fault.message}"
  | .archive reason => s!"archive error: {reason.message}"

/-- The error with the phase in which it occurred. Only a stream failure takes the phase, and it
keeps the first one that it is given. -/
def during (phase : Phase) : Error → Error
  | .stream fault => .streamIn phase fault
  | e => e

/-- Whether the error is about the content of the input. -/
def isValidation : Error → Bool
  | .columnCount _ | .width _ | .unquotedNewline _ | .missingHeader _ => true
  | _ => false

end Error

end Delimited
