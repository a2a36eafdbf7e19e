import Delimited.Pipeline
import Delimited.Volume

set_option autoImplicit false
set_option relaxedAutoImplicit false

/-!
# Conversion of files

A pipeline converts one file of a volume into another. Either may be an archive: of the input the
entry named like the file is read, or else the first one; the output has a single entry. How archives
are read and written is up to a library.

## Main definitions

* `Delimited.Volume.openInput`, `Delimited.Volume.createOutput` — the two ends of a conversion.
* `Delimited.ArchiveSink` — what is written to if the output is an archive.
* `Delimited.Pipeline.writeOutput` — the run that writes the output.
* `Delimited.Conversion` — the outcome of a conversion.
* `Delimited.Pipeline.convert` — the conversion of one file into another.
-/

namespace Delimited

/-- An input that was opened. -/
inductive Input where
  /-- The content of an archive, which is read at once. -/
  | loaded (bytes : Bytes)
  /-- A file or directory, which is read as the run goes on. -/
  | located (place : Place)
  deriving DecidableEq, Repr

namespace Volume

/-- The entries of the archive at a path. -/
def archiveEntries (v : Volume) (lib : ArchiveLibrary) (path : Path) :
    Except ArchiveFault (List Entry) :=
  match v.locate path with
  | .error fault => .error (.inaccessible fault)
  | .ok (_, .directory) => .error (.inaccessible .isADirectory)
  | .ok (_, .file content) => lib.entries content

/-- The content of the archive at a path: the entry with the given name, or else the first one. -/
def readArchive (v : Volume) (lib : ArchiveLibrary) (path : Path) (entry : Text) :
    Except ArchiveError Bytes :=
  match v.archiveEntries lib path with
  | .error fault => .error (.cannotOpen path fault)
  | .ok entries =>
    match (entries.find? (·.name = entry)).or entries.head? with
    | none => .error (.noEntries path)
    | some found => found.content.mapError (.cannotRead found.name)

/-- Opens the input at a path. -/
def openInput (v : Volume) (lib : ArchiveLibrary) (path : Path) : Except Error Input :=
  match ArchiveForm.ofPath? path with
  | some form =>
    match v.readArchive lib path form.entry with
    | .ok bytes => .ok (.loaded bytes)
    | .error e => .error (.archive e)
  | none =>
    match v.locate path with
    | .ok (place, _) => .ok (.located place)
    | .error fault => .error (.cannotOpen path fault)

/-- What reading an input will do. -/
def reader (v : Volume) : Input → ByteReader
  | .loaded bytes => [.chunk bytes]
  | .located place =>
    match v.node? place with
    | some (.file (.plain bytes)) => [.chunk bytes]
    | some .directory => [.fail .isADirectory]
    | _ => []

/-- Makes the output at a path, for now without content. -/
def createOutput (v : Volume) (path : Path) : Except Error (Place × Volume) :=
  match v.create path with
  | .ok made => .ok made
  | .error fault =>
    match ArchiveForm.ofPath? path with
    | some _ => .error (.archive (.cannotCreate path (.inaccessible fault)))
    | none => .error (.cannotOpen path fault)

end Volume

/-! ## Writing into archives -/

/-- A **sink into the single entry of a new archive**. -/
structure ArchiveSink (lib : ArchiveLibrary) where
  /-- The archive. -/
  writer : lib.Writer
  /-- Whether the archive was finished. -/
  finished : Bool
  /-- The bytes that the archive took so far. -/
  taken : Array UInt8

namespace ArchiveSink

variable {lib : ArchiveLibrary}

/-- What the file of the archive holds. -/
def content (s : ArchiveSink lib) : Content :=
  lib.content s.writer

/-- The sink into a new archive of this form, in an empty file at a path; and what the file holds
after that. -/
def create (lib : ArchiveLibrary) (path : Path) (form : ArchiveForm) :
    Except ArchiveError (ArchiveSink lib) × Content :=
  match lib.create form.compression.method form.compression.level with
  | .error fault => (.error (.cannotCreate path fault), .plain [])
  | .ok writer =>
    match lib.startEntry form.entry writer with
    | (.error fault, writer) => (.error (.cannotStart fault), lib.content writer)
    | (.ok (), writer) => (.ok ⟨writer, false, #[]⟩, lib.content writer)

/-- One write call, which takes all bytes or fails with the words of the library. -/
def write (bytes : Bytes) (s : ArchiveSink lib) : Except IoFault Nat × ArchiveSink lib :=
  if s.finished then (.error .archiveFinished, s)
  else
    match lib.writeData bytes s.writer with
    | (.error fault, writer) => (.error ⟨fault.message⟩, { s with writer := writer })
    | (.ok (), writer) =>
      (.ok bytes.length, { s with writer := writer, taken := s.taken ++ bytes.toArray })

/-- Flushing does nothing: an archive is complete only when it is finished. -/
def flush (s : ArchiveSink lib) : Except IoFault Unit × ArchiveSink lib := (.ok (), s)

/-- Completes the archive, unless it was completed before. -/
def finish (s : ArchiveSink lib) : Except ArchiveError Unit × ArchiveSink lib :=
  if s.finished then (.ok (), s)
  else
    let (result, writer) := lib.finish s.writer
    (result.mapError .cannotFinish, { s with writer := writer, finished := true })

/-- A sink into an archive is a byte sink. -/
instance : ByteSink (ArchiveSink lib) where
  write := write
  flush := flush
  received s := s.taken.toList
  write_ok {bytes v w n} h := by
    rw [write] at h
    split at h
    · cases h
    · split at h <;> cases h
      refine ⟨Nat.le_refl _, ?_⟩
      rw [Array.toList_append, List.take_length]
  write_error {bytes v w e} h := by
    rw [write] at h
    split at h
    · cases h
      rfl
    · split at h <;> cases h
      rfl
  received_flush _ := rfl

end ArchiveSink

/-! ## Conversions -/

/-- What became of an **output**: the outcome of the run that wrote it, and its content. -/
structure Output where
  result : Except Error Stats
  content : Content
  /-- The events of the run in the order in which they occurred. -/
  log : List Event

/-- A run from a byte reader **into a new file**, which is an archive if its path says so. An archive
is finished also after an error, so that what was written before can be read; the error of the run
counts before that of finishing. -/
def Pipeline.writeOutput (pl : Pipeline) (lib : ArchiveLibrary) (input : ByteReader) (output : Path)
    (p : Processor) : Output :=
  match ArchiveForm.ofPath? output with
  | some form =>
    match ArchiveSink.create lib output form with
    | (.error e, content) => ⟨.error (.archive e), content, []⟩
    | (.ok sink, _) =>
      let run := pl.run input sink p
      let (finished, sink) := run.sink.finish
      let result := do
        let stats ← run.result
        finished.mapError Error.archive
        return stats
      ⟨result, sink.content, run.log⟩
  | none =>
    let run := pl.run input ByteWriter.unlimited p
    ⟨run.result, .plain run.sink.received.toList, run.log⟩

/-- The **outcome of a conversion**. -/
structure Conversion where
  result : Except Error Stats
  volume : Volume
  /-- The events in the order in which they occurred. -/
  log : List Event

/-- A file is about to be converted. -/
def Event.converting (input output : Path) : Event where
  level := .debug
  message := "transcoding file"
  fields := [("input", input.display), ("output", output.display)]

/-- **Converts** the file at one path into a file at another. The output is made empty before the
input is read, unless the input is an archive. What was written before an error is kept. -/
def Pipeline.convert (pl : Pipeline) (lib : ArchiveLibrary) (input output : Path) (p : Processor)
    (v : Volume) : Conversion :=
  match v.openInput lib input with
  | .error e => ⟨.error e, v, [.converting input output]⟩
  | .ok source =>
    match v.createOutput output with
    | .error e => ⟨.error e, v, [.converting input output]⟩
    | .ok (place, w) =>
      let written := pl.writeOutput lib (w.reader source) output p
      ⟨written.result, w.put place (.file written.content), .converting input output :: written.log⟩

end Delimited
