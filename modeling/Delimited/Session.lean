import Delimited.Config
import Delimited.Event
import Delimited.Processor
import Delimited.Record.RowReader
import Delimited.Record.RowWriter

set_option autoImplicit false
set_option relaxedAutoImplicit false

/-!
# The course of a run

A run drops a byte-order mark, drops leading rows, copies a header and then converts data rows: each
is read, checked, processed and written before the next one is read. What was written before an
error stays written.

## Main definitions

* `Delimited.Stats` — what a run reports.
* `Delimited.Session` — a run in progress.
* `Delimited.Session.drive` — the run up to the end of the input.
-/

namespace Delimited

open CharSource

/-- The **counts** of a run. -/
structure Stats where
  /-- How many leading rows were dropped, which may be less than asked for. -/
  rowsSkipped : Nat := 0
  headerWritten : Bool := false
  /-- How many data rows were read. -/
  rowsIn : Nat := 0
  /-- How many data rows were written. -/
  rowsOut : Nat := 0
  deriving DecidableEq, Repr, Inhabited

/-- The counts in one line. -/
def Stats.display (s : Stats) : String :=
  s!"skipped={s.rowsSkipped} header={s.headerWritten} in={s.rowsIn} out={s.rowsOut}"

/-! ## Widths -/

namespace WidthCheck

/-- The fields that are measured: all, but for the empty one after a trailing delimiter. -/
def measured (trailingDelimiter : Bool) (row : Record) : Record :=
  if trailingDelimiter ∧ row.getLast? = some [] then row.dropLast else row

/-- The first field, from the given column on, that does not have the width. -/
def firstOff? (width : Nat) : Nat → Record → Option (Nat × Nat)
  | _, [] => none
  | column, field :: fields =>
    if field.length = width then firstOff? width (column + 1) fields
    else some (column, field.length)

/-- What is wrong with the width of a row: where it is measured, and what it is. -/
def off? (check : WidthCheck) (fields : Record) : Option (WidthScope × Nat) :=
  match check with
  | .perField width => (firstOff? width 1 fields).map fun (column, n) => (.column column, n)
  | .rowTotal width =>
    if fields.flatten.length = width then none else some (.row, fields.flatten.length)

/-- Checks the width of a data row. -/
def verify (check : WidthCheck) (number : Nat) (row : Record) (trailingDelimiter : Bool) :
    Except Error Unit :=
  match check.off? (measured trailingDelimiter row) with
  | none => .ok ()
  | some (scope, actual) =>
    .error (.width
      { row := number, scope := scope, expected := check.width, actual := actual,
        content := row.flatten })

end WidthCheck

/-! ## Events -/

namespace Event

/-- A run starts. -/
def starting (c : Config) : Event where
  level := .debug
  message := "starting transcode"
  fields := [("config", c.describe), ("skip", toString c.skippedRows),
    ("header", toString c.hasHeader), ("expected_columns", toString c.expectedColumns)]

/-- A byte-order mark was dropped. -/
def markStripped : Event := ⟨.trace, "stripped byte-order mark", []⟩

/-- A leading row was dropped. -/
def rowSkipped (n : Nat) : Event := ⟨.trace, "skipped leading row", [("row", toString n)]⟩

/-- The input has fewer rows than were to be dropped. -/
def endedEarly (requested skipped : Nat) : Event where
  level := .debug
  message := "input ended while skipping leading rows"
  fields := [("requested", toString requested), ("skipped", toString skipped)]

/-- A run succeeded. -/
def finished (s : Stats) : Event where
  level := .info
  message := "transcode finished"
  fields := [("rows_skipped", toString s.rowsSkipped),
    ("header_written", toString s.headerWritten), ("rows_in", toString s.rowsIn),
    ("rows_out", toString s.rowsOut)]

end Event

/-! ## Sessions -/

/-- A **run in progress**. -/
structure Session (σ κ : Type) (p : Processor) where
  reader : RowReader σ
  writer : RowWriter κ
  processor : p.State
  stats : Stats
  /-- The events so far, the latest first. -/
  log : List Event

namespace Session

variable {σ κ : Type} {p : Processor} [CharSource σ] [CharSink κ]

/-- The session with one more event. -/
def note (s : Session σ κ p) (event : Event) : Session σ κ p :=
  { s with log := event :: s.log }

/-- The session with the warning that announces an error, if it has one. -/
def warn (s : Session σ κ p) (e : Error) : Session σ κ p :=
  match e.warning? with
  | some event => s.note event
  | none => s

/-- The phase that reads first, to which looking for a byte-order mark belongs. -/
def firstPhase (c : Config) : Phase :=
  if 0 < c.skippedRows then .skip else if c.hasHeader then .header else .data

/-- Drops a byte-order mark, if that is wanted. -/
def stripMark (c : Config) (s : Session σ κ p) : Except Error Unit × Session σ κ p :=
  if c.stripMark then
    match s.reader.stripMark with
    | (.error e, r) => (.error (e.during (firstPhase c)), { s with reader := r })
    | (.ok found, r) =>
      let t := { s with reader := r }
      (.ok (), if found then t.note .markStripped else t)
  else (.ok (), s)

/-- Drops `n` rows. Tells whether there were so many. -/
def skipRows : Nat → Session σ κ p → Except Error Bool × Session σ κ p
  | 0, s => (.ok true, s)
  | n + 1, s =>
    match s.reader.skipRow with
    | (.error e, r) => (.error (e.during .skip), { s with reader := r })
    | (.ok false, r) => (.ok false, { s with reader := r })
    | (.ok true, r) =>
      let stats := { s.stats with rowsSkipped := s.stats.rowsSkipped + 1 }
      skipRows n ({ s with reader := r, stats := stats }.note (.rowSkipped stats.rowsSkipped))

/-- Copies the header and flushes it, so that a failure of the output shows at once. -/
def copyHeader (c : Config) (s : Session σ κ p) : Except Error Unit × Session σ κ p :=
  match s.reader.readHeader with
  | (.error e, r) => (.error (e.during .header), { s with reader := r }.warn e)
  | (.ok none, r) => (.error (.missingHeader c.skippedRows), { s with reader := r })
  | (.ok (some header), r) =>
    match s.writer.write header with
    | (.error e, w) => (.error (e.during .header), { s with reader := r, writer := w })
    | (.ok (), w) =>
      match w.flush with
      | (.error e, w) => (.error (e.during .header), { s with reader := r, writer := w })
      | (.ok (), w) =>
        (.ok (), { s with reader := r, writer := w, stats.headerWritten := true })

/-- Checks the width of a data row, if that is wanted. -/
def verifyWidth (c : Config) (number : Nat) (row : Record) : Except Error Unit :=
  match c.widthCheck with
  | some check => check.verify number row c.trailingColumnDelimiter
  | none => .ok ()

/-- Checks, processes and writes one data row, which the reader already gave. -/
def convertRow (c : Config) (row : Record) (s : Session σ κ p) :
    Except Error Unit × Session σ κ p :=
  let s := { s with stats.rowsIn := s.stats.rowsIn + 1 }
  match verifyWidth c s.stats.rowsIn row with
  | .error e => (.error e, s.warn e)
  | .ok () =>
    match p.process s.processor row with
    | (.error e, q) => (.error (e.during .data), { s with processor := q })
    | (.ok row, q) =>
      match s.writer.write row with
      | (.error e, w) => (.error (e.during .data), { s with processor := q, writer := w })
      | (.ok (), w) =>
        (.ok (), { s with processor := q, writer := w, stats.rowsOut := s.stats.rowsOut + 1 })

omit [CharSource σ] in
/-- Converting a row reads nothing. -/
theorem reader_convertRow (c : Config) (row : Record) (s : Session σ κ p) :
    (convertRow c row s).2.reader = s.reader := by
  rw [convertRow]
  split
  · rw [warn]
    split <;> rfl
  · split
    · rfl
    · split <;> rfl

/-- Converts the data rows that are left. -/
def convertRows (c : Config) (s : Session σ κ p) : Except Error Unit × Session σ κ p :=
  match _h : s.reader.readRow with
  | (.error e, r) => (.error (e.during .data), { s with reader := r }.warn e)
  | (.ok none, r) => (.ok (), { s with reader := r })
  | (.ok (some row), r) =>
    match _h2 : convertRow c row { s with reader := r } with
    | (.error e, t) => (.error e, t)
    | (.ok (), t) => convertRows c t
termination_by remaining s.reader.source
decreasing_by
  have h := reader_convertRow c row { s with reader := r }
  rw [_h2] at h
  rw [h]
  exact RowReader.remaining_lt_of_readRow _h

/-- One step of converting rows. -/
theorem convertRows_eq (c : Config) (s : Session σ κ p) :
    s.convertRows c =
      match s.reader.readRow with
      | (.error e, r) => (.error (e.during .data), { s with reader := r }.warn e)
      | (.ok none, r) => (.ok (), { s with reader := r })
      | (.ok (some row), r) =>
        match convertRow c row { s with reader := r } with
        | (.error e, t) => (.error e, t)
        | (.ok (), t) => convertRows c t := by
  rw [convertRows]
  split
  · next h => rw [h]
  · next h => rw [h]
  · next h =>
    rw [h]
    dsimp only
    split
    · next hrow => rw [hrow]
    · next hrow => rw [hrow]

/-- The run after the leading rows. -/
def copyAll (c : Config) (s : Session σ κ p) : Except Error Unit × Session σ κ p :=
  if c.hasHeader then
    match s.copyHeader c with
    | (.error e, t) => (.error e, t)
    | (.ok (), t) => t.convertRows c
  else s.convertRows c

/-- The run **up to the end of the input**. An input with fewer rows than are to be dropped is an
error only if a header is wanted. -/
def drive (c : Config) (s : Session σ κ p) : Except Error Unit × Session σ κ p :=
  match (s.note (.starting c)).stripMark c with
  | (.error e, t) => (.error e, t)
  | (.ok (), t) =>
    match t.skipRows c.skippedRows with
    | (.error e, t) => (.error e, t)
    | (.ok true, t) => t.copyAll c
    | (.ok false, t) =>
      if c.hasHeader then (.error (.missingHeader c.skippedRows), t)
      else (.ok (), t.note (.endedEarly c.skippedRows t.stats.rowsSkipped))

end Session

end Delimited
