import Delimited.Error
import Delimited.Record.Layout
import Delimited.Stream.Sink

set_option autoImplicit false
set_option relaxedAutoImplicit false

/-!
# Writing rows

## Main definitions

* `Delimited.RowWriter` — a layout with the sink that rows are written to.
* `Delimited.RowWriter.write`, `Delimited.RowWriter.flush` — the steps of writing.
-/

namespace Delimited

/-- A **row writer**. -/
structure RowWriter (κ : Type) where
  sink : κ
  layout : Layout
  /-- How many rows were written. -/
  rowCount : Nat

namespace RowWriter

variable {κ : Type} [CharSink κ]

/-- A row writer at the start of a sink. -/
def ofSink (sink : κ) (layout : Layout) : RowWriter κ := ⟨sink, layout, 0⟩

/-- Writes a row with its row delimiter in one piece. -/
def write (w : RowWriter κ) (record : Record) : Except Error Unit × RowWriter κ :=
  match CharSink.write (w.layout.renderRow record) w.sink with
  | (.ok (), s) => (.ok (), { w with sink := s, rowCount := w.rowCount + 1 })
  | (.error e, s) => (.error (.stream e), { w with sink := s })

/-- Flushes the sink. -/
def flush (w : RowWriter κ) : Except Error Unit × RowWriter κ :=
  match CharSink.flush w.sink with
  | (.ok (), s) => (.ok (), { w with sink := s })
  | (.error e, s) => (.error (.stream e), { w with sink := s })

end RowWriter

end Delimited
