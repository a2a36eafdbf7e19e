import Delimited.Error

set_option autoImplicit false
set_option relaxedAutoImplicit false

/-!
# Row processors

A processor changes data rows on their way to the output. It may keep a state from row to row.

## Main definitions

* `Delimited.Processor` — a change of rows.
* `Delimited.Processor.identity`, `Delimited.Processor.newlineToSpace`.
-/

namespace Delimited

/-- A **row processor**. -/
structure Processor where
  /-- What is kept from row to row. -/
  State : Type
  /-- The state before the first row. -/
  start : State
  /-- The row to write in place of one that was read, or an error that ends the run. -/
  process : State → Record → Except Error Record × State

namespace Processor

/-- The processor that changes each row on its own. -/
def pointwise (f : Record → Record) : Processor where
  State := Unit
  start := ()
  process _ row := (.ok (f row), ())

/-- The processor that leaves rows as they are. -/
def identity : Processor := pointwise id

/-- A text with each newline, together with a carriage return before it, replaced by a space. -/
def spaced : Text → Text
  | '\r' :: '\n' :: rest => ' ' :: spaced rest
  | '\n' :: rest => ' ' :: spaced rest
  | c :: rest => c :: spaced rest
  | [] => []

/-- The processor that replaces newlines by spaces, in quoted content too. -/
def newlineToSpace : Processor := pointwise (·.map spaced)

/-- The outcomes of processing rows one after another. An error does not keep later rows from being
processed. -/
def outcomes (p : Processor) : p.State → List Record → List (Except Error Record)
  | _, [] => []
  | s, row :: rows => (p.process s row).1 :: outcomes p (p.process s row).2 rows

/-- A processor that changes each row on its own does so with all of them. -/
theorem outcomes_pointwise (f : Record → Record) (s : Unit) (rows : List Record) :
    (pointwise f).outcomes s rows = rows.map fun row => .ok (f row) := by
  induction rows with
  | nil => rfl
  | cons row rows ih => exact congrArg (.ok (f row) :: ·) ih

end Processor

end Delimited
