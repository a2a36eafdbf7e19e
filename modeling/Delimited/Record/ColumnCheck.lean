import Delimited.Error

set_option autoImplicit false
set_option relaxedAutoImplicit false

/-!
# The number of columns

## Main definitions

* `Delimited.ColumnCheck` — the number of fields that each record must have.
* `Delimited.ColumnCheck.effective` — this number with the field after a trailing delimiter.
* `Delimited.ColumnCheck.verify` — the check of one record.

## Main results

* `Delimited.ColumnCheck.effective_lt_size_iff` — when the number of fields fits in 64 bits.
-/

namespace Delimited

/-- The number of columns required. -/
structure ColumnCheck where
  configured : Nat
  /-- Whether a column delimiter follows the last column too, so that an empty field ends each
  record. -/
  trailingDelimiter : Bool
  deriving DecidableEq, Repr

namespace ColumnCheck

/-- The number of fields that a record must have. It is not bounded by the size of a word, even if the
number of columns is. -/
def effective (check : ColumnCheck) : Nat :=
  if check.trailingDelimiter then check.configured + 1 else check.configured

/-- Where the number of columns fits in 64 bits, **so does the number of fields**, unless a delimiter
follows the greatest number of columns. -/
theorem effective_lt_size_iff {check : ColumnCheck} (h : check.configured < UInt64.size) :
    check.effective < UInt64.size ↔
      ¬(check.trailingDelimiter = true ∧ check.configured + 1 = UInt64.size) := by
  unfold effective
  split
  · next htrailing =>
    simp only [htrailing, true_and]
    omega
  · next hnot => exact ⟨fun _ hboth => hnot hboth.1, fun _ => h⟩

/-- Checks a record. On a mismatch the record is shown with `delimiter` between its fields. -/
def verify (check : ColumnCheck) (record : Record) (location : RowLocation) (delimiter : Text) :
    Except Error Unit :=
  if record.length = check.effective then .ok ()
  else
    .error (.columnCount
      { location := location
        configured := check.configured
        expected := check.effective
        actual := record.length
        row := record.joined delimiter })

end ColumnCheck

end Delimited
