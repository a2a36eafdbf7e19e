import Delimited.Dialect
import Delimited.Record.ColumnCheck

set_option autoImplicit false
set_option relaxedAutoImplicit false

/-!
# Configurations

## Main definitions

* `Delimited.WidthCheck` — the width that data rows must have.
* `Delimited.Config` — the settings of a run.
* `Delimited.Config.Valid`, `Delimited.Config.check` — whether a run can start.

## Main results

* `Delimited.Config.check_eq_ok_iff` — the check accepts the valid configurations.
-/

namespace Delimited

/-- The width that a data row must have, counted in characters. -/
inductive WidthCheck where
  /-- The width of each field. -/
  | perField (width : Nat)
  /-- The width of all fields together. -/
  | rowTotal (width : Nat)
  deriving DecidableEq, Repr

/-- The width itself. -/
def WidthCheck.width : WidthCheck → Nat
  | .perField n | .rowTotal n => n

/-- A **configuration** holds the settings of a run. -/
structure Config where
  input : Dialect := {}
  output : Dialect := {}
  quoteMode : QuoteMode := .asNeeded
  /-- Whether quotes of the input stay in the fields. -/
  keepInputQuotes : Bool := false
  /-- The number of columns of each record; zero means any. -/
  expectedColumns : Nat := 0
  /-- Whether a column delimiter follows the last column of the input too. -/
  trailingColumnDelimiter : Bool := false
  widthCheck : Option WidthCheck := none
  /-- How many records are dropped at the start. -/
  skippedRows : Nat := 0
  /-- Whether the first record after those is a header. -/
  hasHeader : Bool := false
  /-- Whether records of one empty field are left out. -/
  skipEmptyRows : Bool := false
  newlines : NewlinePolicy := .preserve
  /-- Whether a byte-order mark at the start of the input is dropped. -/
  stripMark : Bool := true
  deriving DecidableEq, Repr, Inhabited

namespace Config

/-- The check of the number of columns, if there is one. -/
def columnCheck (c : Config) : Option ColumnCheck :=
  if c.expectedColumns = 0 then none else some ⟨c.expectedColumns, c.trailingColumnDelimiter⟩

/-- The number of fields that records must have, if it is checked. -/
def effectiveColumns (c : Config) : Option Nat :=
  c.columnCheck.map ColumnCheck.effective

/-- A configuration is **valid** if both dialects are and no width of zero is required. -/
def Valid (c : Config) : Prop :=
  c.input.Valid ∧ c.output.Valid ∧ c.widthCheck.map WidthCheck.width ≠ some 0

/-- Whether a configuration is valid can be computed. -/
instance (c : Config) : Decidable c.Valid :=
  inferInstanceAs (Decidable (_ ∧ _))

/-- The first fault of a configuration. -/
def fault? (c : Config) : Option ConfigFault :=
  (c.input.fault? .input).or ((c.output.fault? .output).or
    (if c.widthCheck.map WidthCheck.width = some 0 then some .zeroWidth else none))

/-- Checks that a run can start. -/
def check (c : Config) : Except Error Unit :=
  match c.fault? with
  | some fault => .error (.config fault)
  | none => .ok ()

/-- The valid configurations are those without a fault. -/
theorem fault?_eq_none_iff {c : Config} : c.fault? = none ↔ c.Valid := by
  simp [fault?, Valid, Dialect.fault?_eq_none_iff]

/-- The check accepts the valid configurations. -/
theorem check_eq_ok_iff {c : Config} : c.check = .ok () ↔ c.Valid := by
  rw [← fault?_eq_none_iff, check]
  split <;> simp_all

/-- A dialect in one line. -/
def describeDialect (d : Dialect) : String :=
  let shown (t : Text) := String.ofList (Escape.printable t)
  s!"col='{shown d.columnDelimiter}' row='{shown d.rowDelimiter}' charset={d.charset.name}"

/-- The configuration in one line, for the log. -/
def describe (c : Config) : String :=
  s!"in[{describeDialect c.input}] out[{describeDialect c.output}] quote_mode={c.quoteMode.name}"

end Config

end Delimited
