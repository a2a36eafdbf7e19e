import Delimited.Charset.Label
import Delimited.Record.Layout
import Delimited.Record.Parser

set_option autoImplicit false
set_option relaxedAutoImplicit false

/-!
# Dialects

A dialect says how delimited text looks on one side of a conversion.

## Main definitions

* `Delimited.Dialect` — delimiters, quote and charset.
* `Delimited.Dialect.ofSettings` — the dialect that settings in escape syntax describe.
* `Delimited.Dialect.grammar`, `Delimited.Dialect.layout` — reading and writing in a dialect.
-/

namespace Delimited

/-- A **dialect** of delimited text. -/
structure Dialect where
  columnDelimiter : Text := ['^', '|']
  rowDelimiter : Text := ['@', '@', '\n']
  /-- The quote, if there is quoting. -/
  quote : Option Char := some '"'
  charset : Charset := .utf8
  deriving DecidableEq, Repr, Inhabited

/-! ## Settings -/

/-- The delimiter that a setting describes. -/
def delimiterOfSetting (setting : Text) (what : String) : Except Error Text :=
  match Escape.expand setting with
  | [] => .error (.config (.emptySetting what))
  | delimiter => .ok delimiter

/-- The quote that a setting describes. An empty setting means no quoting. -/
def quoteOfSetting (setting : Text) : Except Error (Option Char) :=
  if setting = [] then .ok none
  else
    match Escape.expand setting with
    | [q] => .ok (some q)
    | given => .error (.config (.quoteLength given))

namespace Dialect

/-- The dialect that four settings describe. The first setting at fault is the one reported. -/
def ofSettings (column row quote charset : Text) : Except Error Dialect := do
  let columnDelimiter ← delimiterOfSetting column DelimiterRole.column.name
  let rowDelimiter ← delimiterOfSetting row DelimiterRole.row.name
  let quote ← quoteOfSetting quote
  let charset ← Charset.ofLabel charset
  return { columnDelimiter, rowDelimiter, quote, charset }

/-- A dialect is **valid** if neither delimiter is empty. -/
def Valid (d : Dialect) : Prop :=
  d.columnDelimiter ≠ [] ∧ d.rowDelimiter ≠ []

/-- Whether a dialect is valid can be computed. -/
instance (d : Dialect) : Decidable d.Valid :=
  inferInstanceAs (Decidable (_ ∧ _))

/-- The first fault of a dialect on one side of a conversion. -/
def fault? (d : Dialect) (side : Side) : Option ConfigFault :=
  if d.columnDelimiter = [] then some (.emptyDelimiter side .column)
  else if d.rowDelimiter = [] then some (.emptyDelimiter side .row)
  else none

/-- The valid dialects are those without a fault. -/
theorem fault?_eq_none_iff {d : Dialect} {side : Side} : d.fault? side = none ↔ d.Valid := by
  unfold fault? Valid
  split
  · simp_all
  · split <;> simp_all

/-- The delimiters of a valid dialect. -/
def delimiters (d : Dialect) (h : d.Valid) : Delimiters :=
  ⟨d.rowDelimiter, d.columnDelimiter, h.2, h.1⟩

/-- How records are read in a valid dialect. -/
def grammar (d : Dialect) (h : d.Valid) (keepQuotes : Bool) (newlines : NewlinePolicy) : Grammar :=
  ⟨d.delimiters h, d.quote, keepQuotes, newlines⟩

/-- How records are written in a dialect. -/
def layout (d : Dialect) (mode : QuoteMode) : Layout :=
  ⟨d.columnDelimiter, d.rowDelimiter, d.quote, mode⟩

end Dialect

end Delimited
