import Delimited.Record.Format

set_option autoImplicit false
set_option relaxedAutoImplicit false

/-!
# Writing records

A layout says how records are written: the fields with the column delimiter between them, quoted as
the quote mode says, and the row delimiter at the end. A quote inside a quoted field is doubled.

## Main definitions

* `Delimited.Layout` — delimiters, quote and quote mode.
* `Delimited.Layout.render`, `Delimited.Layout.renderRow` — a record without and with its row
  delimiter.
-/

namespace Delimited

/-- A **layout** says how records are written. -/
structure Layout where
  column : Text
  row : Text
  /-- The quote; without one nothing is ever quoted. -/
  quote : Option Char
  mode : QuoteMode
  deriving DecidableEq, Repr

namespace Layout

/-- Whether `part` occurs in a text as one piece. -/
def occursIn (part : Text) : Text → Bool
  | [] => part.isEmpty
  | c :: cs => part.isPrefixOf (c :: cs) || occursIn part cs

/-- Whether a field is written in quotes. -/
def needsQuotes (layout : Layout) (q : Char) (field : Text) : Bool :=
  match layout.mode with
  | .never => false
  | .always => true
  | .asNeeded => field.contains q || occursIn layout.column field || occursIn layout.row field

/-- The text with each `q` doubled. -/
def doubled (q : Char) (text : Text) : Text :=
  text.flatMap fun c => if c = q then [q, q] else [c]

/-- The written form of a field. -/
def renderField (layout : Layout) (field : Text) : Text :=
  match layout.quote with
  | some q => if layout.needsQuotes q field then q :: doubled q field ++ [q] else field
  | none => field

/-- The written form of a record without its row delimiter. -/
def render (layout : Layout) (record : Record) : Text :=
  Record.joined layout.column (record.map layout.renderField)

/-- The written form of a record. -/
def renderRow (layout : Layout) (record : Record) : Text :=
  layout.render record ++ layout.row

end Layout

end Delimited
