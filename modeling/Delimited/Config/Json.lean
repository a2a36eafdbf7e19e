import Delimited.Config
import Delimited.Json.Reading

set_option autoImplicit false
set_option relaxedAutoImplicit false

/-!
# Configurations as JSON

A configuration is written as an object with all its fields. In reading, a field that is missing has
its default, members with other keys are ignored, and none of the known keys may be repeated. The
fields may also be given without their keys, as an array in the order in which they are written.

## Main definitions

* `Delimited.Config.toJson`, `Delimited.Config.ofJson?`.
* `Delimited.Dialect.toJson`, `Delimited.Dialect.ofJson?`.
-/

namespace Delimited

namespace Json

/-! ## Values of fields -/

/-- The value of a field, or its default where it is missing. -/
def orDefault {α : Type} (read : Json → Option α) (default : α) : Option Json → Option α
  | some value => read value
  | none => some default

/-- The given fields of a structure, in the order of their names. -/
def fields? (names : List String) : Json → Option (List (Option Json))
  | .array items =>
    if items.length ≤ names.length then
      some (items.map some ++ List.replicate (names.length - items.length) none)
    else none
  | .object members =>
    names.mapM fun name =>
      match members.filter (·.1 = name) with
      | [] => some none
      | [(_, value)] => some (some value)
      | _ => none
  | _ => none

/-- A truth value. -/
def bool? : Json → Option Bool
  | .bool b => some b
  | _ => none

/-- A count, which fits in 64 bits. -/
def count? : Json → Option Nat
  | .natural n => if n < UInt64.size then some n else none
  | _ => none

/-- A text. -/
def text? : Json → Option Text
  | .string s => some s.toList
  | _ => none

/-- A string of a text. -/
def ofText (text : Text) : Json := .string (String.ofList text)

/-- A value, or null for none. -/
def orNull? {α : Type} (read : Json → Option α) : Json → Option (Option α)
  | .null => some none
  | value => (read value).map some

/-- One of some named constants, given by its name or as an object with that key and the value
null. -/
def named? {α : Type} (constants : List (String × α)) : Json → Option α
  | .string name => constants.lookup name
  | .object [(name, .null)] => constants.lookup name
  | _ => none

end Json

/-! ## Parts of a configuration -/

/-- A character, written as a string of length one. -/
def charOfJson? (value : Json) : Option Char :=
  match Json.text? value with
  | some [c] => some c
  | _ => none

/-- A charset, given by any of its labels. -/
def Charset.ofJson? (value : Json) : Option Charset :=
  (Json.text? value).bind fun label => (Charset.ofLabel label).toOption

/-- A quote mode. -/
def QuoteMode.ofJson? : Json → Option QuoteMode :=
  Json.named? ([.never, .always, .asNeeded].map fun m => (m.name, m))

/-- A newline policy. -/
def NewlinePolicy.ofJson? : Json → Option NewlinePolicy :=
  Json.named? ([.preserve, .space, .reject].map fun p => (p.name, p))

/-- A width check, written as an object that tells what is measured. -/
def WidthCheck.ofJson? : Json → Option WidthCheck
  | .object [("per_field", n)] => n.count?.map .perField
  | .object [("row_total", n)] => n.count?.map .rowTotal
  | _ => none

/-- The object of a width check. -/
def WidthCheck.toJson : WidthCheck → Json
  | .perField n => .object [("per_field", .natural n)]
  | .rowTotal n => .object [("row_total", .natural n)]

/-! ## Dialects -/

namespace Dialect

/-- The keys of a dialect. -/
def keys : List String := ["column_delimiter", "row_delimiter", "quote", "charset"]

/-- The dialect that a value describes. -/
def ofJson? (value : Json) : Option Dialect := do
  let standard : Dialect := {}
  match ← value.fields? keys with
  | [column, row, quote, charset] =>
    let columnDelimiter ← Json.orDefault Json.text? standard.columnDelimiter column
    let rowDelimiter ← Json.orDefault Json.text? standard.rowDelimiter row
    let quote ← Json.orDefault (Json.orNull? charOfJson?) standard.quote quote
    let charset ← Json.orDefault Charset.ofJson? standard.charset charset
    return { columnDelimiter, rowDelimiter, quote, charset }
  | _ => none

/-- The object of a dialect. -/
def toJson (d : Dialect) : Json :=
  .object [
    ("column_delimiter", Json.ofText d.columnDelimiter),
    ("row_delimiter", Json.ofText d.rowDelimiter),
    ("quote", match d.quote with | some q => Json.ofText [q] | none => .null),
    ("charset", .string d.charset.name)]

end Dialect

/-! ## Configurations -/

namespace Config

/-- The keys of a configuration. -/
def keys : List String := [
  "input", "output", "quote_mode", "preserve_input_quotes", "expected_columns",
  "trailing_column_delimiter", "width_check", "skip_leading_rows", "read_header_after_skip",
  "skip_empty_rows", "newline_policy", "strip_bom"]

/-- The configuration that a value describes. -/
def ofJson? (value : Json) : Option Config := do
  let standard : Config := {}
  match ← value.fields? keys with
  | [input, output, quoteMode, keepInputQuotes, expectedColumns, trailingColumnDelimiter,
      widthCheck, skippedRows, hasHeader, skipEmptyRows, newlines, stripMark] =>
    let input ← Json.orDefault Dialect.ofJson? standard.input input
    let output ← Json.orDefault Dialect.ofJson? standard.output output
    let quoteMode ← Json.orDefault QuoteMode.ofJson? standard.quoteMode quoteMode
    let keepInputQuotes ← Json.orDefault Json.bool? standard.keepInputQuotes keepInputQuotes
    let expectedColumns ← Json.orDefault Json.count? standard.expectedColumns expectedColumns
    let trailingColumnDelimiter ←
      Json.orDefault Json.bool? standard.trailingColumnDelimiter trailingColumnDelimiter
    let widthCheck ← Json.orDefault (Json.orNull? WidthCheck.ofJson?) standard.widthCheck widthCheck
    let skippedRows ← Json.orDefault Json.count? standard.skippedRows skippedRows
    let hasHeader ← Json.orDefault Json.bool? standard.hasHeader hasHeader
    let skipEmptyRows ← Json.orDefault Json.bool? standard.skipEmptyRows skipEmptyRows
    let newlines ← Json.orDefault NewlinePolicy.ofJson? standard.newlines newlines
    let stripMark ← Json.orDefault Json.bool? standard.stripMark stripMark
    return {
      input, output, quoteMode, keepInputQuotes, expectedColumns, trailingColumnDelimiter,
      widthCheck, skippedRows, hasHeader, skipEmptyRows, newlines, stripMark }
  | _ => none

/-- The object of a configuration. -/
def toJson (c : Config) : Json :=
  .object [
    ("input", c.input.toJson),
    ("output", c.output.toJson),
    ("quote_mode", .string c.quoteMode.name),
    ("preserve_input_quotes", .bool c.keepInputQuotes),
    ("expected_columns", .natural c.expectedColumns),
    ("trailing_column_delimiter", .bool c.trailingColumnDelimiter),
    ("width_check", match c.widthCheck with | some check => check.toJson | none => .null),
    ("skip_leading_rows", .natural c.skippedRows),
    ("read_header_after_skip", .bool c.hasHeader),
    ("skip_empty_rows", .bool c.skipEmptyRows),
    ("newline_policy", .string c.newlines.name),
    ("strip_bom", .bool c.stripMark)]

end Config

end Delimited
