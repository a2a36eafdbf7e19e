set_option autoImplicit false
set_option relaxedAutoImplicit false

/-!
# Text, fields and records

Delimited text is handled as lists: a text is a list of characters, a record is the list of its
fields in column order. Strings appear only at the edges, in names and messages.

## Main definitions

* `Delimited.Text`, `Delimited.Bytes`, `Delimited.Record` — the data everything else works on.
* `Delimited.Record.joined` — the fields of a record with a separator between them.
* `Delimited.utf8Bytes` — the UTF-8 bytes of a text.
* `Delimited.trimmed` — a text without the white space at its ends.
-/

namespace Delimited

/-- A **text** is a list of Unicode scalar values. -/
abbrev Text := List Char

/-- A **byte string**. -/
abbrev Bytes := List UInt8

/-- A **record** is the list of its fields in column order. -/
abbrev Record := List Text

/-- The fields of a record with `separator` between neighbours. -/
def Record.joined (separator : Text) (record : Record) : Text :=
  List.intercalate separator record

/-- The **UTF-8 bytes** of a text. -/
def utf8Bytes (text : Text) : Bytes :=
  text.flatMap String.utf8EncodeChar

/-- The characters with the Unicode property White_Space. -/
def isBlank (c : Char) : Bool :=
  ('\t' ≤ c && c ≤ '\r') || c == ' ' || c == '\u0085' || c == '\u00a0' || c == '\u1680' ||
    ('\u2000' ≤ c && c ≤ '\u200a') || c == '\u2028' || c == '\u2029' || c == '\u202f' ||
    c == '\u205f' || c == '\u3000'

/-- The text without the white space at its two ends. -/
def trimmed (text : Text) : Text :=
  ((text.dropWhile isBlank).reverse.dropWhile isBlank).reverse

end Delimited
