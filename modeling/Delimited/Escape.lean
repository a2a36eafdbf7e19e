import Delimited.Text

set_option autoImplicit false
set_option relaxedAutoImplicit false

/-!
# Escape syntax of settings

Settings such as delimiters are typed where control characters are awkward, so they are written
with a backslash syntax: `\n`, `\r` and `\t` name a control character, `\uXXXX` names a character
by its code point, and a backslash before any other character gives that character.

## Main definitions

* `Delimited.Escape.expand` — the text that a setting stands for.
* `Delimited.Escape.printable` — a text with its line breaks and tabs shown as escapes.
-/

namespace Delimited.Escape

/-- The value of a hexadecimal digit. -/
def hexDigit? (c : Char) : Option Nat :=
  if '0' ≤ c && c ≤ '9' then some (c.toNat - '0'.toNat)
  else if 'a' ≤ c && c ≤ 'f' then some (c.toNat - 'a'.toNat + 10)
  else if 'A' ≤ c && c ≤ 'F' then some (c.toNat - 'A'.toNat + 10)
  else none

/-- The number that hexadecimal digits write, the most significant digit first. -/
def hexNumber? (digits : Text) : Option Nat :=
  digits.foldlM (fun n c => (hexDigit? c).map (16 * n + ·)) 0

/-- The Unicode scalar value with a given code point; surrogates are none. -/
def scalar? (n : Nat) : Option Char :=
  if h : n.isValidChar then some (Char.ofNatAux n h) else none

/-- The character named by the four characters after `\u`: four hexadecimal digits, of which the
first may be replaced by a plus sign, that write a Unicode scalar value. -/
def codePoint? (a b c d : Char) : Option Char :=
  (hexNumber? (if a = '+' then [b, c, d] else [a, b, c, d])).bind scalar?

/-- The text that a setting stands for. A backslash at the very end stands for itself, and `\u`
without a code point after it stands for those two characters. -/
def expand : Text → Text
  | '\\' :: 'n' :: rest => '\n' :: expand rest
  | '\\' :: 'r' :: rest => '\r' :: expand rest
  | '\\' :: 't' :: rest => '\t' :: expand rest
  | '\\' :: 'u' :: a :: b :: c :: d :: rest =>
    match codePoint? a b c d with
    | some x => x :: expand rest
    | none => '\\' :: 'u' :: expand (a :: b :: c :: d :: rest)
  | '\\' :: 'u' :: rest => '\\' :: 'u' :: expand rest
  | '\\' :: c :: rest => c :: expand rest
  | c :: rest => c :: expand rest
  | [] => []

/-- The escape of a line break or tab; any other character stands for itself. -/
def shown : Char → Text
  | '\n' => ['\\', 'n']
  | '\r' => ['\\', 'r']
  | '\t' => ['\\', 't']
  | c => [c]

/-- The text with its line breaks and tabs shown as escapes. A backslash is left alone. -/
def printable (text : Text) : Text :=
  text.flatMap shown

end Delimited.Escape
