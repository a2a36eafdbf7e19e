import Delimited.Escape
import Delimited.Json.Basic

set_option autoImplicit false
set_option relaxedAutoImplicit false

/-!
# Tokens of JSON

A text is cut into tokens by a machine that reads one character after another. Only the four white
space characters of the standard may stand between tokens, and a string holds no control characters.

## Main definitions

* `Delimited.Json.Token` — punctuation, or a value without parts.
* `Delimited.Json.tokens?` — the tokens of a text.
-/

namespace Delimited.Json

/-- A **token**. -/
inductive Token where
  | arrayOpen
  | arrayClose
  | objectOpen
  | objectClose
  | comma
  | colon
  /-- A string, a number, a truth value or null. -/
  | scalar (value : Json)
  deriving Repr

/-! ## Words -/

/-- Whether a text is an exponent, or empty. -/
def isExponent (text : Text) : Bool :=
  match text with
  | [] => true
  | c :: rest =>
    let digits := match rest with
      | '+' :: ds => ds
      | '-' :: ds => ds
      | ds => ds
    (c = 'e' || c = 'E') && digits ≠ [] && digits.all Char.isDigit

/-- Whether a text is what may follow the digits before the decimal point. -/
def isFraction (text : Text) : Bool :=
  match text with
  | '.' :: rest => rest.takeWhile Char.isDigit ≠ [] && isExponent (rest.dropWhile Char.isDigit)
  | _ => isExponent text

/-- Whether a text is a number without its sign. -/
def isMagnitude (text : Text) : Bool :=
  let digits := text.takeWhile Char.isDigit
  digits ≠ [] && (digits.length = 1 || digits.head? ≠ some '0') &&
    isFraction (text.dropWhile Char.isDigit)

/-- The number that decimal digits write. -/
def decimal (digits : Text) : Nat :=
  digits.foldl (fun n c => 10 * n + (c.toNat - '0'.toNat)) 0

/-- The value that a word stands for. -/
def ofWord? (word : Text) : Option Json :=
  match word with
  | ['n', 'u', 'l', 'l'] => some .null
  | ['t', 'r', 'u', 'e'] => some (.bool true)
  | ['f', 'a', 'l', 's', 'e'] => some (.bool false)
  | '-' :: rest => if isMagnitude rest then some (.number (String.ofList word)) else none
  | _ =>
    if isMagnitude word then
      some (if word.all Char.isDigit then .natural (decimal word) else .number (String.ofList word))
    else none

/-! ## Strings -/

/-- The text of a string whose characters are given by their codes. Codes of surrogates have to come
in pairs. -/
def ofCodes? : List Nat → Option Text
  | [] => some []
  | a :: b :: rest =>
    if 0xD800 ≤ a ∧ a < 0xDC00 ∧ 0xDC00 ≤ b ∧ b < 0xE000 then
      (ofCodes? rest).map (Char.ofNat (0x10000 + (a - 0xD800) * 1024 + (b - 0xDC00)) :: ·)
    else
      match Escape.scalar? a with
      | some c => (ofCodes? (b :: rest)).map (c :: ·)
      | none => none
  | [a] => (Escape.scalar? a).map ([·])

/-- The value of a string. -/
def ofString (codes : List Nat) : Json :=
  match ofCodes? codes with
  | some text => .string (String.ofList text)
  | none => .unpaired

/-- The character named by a backslash and a letter. -/
def escaped? : Char → Option Char
  | '"' => some '"'
  | '\\' => some '\\'
  | '/' => some '/'
  | 'b' => some '\x08'
  | 'f' => some '\x0c'
  | 'n' => some '\n'
  | 'r' => some '\r'
  | 't' => some '\t'
  | _ => none

/-! ## The machine -/

/-- Where in a token the next character stands. Lists have the latest element first. -/
inductive Mode where
  /-- Between tokens. -/
  | between
  /-- In a word. -/
  | word (chars : Text)
  /-- In a string. -/
  | quoted (codes : List Nat)
  /-- After a backslash in a string. -/
  | escape (codes : List Nat)
  /-- In the digits of a code. -/
  | code (codes : List Nat) (digits : Text)
  deriving Repr

/-- The token of a punctuation mark. -/
def punctuation? : Char → Option Token
  | '[' => some .arrayOpen
  | ']' => some .arrayClose
  | '\x7b' => some .objectOpen
  | '\x7d' => some .objectClose
  | ',' => some .comma
  | ':' => some .colon
  | _ => none

/-- Whether a character may stand in a word. -/
def isWordChar (c : Char) : Bool :=
  c.isAlphanum || c = '-' || c = '+' || c = '.'

/-- A character between tokens, after the tokens `done`. -/
def between (done : List Token) (c : Char) : Option (List Token × Mode) :=
  if c = ' ' ∨ c = '\t' ∨ c = '\n' ∨ c = '\r' then some (done, .between)
  else if c = '"' then some (done, .quoted [])
  else if isWordChar c then some (done, .word [c])
  else (punctuation? c).map fun t => (t :: done, .between)

/-- One character in any mode. -/
def step (done : List Token) (mode : Mode) (c : Char) : Option (List Token × Mode) :=
  match mode with
  | .between => between done c
  | .word chars =>
    if isWordChar c then some (done, .word (c :: chars))
    else (ofWord? chars.reverse).bind fun value => between (.scalar value :: done) c
  | .quoted codes =>
    if c = '"' then some (.scalar (ofString codes.reverse) :: done, .between)
    else if c = '\\' then some (done, .escape codes)
    else if c.toNat < 0x20 then none
    else some (done, .quoted (c.toNat :: codes))
  | .escape codes =>
    if c = 'u' then some (done, .code codes [])
    else (escaped? c).map fun x => (done, .quoted (x.toNat :: codes))
  | .code codes digits =>
    if (Escape.hexDigit? c).isNone then none
    else if digits.length < 3 then some (done, .code codes (c :: digits))
    else (Escape.hexNumber? (c :: digits).reverse).map fun n => (done, .quoted (n :: codes))

/-- The tokens of a text after those in `done`. -/
def scan (done : List Token) : Mode → Text → Option (List Token)
  | .between, [] => some done.reverse
  | .word chars, [] => (ofWord? chars.reverse).map fun value => (.scalar value :: done).reverse
  | _, [] => none
  | mode, c :: cs =>
    match step done mode c with
    | some (done, mode) => scan done mode cs
    | none => none

/-- The **tokens of a text**, if it consists of tokens. -/
def tokens? (text : Text) : Option (List Token) :=
  scan [] .between text

end Delimited.Json
