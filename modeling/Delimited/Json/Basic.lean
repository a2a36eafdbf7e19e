import Delimited.Text

set_option autoImplicit false
set_option relaxedAutoImplicit false

/-!
# JSON values

## Main definitions

* `Delimited.Json` — a JSON value.
* `Delimited.Json.render` — its text, without white space between tokens.
* `Delimited.Json.lastWins` — a value in which no object repeats a key.
-/

namespace Delimited

/-- A **JSON value**. Numbers are told apart by how they are written, since a natural number in
another notation is not accepted where a count is wanted. -/
inductive Json where
  | null
  | bool (value : Bool)
  /-- A number written with digits alone. -/
  | natural (value : Nat)
  /-- A number written in any other way. -/
  | number (written : String)
  | string (value : String)
  /-- A string, or an object with a key, in which a surrogate has no partner. It is well-formed but
  stands for no text. -/
  | unpaired
  | array (items : List Json)
  /-- An object with its members in the order in which they are written. -/
  | object (members : List (String × Json))
  deriving Repr, Inhabited

namespace Json

/-! ## Printing -/

/-- A character inside a string. -/
def renderChar (c : Char) : Text :=
  match c with
  | '"' => ['\\', '"']
  | '\\' => ['\\', '\\']
  | '\n' => ['\\', 'n']
  | '\r' => ['\\', 'r']
  | '\t' => ['\\', 't']
  | c =>
    if c.toNat < 0x20 then
      ['\\', 'u', '0', '0', Nat.digitChar (c.toNat / 16), Nat.digitChar (c.toNat % 16)]
    else [c]

/-- The written form of a string. -/
def renderString (s : String) : String :=
  "\"" ++ String.ofList (s.toList.flatMap renderChar) ++ "\""

mutual

/-- The written form of a value. -/
def render : Json → String
  | .null => "null"
  | .bool b => if b then "true" else "false"
  | .natural n => toString n
  | .number written => written
  | .string s => renderString s
  | .unpaired => "\"\\ud800\""
  | .array items => "[" ++ String.intercalate "," (renderItems items) ++ "]"
  | .object members => "\x7b" ++ String.intercalate "," (renderMembers members) ++ "\x7d"

/-- The written forms of the items of an array. -/
def renderItems : List Json → List String
  | [] => []
  | item :: items => render item :: renderItems items

/-- The written forms of the members of an object. -/
def renderMembers : List (String × Json) → List String
  | [] => []
  | (key, value) :: members =>
    (renderString key ++ ":" ++ render value) :: renderMembers members

end

/-! ## Objects -/

/-- Puts a member into an object in place of an earlier one with its key. -/
def insertMember (key : String) (value : Json) (members : List (String × Json)) :
    List (String × Json) :=
  members.filter (·.1 ≠ key) ++ [(key, value)]

mutual

/-- The value in which of several members with one key only the last is left. -/
def lastWins : Json → Json
  | .array items => .array (lastWinsItems items)
  | .object members => .object (lastWinsMembers members [])
  | value => value

/-- The items of an array, each without repeated keys. -/
def lastWinsItems : List Json → List Json
  | [] => []
  | item :: items => lastWins item :: lastWinsItems items

/-- The members of an object without repeated keys, after those in `done`. -/
def lastWinsMembers : List (String × Json) → List (String × Json) → List (String × Json)
  | [], done => done
  | (key, value) :: members, done =>
    lastWinsMembers members (insertMember key (lastWins value) done)

end

/-- The member of an object with a key. -/
def member? (key : String) : Json → Option Json
  | .object members => members.lookup key
  | _ => none

end Json

end Delimited
