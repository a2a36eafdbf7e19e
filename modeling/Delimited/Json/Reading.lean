import Delimited.Json.Token

set_option autoImplicit false
set_option relaxedAutoImplicit false

/-!
# Reading JSON

The tokens of a document are put together by a machine with a stack of the arrays and objects that
are not yet closed.

## Main definitions

* `Delimited.Json.ofTokens?` — the value that tokens write.
* `Delimited.Json.parse?` — the value of a document.
-/

namespace Delimited.Json

/-- A member of an object whose key may stand for no text. -/
abbrev Member := Option String × Json

/-- An array or object that is not yet closed, with its parts so far, the latest first. -/
inductive Frame where
  | array (done : List Json)
  | object (done : List Member) (key : Option String)
  deriving Repr

/-- What has to come next. -/
inductive Expected where
  /-- A value. -/
  | value
  /-- The first item of an array, or its end. -/
  | firstItem
  /-- The first key of an object, or its end. -/
  | firstKey
  /-- A key of an object that has the members `done`. -/
  | key (done : List Member)
  /-- The colon after a key. -/
  | colon
  /-- A comma or the end of an array or object, of which `last` is the latest part. -/
  | separator (last : Json)
  deriving Repr

/-- The key that a scalar is, if it may be one. -/
def key? : Json → Option (Option String)
  | .string key => some (some key)
  | .unpaired => some none
  | _ => none

/-- The object with some members. -/
def ofMembers (members : List Member) : Json :=
  match members.mapM fun (key, value) => key.map (·, value) with
  | some members => .object members
  | none => .unpaired

/-- One token, which has to be what is expected. -/
def consume (stack : List Frame) (expected : Expected) (token : Token) :
    Option (List Frame × Expected) :=
  match expected, token with
  | .value, .scalar v | .firstItem, .scalar v => some (stack, .separator v)
  | .value, .arrayOpen | .firstItem, .arrayOpen => some (.array [] :: stack, .firstItem)
  | .value, .objectOpen | .firstItem, .objectOpen => some (stack, .firstKey)
  | .firstItem, .arrayClose =>
    match stack with
    | .array [] :: rest => some (rest, .separator (.array []))
    | _ => none
  | .firstKey, .objectClose => some (stack, .separator (.object []))
  | .firstKey, .scalar v => (key? v).map fun key => (.object [] key :: stack, .colon)
  | .key done, .scalar v => (key? v).map fun key => (.object done key :: stack, .colon)
  | .colon, .colon => some (stack, .value)
  | .separator last, .comma =>
    match stack with
    | .array done :: rest => some (.array (last :: done) :: rest, .value)
    | .object done key :: rest => some (rest, .key ((key, last) :: done))
    | [] => none
  | .separator last, .arrayClose =>
    match stack with
    | .array done :: rest => some (rest, .separator (.array (last :: done).reverse))
    | _ => none
  | .separator last, .objectClose =>
    match stack with
    | .object done key :: rest =>
      some (rest, .separator (ofMembers ((key, last) :: done).reverse))
    | _ => none
  | _, _ => none

/-- The value that tokens complete. -/
def assemble (stack : List Frame) (expected : Expected) : List Token → Option Json
  | [] =>
    match stack, expected with
    | [], .separator value => some value
    | _, _ => none
  | token :: tokens =>
    match consume stack expected token with
    | some (stack, expected) => assemble stack expected tokens
    | none => none

/-- The value that tokens write. -/
def ofTokens? (tokens : List Token) : Option Json :=
  assemble [] .value tokens

/-- The **value of a document**, if it is well-formed. -/
def parse? (document : Text) : Option Json :=
  (tokens? document).bind ofTokens?

end Delimited.Json
