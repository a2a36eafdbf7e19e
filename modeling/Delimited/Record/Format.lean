import Delimited.Text

set_option autoImplicit false
set_option relaxedAutoImplicit false

/-!
# How fields are quoted and newlines treated

## Main definitions

* `Delimited.QuoteMode` — which fields are written in quotes.
* `Delimited.NewlinePolicy` — what becomes of a newline outside quotes.
-/

namespace Delimited

/-- Which fields are written in quotes. -/
inductive QuoteMode where
  /-- None. -/
  | never
  /-- All. -/
  | always
  /-- Those that contain the quote or a delimiter. -/
  | asNeeded
  deriving DecidableEq, Repr, Inhabited

/-- The name of a quote mode. -/
def QuoteMode.name : QuoteMode → String
  | .never => "NEVER"
  | .always => "ALWAYS"
  | .asNeeded => "AS_NEEDED"

/-- The quote mode with a name in any case, with or without white space around it. -/
def QuoteMode.ofName? (name : Text) : Option QuoteMode :=
  match String.ofList ((trimmed name).map Char.toUpper) with
  | "NEVER" => some .never
  | "ALWAYS" => some .always
  | "AS_NEEDED" | "ASNEEDED" => some .asNeeded
  | _ => none

/-- What becomes of a newline outside quotes. -/
inductive NewlinePolicy where
  /-- It is kept. -/
  | preserve
  /-- It becomes a space, together with a carriage return before it. -/
  | space
  /-- It is an error. -/
  | reject
  deriving DecidableEq, Repr, Inhabited

/-- The name of a newline policy. -/
def NewlinePolicy.name : NewlinePolicy → String
  | .preserve => "preserve"
  | .space => "space"
  | .reject => "reject"

end Delimited
