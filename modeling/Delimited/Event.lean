import Delimited.Error
import Delimited.HexDump

set_option autoImplicit false
set_option relaxedAutoImplicit false

/-!
# Log events

A run reports its progress as a list of events. A row that fails validation is announced by a
warning that shows the row as a hex dump, since what is wrong with it is often invisible.

## Main definitions

* `Delimited.Event` — a level, a message and named values.
* `Delimited.Error.warning?` — the warning that announces an error.
-/

namespace Delimited

/-- The severity of an event. -/
inductive Level where
  | trace
  | debug
  | info
  | warn
  deriving DecidableEq, Repr, Inhabited

/-- The name of a level. -/
def Level.name : Level → String
  | .trace => "TRACE"
  | .debug => "DEBUG"
  | .info => "INFO"
  | .warn => "WARN"

/-- An **event** of the log: its level, its message and the values it carries by name. -/
structure Event where
  level : Level
  message : String
  fields : List (String × String)
  deriving DecidableEq, Repr, Inhabited

/-- The dump of a text's UTF-8 bytes. -/
def dumped (text : Text) : String :=
  String.ofList (HexDump.render (utf8Bytes text))

/-- The warning that announces a validation error about one row. -/
def Error.warning? : Error → Option Event
  | .columnCount m => some {
      level := .warn
      message := "column count mismatch, reconstructed row:\n" ++ dumped m.row
      fields := [("location", m.location.name), ("configured", toString m.configured),
        ("expected", toString m.expected), ("actual", toString m.actual)] }
  | .width m => some {
      level := .warn
      message := (Error.width m).message ++ ", row content:\n" ++ dumped m.content
      fields := [("row", toString m.row)] }
  | _ => none

end Delimited
