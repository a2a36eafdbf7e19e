import Delimited.Error

set_option autoImplicit false
set_option relaxedAutoImplicit false

/-!
# Character sinks

## Main definitions

* `Delimited.CharSink` — what text can be written to.

A string is a sink that never fails.
-/

namespace Delimited

/-- A **character sink**. -/
class CharSink (κ : Type) where
  /-- Writes a piece of text. -/
  write : Text → κ → Except IoFault Unit × κ
  /-- Hands on what is still held back. -/
  flush : κ → Except IoFault Unit × κ

/-- A string takes text at its end. -/
instance : CharSink String where
  write text s := (.ok (), s ++ String.ofList text)
  flush s := (.ok (), s)

end Delimited
