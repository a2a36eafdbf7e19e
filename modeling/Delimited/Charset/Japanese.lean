import Delimited.Charset.Index
import Delimited.Charset.Table.Jis0208
import Delimited.Charset.Table.Jis0212

set_option autoImplicit false
set_option relaxedAutoImplicit false

/-!
# Shift JIS and EUC-JP

Both write the characters of JIS X 0208 as two bytes and have the half-width katakana; EUC-JP also
reads the supplement JIS X 0212 in three bytes.

## Main definitions

* `Delimited.Jis.index` — the characters of JIS X 0208.
* `Delimited.ShiftJis.decoder`, `Delimited.ShiftJis.encoder`.
* `Delimited.EucJp.decoder`, `Delimited.EucJp.encoder`.
-/

namespace Delimited

/-! ## The shared characters -/

namespace Jis

/-- The characters of JIS X 0208. A character is encoded as its first cell. -/
def index : Index :=
  Index.ofLines Charset.Table.jis0208 fun _ => true

/-- The supplementary characters of JIS X 0212, which are never encoded. -/
def supplement : Index :=
  Index.ofLines Charset.Table.jis0212 fun _ => false

/-- The half-width katakana whose place is `k`. -/
def halfWidth (k : Nat) : Char := Char.ofNat (0xFF61 + k)

/-- Whether a character is a half-width katakana. -/
def isHalfWidth (c : Char) : Bool := 0xFF61 ≤ c.toNat && c.toNat ≤ 0xFF9F

/-- The minus sign is encoded as the full-width hyphen-minus, which is what its cell holds. -/
def canonical (c : Char) : Char := if c = '\u2212' then '\uff0d' else c

end Jis

/-! ## Shift JIS -/

namespace ShiftJis

/-- The characters of JIS X 0208 for encoding: of the two areas with vendor characters, the one
with the pointers 8272–8835 is left out. -/
def written : Index :=
  Index.ofLines Charset.Table.jis0208 fun p => p < 8272 || 8835 < p

/-- The pointer of two bytes. -/
def pointerOf? (lead trail : UInt8) : Option Nat :=
  if (0x40 ≤ trail ∧ trail ≤ 0x7E) ∨ (0x80 ≤ trail ∧ trail ≤ 0xFC) then
    let row := lead.toNat - if lead < 0xA0 then 0x81 else 0xC1
    some (row * 188 + (trail.toNat - if trail < 0x7F then 0x40 else 0x41))
  else none

/-- The character of a pointer. The pointers 8836–10715 are left to the user. -/
def pointed? (p : Nat) : Option Char :=
  if 8836 ≤ p ∧ p ≤ 10715 then some (Char.ofNat (0xE000 + (p - 8836))) else Jis.index.char? p

/-- The bytes of a pointer. -/
def bytesOf (p : Nat) : Bytes :=
  let row := p / 188
  let cell := p % 188
  [UInt8.ofNat (row + if row < 0x1F then 0x81 else 0xC1),
    UInt8.ofNat (cell + if cell < 0x3F then 0x40 else 0x41)]

/-- The **decoder** of Shift JIS. -/
def decoder : Decoder :=
  Decoder.doubleByte
    (fun b =>
      if b ≤ 0x80 then some (byteChar b)
      else if 0xA1 ≤ b ∧ b ≤ 0xDF then some (Jis.halfWidth (b.toNat - 0xA1))
      else none)
    (fun b => (0x81 ≤ b && b ≤ 0x9F) || (0xE0 ≤ b && b ≤ 0xFC))
    fun lead trail => ((pointerOf? lead trail).bind pointed?).map ([·])

/-- The **encoder** of Shift JIS. -/
def encoder : Encoder :=
  Encoder.stateless fun c =>
    if c.toNat ≤ 0x80 then some [UInt8.ofNat c.toNat]
    else if c = '\u00a5' then some [0x5C]
    else if c = '\u203e' then some [0x7E]
    else if Jis.isHalfWidth c then some [UInt8.ofNat (c.toNat - 0xFF61 + 0xA1)]
    else (written.pointer? (Jis.canonical c)).map bytesOf

end ShiftJis

/-! ## EUC-JP -/

namespace EucJp

/-- The bytes of a character that is not yet complete: a lead byte, or the mark of the supplement
and a lead byte. -/
inductive State where
  | start
  | lead (first : UInt8)
  | supplement (first : UInt8)
  deriving DecidableEq, Repr

/-- Whether a byte belongs to a character of two or three bytes. -/
def isHigh (b : UInt8) : Bool := 0xA1 ≤ b && b ≤ 0xFE

/-- The pointer of two bytes. -/
def pointerOf (first second : UInt8) : Nat := (first.toNat - 0xA1) * 94 + (second.toNat - 0xA1)

/-- The outcome of the last byte of a character. -/
def complete (found : Option Char) (b : UInt8) : Text × State :=
  match found with
  | some c => ([c], .start)
  | none =>
    if b < 0x80 then ([replacementChar, byteChar b], .start) else ([replacementChar], .start)

/-- One byte in any state. -/
def step : State → UInt8 → Text × State
  | .start, b =>
    if b < 0x80 then ([byteChar b], .start)
    else if b = 0x8E ∨ b = 0x8F ∨ isHigh b then ([], .lead b)
    else ([replacementChar], .start)
  | .lead first, b =>
    if first = 0x8F ∧ isHigh b then ([], .supplement b)
    else if first = 0x8E ∧ 0xA1 ≤ b ∧ b ≤ 0xDF then ([Jis.halfWidth (b.toNat - 0xA1)], .start)
    else if isHigh first ∧ isHigh b then complete (Jis.index.char? (pointerOf first b)) b
    else complete none b
  | .supplement first, b =>
    if isHigh b then complete (Jis.supplement.char? (pointerOf first b)) b else complete none b

/-- The **decoder** of EUC-JP. -/
def decoder : Decoder where
  State := State
  start := .start
  step := step
  finish
    | .start => []
    | _ => [replacementChar]

/-- The **encoder** of EUC-JP. -/
def encoder : Encoder :=
  Encoder.stateless fun c =>
    if c.toNat < 0x80 then some [UInt8.ofNat c.toNat]
    else if c = '\u00a5' then some [0x5C]
    else if c = '\u203e' then some [0x7E]
    else if Jis.isHalfWidth c then some [0x8E, UInt8.ofNat (c.toNat - 0xFF61 + 0xA1)]
    else
      match Jis.index.pointer? (Jis.canonical c) with
      | some p =>
        if p < 8836 then some [UInt8.ofNat (0xA1 + p / 94), UInt8.ofNat (0xA1 + p % 94)] else none
      | none => none

end EucJp

end Delimited
