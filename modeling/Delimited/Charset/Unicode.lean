import Delimited.Charset.Codec

set_option autoImplicit false
set_option relaxedAutoImplicit false

/-!
# UTF-8 and UTF-16

UTF-8 takes one to four bytes per character. A malformed sequence gives one replacement character
for the longest stretch that begins a well-formed one; the byte that breaks it off is read anew.

UTF-16 takes one or two units of two bytes. A surrogate without its partner gives one replacement
character, and so do the bytes left over at the end.

## Main definitions

* `Delimited.Utf8.decoder`, `Delimited.Utf8.encoder`.
* `Delimited.Utf8.text?` — the text of bytes that are well-formed throughout.
* `Delimited.Utf16.decoder`, `Delimited.Utf16.encoder`.
-/

namespace Delimited

/-! ## UTF-8 -/

namespace Utf8

/-- The state between two bytes: between characters, or with the leading bits of a character, the
number of bytes it still needs, and the range of the next one. -/
inductive State where
  | start
  | tail (bits needed : Nat) (low high : UInt8)
  deriving DecidableEq, Repr

/-- The first byte of a character. The ranges of the second byte leave out overlong forms,
surrogates and what is above the last code point. -/
def first (b : UInt8) : Text × State :=
  if b < 0x80 then ([byteChar b], .start)
  else if 0xC2 ≤ b ∧ b ≤ 0xDF then ([], .tail (b.toNat - 0xC0) 1 0x80 0xBF)
  else if b = 0xE0 then ([], .tail 0 2 0xA0 0xBF)
  else if b = 0xED then ([], .tail 0xD 2 0x80 0x9F)
  else if 0xE1 ≤ b ∧ b ≤ 0xEF then ([], .tail (b.toNat - 0xE0) 2 0x80 0xBF)
  else if b = 0xF0 then ([], .tail 0 3 0x90 0xBF)
  else if b = 0xF4 then ([], .tail 4 3 0x80 0x8F)
  else if 0xF1 ≤ b ∧ b ≤ 0xF3 then ([], .tail (b.toNat - 0xF0) 3 0x80 0xBF)
  else ([replacementChar], .start)

/-- One byte in any state. -/
def step : State → UInt8 → Text × State
  | .start, b => first b
  | .tail bits needed low high, b =>
    if low ≤ b ∧ b ≤ high then
      let all := bits * 64 + (b.toNat - 0x80)
      if needed ≤ 1 then ([Char.ofNat all], .start) else ([], .tail all (needed - 1) 0x80 0xBF)
    else (replacementChar :: (first b).1, (first b).2)

/-- The **decoder** of UTF-8. -/
def decoder : Decoder where
  State := State
  start := .start
  step := step
  finish
    | .start => []
    | .tail _ _ _ _ => [replacementChar]

/-- The **encoder** of UTF-8. -/
def encoder : Encoder :=
  Encoder.stateless fun c => some (String.utf8EncodeChar c)

/-- The text of which these are the UTF-8 bytes, if they are those of a text. -/
def text? (bytes : Bytes) : Option Text :=
  let text := decoder.decode bytes
  if utf8Bytes text = bytes then some text else none

end Utf8

/-! ## UTF-16 -/

/-- Which byte of a unit comes first. -/
inductive ByteOrder where
  /-- The high byte. -/
  | big
  /-- The low byte. -/
  | little
  deriving DecidableEq, Repr

namespace Utf16

/-- The two bytes of a unit. -/
def unitBytes (order : ByteOrder) (unit : Nat) : Bytes :=
  match order with
  | .big => [UInt8.ofNat (unit / 256), UInt8.ofNat (unit % 256)]
  | .little => [UInt8.ofNat (unit % 256), UInt8.ofNat (unit / 256)]

/-- The unit of two bytes. -/
def unitOf (order : ByteOrder) (first second : UInt8) : Nat :=
  match order with
  | .big => first.toNat * 256 + second.toNat
  | .little => second.toNat * 256 + first.toNat

/-- The units of a character: itself, or a pair of surrogates. -/
def units (c : Char) : List Nat :=
  if c.toNat < 0x10000 then [c.toNat]
  else [0xD800 + (c.toNat - 0x10000) / 1024, 0xDC00 + (c.toNat - 0x10000) % 1024]

/-- The state between two bytes: the leading surrogate and the first byte of a unit, if any. -/
structure State where
  surrogate : Option Nat
  held : Option UInt8
  deriving DecidableEq, Repr

/-- A unit that no leading surrogate precedes. -/
def fresh (unit : Nat) : Text × State :=
  if 0xD800 ≤ unit ∧ unit < 0xDC00 then ([], ⟨some unit, none⟩)
  else if 0xDC00 ≤ unit ∧ unit < 0xE000 then ([replacementChar], ⟨none, none⟩)
  else ([Char.ofNat unit], ⟨none, none⟩)

/-- One byte in any state. -/
def step (order : ByteOrder) : State → UInt8 → Text × State
  | ⟨lead, none⟩, b => ([], ⟨lead, some b⟩)
  | ⟨none, some held⟩, b => fresh (unitOf order held b)
  | ⟨some lead, some held⟩, b =>
    let unit := unitOf order held b
    if 0xDC00 ≤ unit ∧ unit < 0xE000 then
      ([Char.ofNat (0x10000 + (lead - 0xD800) * 1024 + (unit - 0xDC00))], ⟨none, none⟩)
    else (replacementChar :: (fresh unit).1, (fresh unit).2)

/-- The **decoder** of UTF-16. -/
def decoder (order : ByteOrder) : Decoder where
  State := State
  start := ⟨none, none⟩
  step := step order
  finish
    | ⟨none, none⟩ => []
    | _ => [replacementChar]

/-- The **encoder** of UTF-16. -/
def encoder (order : ByteOrder) : Encoder :=
  Encoder.stateless fun c => some ((units c).flatMap (unitBytes order))

end Utf16

end Delimited
