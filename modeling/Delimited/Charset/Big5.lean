import Delimited.Charset.Index
import Delimited.Charset.Table.Big5

set_option autoImplicit false
set_option relaxedAutoImplicit false

/-!
# Big5

ASCII in one byte; Chinese in two, of which the first is one of `0x81`–`0xFE` and the second one of
`0x40`–`0x7E` and `0xA1`–`0xFE`. Four pairs stand for a letter with a combining mark. The cells of
the Hong Kong supplement below the lead byte `0xA1` are read but never written.

## Main definitions

* `Delimited.Big5.decoder`, `Delimited.Big5.encoder`.
-/

namespace Delimited.Big5

/-- The first pointer that may be written. -/
def firstWritten : Nat := (0xA1 - 0x81) * 157

/-- The characters of two bytes. -/
def index : Index :=
  Index.ofLines Charset.Table.big5 fun p => firstWritten ≤ p

/-- The pointer of two bytes. -/
def pointerOf? (lead trail : UInt8) : Option Nat :=
  let row := (lead.toNat - 0x81) * 157
  if 0x40 ≤ trail ∧ trail ≤ 0x7E then some (row + (trail.toNat - 0x40))
  else if 0xA1 ≤ trail ∧ trail ≤ 0xFE then some (row + (trail.toNat - 0x62))
  else none

/-- The text of two bytes. -/
def pair (lead trail : UInt8) : Option Text :=
  match pointerOf? lead trail with
  | some 1133 => some ['\u00ca', '\u0304']
  | some 1135 => some ['\u00ca', '\u030c']
  | some 1164 => some ['\u00ea', '\u0304']
  | some 1166 => some ['\u00ea', '\u030c']
  | some p => (index.char? p).map ([·])
  | none => none

/-- The pointers of the characters that are written as their last cell. -/
def lastCell? : Char → Option Nat
  | '\u2550' => some 18991
  | '\u255e' => some 18975
  | '\u2561' => some 18977
  | '\u256a' => some 18976
  | '\u5341' => some 5512
  | '\u5345' => some 5599
  | _ => none

/-- The pointer that a character is written as: its first cell, or for a few its last. -/
def pointer? (c : Char) : Option Nat :=
  (lastCell? c).or (index.pointer? c)

/-- The bytes of a pointer. -/
def bytesOf (p : Nat) : Bytes :=
  let k := p % 157
  [UInt8.ofNat (0x81 + p / 157), UInt8.ofNat (if k < 0x3F then 0x40 + k else 0x62 + k)]

/-- The **decoder** of Big5. -/
def decoder : Decoder :=
  Decoder.doubleByte (fun b => if b < 0x80 then some (byteChar b) else none)
    (fun b => 0x81 ≤ b && b ≤ 0xFE) pair

/-- The **encoder** of Big5. -/
def encoder : Encoder :=
  Encoder.stateless fun c =>
    if c.toNat < 0x80 then some [UInt8.ofNat c.toNat] else (pointer? c).map bytesOf

end Delimited.Big5
