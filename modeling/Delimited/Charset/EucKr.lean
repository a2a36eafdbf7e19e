import Delimited.Charset.Index
import Delimited.Charset.Table.EucKr

set_option autoImplicit false
set_option relaxedAutoImplicit false

/-!
# EUC-KR

ASCII in one byte; Korean in two, of which the first is one of `0x81`–`0xFE` and the second one of
`0x41`–`0xFE`.

## Main definitions

* `Delimited.EucKr.decoder`, `Delimited.EucKr.encoder`.
-/

namespace Delimited.EucKr

/-- The two-byte characters. -/
def index : Index :=
  Index.ofLines Charset.Table.eucKr fun _ => true

/-- The character of two bytes. -/
def pair (lead trail : UInt8) : Option Text :=
  if 0x41 ≤ trail ∧ trail ≤ 0xFE then
    (index.char? ((lead.toNat - 0x81) * 190 + (trail.toNat - 0x41))).map ([·])
  else none

/-- The **decoder** of EUC-KR. -/
def decoder : Decoder :=
  Decoder.doubleByte (fun b => if b < 0x80 then some (byteChar b) else none)
    (fun b => 0x81 ≤ b && b ≤ 0xFE) pair

/-- The **encoder** of EUC-KR. -/
def encoder : Encoder :=
  Encoder.stateless fun c =>
    if c.toNat < 0x80 then some [UInt8.ofNat c.toNat]
    else (index.pointer? c).map fun p => [UInt8.ofNat (0x81 + p / 190), UInt8.ofNat (0x41 + p % 190)]

end Delimited.EucKr
