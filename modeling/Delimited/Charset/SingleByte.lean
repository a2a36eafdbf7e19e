import Delimited.Charset.Basic
import Delimited.Charset.Index
import Delimited.Charset.Table.SingleByte

set_option autoImplicit false
set_option relaxedAutoImplicit false

/-!
# Charsets of one byte per character

## Main definitions

* `Delimited.CodePage.decoder`, `Delimited.CodePage.encoder` — ASCII with an upper half from a
  table.
* `Delimited.UserDefined.decoder`, `Delimited.UserDefined.encoder` — ASCII with an upper half in a
  private area of Unicode.
-/

namespace Delimited

namespace CodePage

/-- The characters of the upper half, one table per code page. -/
def lines : CodePage → List String
  | .ibm866 => Charset.Table.ibm866
  | .iso8859_2 => Charset.Table.iso8859_2
  | .iso8859_3 => Charset.Table.iso8859_3
  | .iso8859_4 => Charset.Table.iso8859_4
  | .iso8859_5 => Charset.Table.iso8859_5
  | .iso8859_6 => Charset.Table.iso8859_6
  | .iso8859_7 => Charset.Table.iso8859_7
  | .iso8859_8 => Charset.Table.iso8859_8
  | .iso8859_8i => Charset.Table.iso8859_8
  | .iso8859_10 => Charset.Table.iso8859_10
  | .iso8859_13 => Charset.Table.iso8859_13
  | .iso8859_14 => Charset.Table.iso8859_14
  | .iso8859_15 => Charset.Table.iso8859_15
  | .iso8859_16 => Charset.Table.iso8859_16
  | .koi8_r => Charset.Table.koi8_r
  | .koi8_u => Charset.Table.koi8_u
  | .macintosh => Charset.Table.macintosh
  | .windows874 => Charset.Table.windows874
  | .windows1250 => Charset.Table.windows1250
  | .windows1251 => Charset.Table.windows1251
  | .windows1252 => Charset.Table.windows1252
  | .windows1253 => Charset.Table.windows1253
  | .windows1254 => Charset.Table.windows1254
  | .windows1255 => Charset.Table.windows1255
  | .windows1256 => Charset.Table.windows1256
  | .windows1257 => Charset.Table.windows1257
  | .windows1258 => Charset.Table.windows1258
  | .macCyrillic => Charset.Table.macCyrillic

/-- The table of the upper half; the cell of byte `b` has the pointer `b - 0x80`. -/
def index (page : CodePage) : Index :=
  Index.ofLines page.lines fun _ => true

/-- The decoder of a code page. -/
def decoder (page : CodePage) : Decoder :=
  let upper := page.index
  Decoder.singleByte fun b => if b < 0x80 then some (byteChar b) else upper.char? (b.toNat - 0x80)

/-- The encoder of a code page. -/
def encoder (page : CodePage) : Encoder :=
  let upper := page.index
  Encoder.stateless fun c =>
    if c.toNat < 0x80 then some [UInt8.ofNat c.toNat]
    else (upper.pointer? c).map fun p => [UInt8.ofNat (0x80 + p)]

end CodePage

namespace UserDefined

/-- The decoder of the user-defined charset: the upper bytes stand for `U+F780`–`U+F7FF`. -/
def decoder : Decoder :=
  Decoder.singleByte fun b =>
    some (if b < 0x80 then byteChar b else Char.ofNat (0xF700 + b.toNat))

/-- The encoder of the user-defined charset. -/
def encoder : Encoder :=
  Encoder.stateless fun c =>
    if c.toNat < 0x80 then some [UInt8.ofNat c.toNat]
    else if 0xF780 ≤ c.toNat ∧ c.toNat ≤ 0xF7FF then some [UInt8.ofNat (c.toNat - 0xF700)]
    else none

end UserDefined

end Delimited
