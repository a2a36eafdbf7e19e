import Delimited.Charset.Big5
import Delimited.Charset.EucKr
import Delimited.Charset.Gb18030
import Delimited.Charset.Iso2022Jp
import Delimited.Charset.SingleByte
import Delimited.Charset.Unicode

set_option autoImplicit false
set_option relaxedAutoImplicit false

/-!
# The codecs of all charsets

## Main definitions

* `Delimited.Charset.decoder`, `Delimited.Charset.encoder` — the codec of a charset.
* `Delimited.Charset.decode`, `Delimited.Charset.encode` — whole byte strings and texts.
-/

namespace Delimited.Charset

/-- The decoder of the replacement charset: any bytes at all are one malformed sequence. -/
def refusal : Decoder where
  State := Bool
  start := false
  step seen _ := (if seen then [] else [replacementChar], true)
  finish _ := []

/-- The **decoder** of a charset. -/
def decoder : Charset → Decoder
  | .utf8 => Utf8.decoder
  | .utf16be => Utf16.decoder .big
  | .utf16le => Utf16.decoder .little
  | .singleByte page => page.decoder
  | .gbk | .gb18030 => Gb18030.decoder
  | .big5 => Big5.decoder
  | .eucJp => EucJp.decoder
  | .iso2022Jp => Iso2022Jp.decoder
  | .shiftJis => ShiftJis.decoder
  | .eucKr => EucKr.decoder
  | .replacement => refusal
  | .userDefined => UserDefined.decoder

/-- The **encoder** of a charset. The replacement charset is written as UTF-8. -/
def encoder : Charset → Encoder
  | .utf8 | .replacement => Utf8.encoder
  | .utf16be => Utf16.encoder .big
  | .utf16le => Utf16.encoder .little
  | .singleByte page => page.encoder
  | .gbk => Gb18030.encoder true
  | .gb18030 => Gb18030.encoder false
  | .big5 => Big5.encoder
  | .eucJp => EucJp.encoder
  | .iso2022Jp => Iso2022Jp.encoder
  | .shiftJis => ShiftJis.encoder
  | .eucKr => EucKr.encoder
  | .userDefined => UserDefined.encoder

/-- The text of a byte string; malformed sequences become `replacementChar`. -/
def decode (charset : Charset) (bytes : Bytes) : Text :=
  charset.decoder.decode bytes

/-- The bytes of a text; what the charset does not have becomes a numeric reference. -/
def encode (charset : Charset) (text : Text) : Bytes :=
  charset.encoder.encode numericReference text

end Delimited.Charset
