set_option autoImplicit false
set_option relaxedAutoImplicit false

/-!
# Charsets and their names

The charsets of the Web, each with one canonical name. Codecs are in the modules below
`Delimited.Charset`; this one says only which charsets there are.

## Main definitions

* `Delimited.CodePage` — the charsets of one byte per character.
* `Delimited.Charset` — all charsets.
* `Delimited.Charset.name` — the canonical name.
-/

namespace Delimited

/-- The charsets that extend ASCII by one character for each upper byte. -/
inductive CodePage where
  | ibm866
  | iso8859_2
  | iso8859_3
  | iso8859_4
  | iso8859_5
  | iso8859_6
  | iso8859_7
  | iso8859_8
  | iso8859_8i
  | iso8859_10
  | iso8859_13
  | iso8859_14
  | iso8859_15
  | iso8859_16
  | koi8_r
  | koi8_u
  | macintosh
  | windows874
  | windows1250
  | windows1251
  | windows1252
  | windows1253
  | windows1254
  | windows1255
  | windows1256
  | windows1257
  | windows1258
  | macCyrillic
  deriving DecidableEq, Repr, Inhabited

/-- The canonical name of a code page. -/
def CodePage.name : CodePage → String
  | .ibm866 => "IBM866"
  | .iso8859_2 => "ISO-8859-2"
  | .iso8859_3 => "ISO-8859-3"
  | .iso8859_4 => "ISO-8859-4"
  | .iso8859_5 => "ISO-8859-5"
  | .iso8859_6 => "ISO-8859-6"
  | .iso8859_7 => "ISO-8859-7"
  | .iso8859_8 => "ISO-8859-8"
  | .iso8859_8i => "ISO-8859-8-I"
  | .iso8859_10 => "ISO-8859-10"
  | .iso8859_13 => "ISO-8859-13"
  | .iso8859_14 => "ISO-8859-14"
  | .iso8859_15 => "ISO-8859-15"
  | .iso8859_16 => "ISO-8859-16"
  | .koi8_r => "KOI8-R"
  | .koi8_u => "KOI8-U"
  | .macintosh => "macintosh"
  | .windows874 => "windows-874"
  | .windows1250 => "windows-1250"
  | .windows1251 => "windows-1251"
  | .windows1252 => "windows-1252"
  | .windows1253 => "windows-1253"
  | .windows1254 => "windows-1254"
  | .windows1255 => "windows-1255"
  | .windows1256 => "windows-1256"
  | .windows1257 => "windows-1257"
  | .windows1258 => "windows-1258"
  | .macCyrillic => "x-mac-cyrillic"

/-- A **charset** is a way to write text as bytes. -/
inductive Charset where
  /-- UTF-8. -/
  | utf8
  /-- UTF-16 with the high byte of a unit first. -/
  | utf16be
  /-- UTF-16 with the low byte of a unit first. -/
  | utf16le
  /-- One byte per character. -/
  | singleByte (page : CodePage)
  /-- GBK. -/
  | gbk
  /-- GB 18030. -/
  | gb18030
  /-- Big5 with the Hong Kong supplement. -/
  | big5
  /-- EUC for Japanese. -/
  | eucJp
  /-- ISO-2022-JP. -/
  | iso2022Jp
  /-- Shift JIS. -/
  | shiftJis
  /-- EUC for Korean, extended by all Hangul syllables. -/
  | eucKr
  /-- The charset that stands for those which are not safe to decode. -/
  | replacement
  /-- ASCII with the upper half left to the user. -/
  | userDefined
  deriving DecidableEq, Repr

/-- Text is UTF-8 unless said otherwise. -/
instance : Inhabited Charset := ⟨.utf8⟩

/-- The canonical name of a charset. -/
def Charset.name : Charset → String
  | .utf8 => "UTF-8"
  | .utf16be => "UTF-16BE"
  | .utf16le => "UTF-16LE"
  | .singleByte page => page.name
  | .gbk => "GBK"
  | .gb18030 => "gb18030"
  | .big5 => "Big5"
  | .eucJp => "EUC-JP"
  | .iso2022Jp => "ISO-2022-JP"
  | .shiftJis => "Shift_JIS"
  | .eucKr => "EUC-KR"
  | .replacement => "replacement"
  | .userDefined => "x-user-defined"

end Delimited
