import Delimited.Charset.Basic
import Delimited.Error

set_option autoImplicit false
set_option relaxedAutoImplicit false

/-!
# Charset labels

A charset is chosen by a label. Labels are compared without regard to ASCII case and to white space
at the ends; a charset has many labels, its canonical name among them.

## Main definitions

* `Delimited.Charset.vendorLabels`, `Delimited.Charset.registeredLabels` — the known labels.
* `Delimited.Charset.ofLabel` — the charset that a label names.
-/

namespace Delimited.Charset

/-- Labels that vendors use. They come before the registered ones, so `utf-16` has its high byte
first. -/
def vendorLabels : List (String × Charset) := [
  ("cp949", .eucKr),
  ("ms949", .eucKr),
  ("x-windows-949", .eucKr),
  ("utf-16", .utf16be),
  ("utf8", .utf8)
]

/-- The labels of the registry of Web encodings, in lower case. -/
def registeredLabels : List (String × Charset) := [
  ("unicode-1-1-utf-8", .utf8),
  ("unicode11utf8", .utf8),
  ("unicode20utf8", .utf8),
  ("utf8", .utf8),
  ("utf-8", .utf8),
  ("x-unicode20utf8", .utf8),
  ("866", .singleByte .ibm866),
  ("cp866", .singleByte .ibm866),
  ("csibm866", .singleByte .ibm866),
  ("ibm866", .singleByte .ibm866),
  ("csisolatin2", .singleByte .iso8859_2),
  ("iso-8859-2", .singleByte .iso8859_2),
  ("iso-ir-101", .singleByte .iso8859_2),
  ("iso8859-2", .singleByte .iso8859_2),
  ("iso88592", .singleByte .iso8859_2),
  ("iso_8859-2", .singleByte .iso8859_2),
  ("iso_8859-2:1987", .singleByte .iso8859_2),
  ("l2", .singleByte .iso8859_2),
  ("latin2", .singleByte .iso8859_2),
  ("csisolatin3", .singleByte .iso8859_3),
  ("iso-8859-3", .singleByte .iso8859_3),
  ("iso-ir-109", .singleByte .iso8859_3),
  ("iso8859-3", .singleByte .iso8859_3),
  ("iso88593", .singleByte .iso8859_3),
  ("iso_8859-3", .singleByte .iso8859_3),
  ("iso_8859-3:1988", .singleByte .iso8859_3),
  ("l3", .singleByte .iso8859_3),
  ("latin3", .singleByte .iso8859_3),
  ("csisolatin4", .singleByte .iso8859_4),
  ("iso-8859-4", .singleByte .iso8859_4),
  ("iso-ir-110", .singleByte .iso8859_4),
  ("iso8859-4", .singleByte .iso8859_4),
  ("iso88594", .singleByte .iso8859_4),
  ("iso_8859-4", .singleByte .iso8859_4),
  ("iso_8859-4:1988", .singleByte .iso8859_4),
  ("l4", .singleByte .iso8859_4),
  ("latin4", .singleByte .iso8859_4),
  ("csisolatincyrillic", .singleByte .iso8859_5),
  ("cyrillic", .singleByte .iso8859_5),
  ("iso-8859-5", .singleByte .iso8859_5),
  ("iso-ir-144", .singleByte .iso8859_5),
  ("iso8859-5", .singleByte .iso8859_5),
  ("iso88595", .singleByte .iso8859_5),
  ("iso_8859-5", .singleByte .iso8859_5),
  ("iso_8859-5:1988", .singleByte .iso8859_5),
  ("arabic", .singleByte .iso8859_6),
  ("asmo-708", .singleByte .iso8859_6),
  ("csiso88596e", .singleByte .iso8859_6),
  ("csiso88596i", .singleByte .iso8859_6),
  ("csisolatinarabic", .singleByte .iso8859_6),
  ("ecma-114", .singleByte .iso8859_6),
  ("iso-8859-6", .singleByte .iso8859_6),
  ("iso-8859-6-e", .singleByte .iso8859_6),
  ("iso-8859-6-i", .singleByte .iso8859_6),
  ("iso-ir-127", .singleByte .iso8859_6),
  ("iso8859-6", .singleByte .iso8859_6),
  ("iso88596", .singleByte .iso8859_6),
  ("iso_8859-6", .singleByte .iso8859_6),
  ("iso_8859-6:1987", .singleByte .iso8859_6),
  ("csisolatingreek", .singleByte .iso8859_7),
  ("ecma-118", .singleByte .iso8859_7),
  ("elot_928", .singleByte .iso8859_7),
  ("greek", .singleByte .iso8859_7),
  ("greek8", .singleByte .iso8859_7),
  ("iso-8859-7", .singleByte .iso8859_7),
  ("iso-ir-126", .singleByte .iso8859_7),
  ("iso8859-7", .singleByte .iso8859_7),
  ("iso88597", .singleByte .iso8859_7),
  ("iso_8859-7", .singleByte .iso8859_7),
  ("iso_8859-7:1987", .singleByte .iso8859_7),
  ("sun_eu_greek", .singleByte .iso8859_7),
  ("csiso88598e", .singleByte .iso8859_8),
  ("csisolatinhebrew", .singleByte .iso8859_8),
  ("hebrew", .singleByte .iso8859_8),
  ("iso-8859-8", .singleByte .iso8859_8),
  ("iso-8859-8-e", .singleByte .iso8859_8),
  ("iso-ir-138", .singleByte .iso8859_8),
  ("iso8859-8", .singleByte .iso8859_8),
  ("iso88598", .singleByte .iso8859_8),
  ("iso_8859-8", .singleByte .iso8859_8),
  ("iso_8859-8:1988", .singleByte .iso8859_8),
  ("visual", .singleByte .iso8859_8),
  ("csiso88598i", .singleByte .iso8859_8i),
  ("iso-8859-8-i", .singleByte .iso8859_8i),
  ("logical", .singleByte .iso8859_8i),
  ("csisolatin6", .singleByte .iso8859_10),
  ("iso-8859-10", .singleByte .iso8859_10),
  ("iso-ir-157", .singleByte .iso8859_10),
  ("iso8859-10", .singleByte .iso8859_10),
  ("iso885910", .singleByte .iso8859_10),
  ("l6", .singleByte .iso8859_10),
  ("latin6", .singleByte .iso8859_10),
  ("iso-8859-13", .singleByte .iso8859_13),
  ("iso8859-13", .singleByte .iso8859_13),
  ("iso885913", .singleByte .iso8859_13),
  ("iso-8859-14", .singleByte .iso8859_14),
  ("iso8859-14", .singleByte .iso8859_14),
  ("iso885914", .singleByte .iso8859_14),
  ("csisolatin9", .singleByte .iso8859_15),
  ("iso-8859-15", .singleByte .iso8859_15),
  ("iso8859-15", .singleByte .iso8859_15),
  ("iso885915", .singleByte .iso8859_15),
  ("iso_8859-15", .singleByte .iso8859_15),
  ("l9", .singleByte .iso8859_15),
  ("iso-8859-16", .singleByte .iso8859_16),
  ("cskoi8r", .singleByte .koi8_r),
  ("koi", .singleByte .koi8_r),
  ("koi8", .singleByte .koi8_r),
  ("koi8-r", .singleByte .koi8_r),
  ("koi8_r", .singleByte .koi8_r),
  ("koi8-ru", .singleByte .koi8_u),
  ("koi8-u", .singleByte .koi8_u),
  ("csmacintosh", .singleByte .macintosh),
  ("mac", .singleByte .macintosh),
  ("macintosh", .singleByte .macintosh),
  ("x-mac-roman", .singleByte .macintosh),
  ("dos-874", .singleByte .windows874),
  ("iso-8859-11", .singleByte .windows874),
  ("iso8859-11", .singleByte .windows874),
  ("iso885911", .singleByte .windows874),
  ("tis-620", .singleByte .windows874),
  ("windows-874", .singleByte .windows874),
  ("cp1250", .singleByte .windows1250),
  ("windows-1250", .singleByte .windows1250),
  ("x-cp1250", .singleByte .windows1250),
  ("cp1251", .singleByte .windows1251),
  ("windows-1251", .singleByte .windows1251),
  ("x-cp1251", .singleByte .windows1251),
  ("ansi_x3.4-1968", .singleByte .windows1252),
  ("ascii", .singleByte .windows1252),
  ("cp1252", .singleByte .windows1252),
  ("cp819", .singleByte .windows1252),
  ("csisolatin1", .singleByte .windows1252),
  ("ibm819", .singleByte .windows1252),
  ("iso-8859-1", .singleByte .windows1252),
  ("iso-ir-100", .singleByte .windows1252),
  ("iso8859-1", .singleByte .windows1252),
  ("iso88591", .singleByte .windows1252),
  ("iso_8859-1", .singleByte .windows1252),
  ("iso_8859-1:1987", .singleByte .windows1252),
  ("l1", .singleByte .windows1252),
  ("latin1", .singleByte .windows1252),
  ("us-ascii", .singleByte .windows1252),
  ("windows-1252", .singleByte .windows1252),
  ("x-cp1252", .singleByte .windows1252),
  ("cp1253", .singleByte .windows1253),
  ("windows-1253", .singleByte .windows1253),
  ("x-cp1253", .singleByte .windows1253),
  ("cp1254", .singleByte .windows1254),
  ("csisolatin5", .singleByte .windows1254),
  ("iso-8859-9", .singleByte .windows1254),
  ("iso-ir-148", .singleByte .windows1254),
  ("iso8859-9", .singleByte .windows1254),
  ("iso88599", .singleByte .windows1254),
  ("iso_8859-9", .singleByte .windows1254),
  ("iso_8859-9:1989", .singleByte .windows1254),
  ("l5", .singleByte .windows1254),
  ("latin5", .singleByte .windows1254),
  ("windows-1254", .singleByte .windows1254),
  ("x-cp1254", .singleByte .windows1254),
  ("cp1255", .singleByte .windows1255),
  ("windows-1255", .singleByte .windows1255),
  ("x-cp1255", .singleByte .windows1255),
  ("cp1256", .singleByte .windows1256),
  ("windows-1256", .singleByte .windows1256),
  ("x-cp1256", .singleByte .windows1256),
  ("cp1257", .singleByte .windows1257),
  ("windows-1257", .singleByte .windows1257),
  ("x-cp1257", .singleByte .windows1257),
  ("cp1258", .singleByte .windows1258),
  ("windows-1258", .singleByte .windows1258),
  ("x-cp1258", .singleByte .windows1258),
  ("x-mac-cyrillic", .singleByte .macCyrillic),
  ("x-mac-ukrainian", .singleByte .macCyrillic),
  ("chinese", .gbk),
  ("csgb2312", .gbk),
  ("csiso58gb231280", .gbk),
  ("gb2312", .gbk),
  ("gb_2312", .gbk),
  ("gb_2312-80", .gbk),
  ("gbk", .gbk),
  ("iso-ir-58", .gbk),
  ("x-gbk", .gbk),
  ("gb18030", .gb18030),
  ("big5", .big5),
  ("big5-hkscs", .big5),
  ("cn-big5", .big5),
  ("csbig5", .big5),
  ("x-x-big5", .big5),
  ("cseucpkdfmtjapanese", .eucJp),
  ("euc-jp", .eucJp),
  ("x-euc-jp", .eucJp),
  ("csiso2022jp", .iso2022Jp),
  ("iso-2022-jp", .iso2022Jp),
  ("csshiftjis", .shiftJis),
  ("ms932", .shiftJis),
  ("ms_kanji", .shiftJis),
  ("shift-jis", .shiftJis),
  ("shift_jis", .shiftJis),
  ("sjis", .shiftJis),
  ("windows-31j", .shiftJis),
  ("x-sjis", .shiftJis),
  ("cseuckr", .eucKr),
  ("csksc56011987", .eucKr),
  ("euc-kr", .eucKr),
  ("iso-ir-149", .eucKr),
  ("korean", .eucKr),
  ("ks_c_5601-1987", .eucKr),
  ("ks_c_5601-1989", .eucKr),
  ("ksc5601", .eucKr),
  ("ksc_5601", .eucKr),
  ("windows-949", .eucKr),
  ("csiso2022kr", .replacement),
  ("hz-gb-2312", .replacement),
  ("iso-2022-cn", .replacement),
  ("iso-2022-cn-ext", .replacement),
  ("iso-2022-kr", .replacement),
  ("replacement", .replacement),
  ("unicodefffe", .utf16be),
  ("utf-16be", .utf16be),
  ("csunicode", .utf16le),
  ("iso-10646-ucs-2", .utf16le),
  ("ucs-2", .utf16le),
  ("unicode", .utf16le),
  ("unicodefeff", .utf16le),
  ("utf-16le", .utf16le),
  ("utf-16", .utf16le),
  ("x-user-defined", .userDefined)
]

/-- The ASCII capitals made small; every other character stays. -/
def lowered (text : Text) : Text :=
  text.map Char.toLower

/-- The charset that a label names, or the label itself, without the white space around it, as
unknown. -/
def ofLabel (label : Text) : Except Error Charset :=
  let wanted := trimmed label
  match (vendorLabels ++ registeredLabels).lookup (String.ofList (lowered wanted)) with
  | some charset => .ok charset
  | none => .error (.unknownCharset (String.ofList wanted))

end Delimited.Charset
