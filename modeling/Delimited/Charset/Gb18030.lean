import Delimited.Charset.Index
import Delimited.Charset.Table.Gb18030

set_option autoImplicit false
set_option relaxedAutoImplicit false

/-!
# GB 18030 and GBK

ASCII in one byte; Chinese in two, of which the first is one of `0x81`–`0xFE` and the second one of
`0x40`–`0x7E` and `0x80`–`0xFE`; all further characters of Unicode in four, of which the second and
the fourth are ASCII digits. Three areas of the two-byte form are left to the user; they stand for
the start of the private area of Unicode.

GBK is read like GB 18030. It is written without the four-byte form, and with the euro sign in one
byte.

## Main definitions

* `Delimited.Gb18030.decoder`, `Delimited.Gb18030.encoder`.
-/

namespace Delimited.Gb18030

/-! ## The two-byte form -/

/-- The two-byte characters outside the areas left to the user. -/
def index : Index :=
  Index.ofLines Charset.Table.gb18030 fun _ => true

/-- The character of two bytes in an area left to the user. -/
def userDefined? (lead trail : UInt8) : Option Char :=
  if 0xAA ≤ lead ∧ lead ≤ 0xAF ∧ 0xA1 ≤ trail then
    some (Char.ofNat (0xE000 + (lead.toNat - 0xAA) * 94 + (trail.toNat - 0xA1)))
  else if 0xF8 ≤ lead ∧ 0xA1 ≤ trail then
    some (Char.ofNat (0xE234 + (lead.toNat - 0xF8) * 94 + (trail.toNat - 0xA1)))
  else if 0xA1 ≤ lead ∧ lead ≤ 0xA7 ∧ trail ≤ 0xA0 then
    let k := if trail < 0x7F then trail.toNat - 0x40 else trail.toNat - 0x41
    some (Char.ofNat (0xE4C6 + (lead.toNat - 0xA1) * 96 + k))
  else none

/-- The character of two bytes. -/
def pair? (lead trail : UInt8) : Option Char :=
  if (0x40 ≤ trail ∧ trail ≤ 0x7E) ∨ (0x80 ≤ trail ∧ trail ≤ 0xFE) then
    let k := if trail < 0x7F then trail.toNat - 0x40 else trail.toNat - 0x41
    (index.char? ((lead.toNat - 0x81) * 190 + k)).or (userDefined? lead trail)
  else none

/-- The two bytes of a character in an area left to the user. -/
def userDefinedBytes? (c : Char) : Option Bytes :=
  let n := c.toNat
  if 0xE000 ≤ n ∧ n < 0xE234 then
    some [UInt8.ofNat (0xAA + (n - 0xE000) / 94), UInt8.ofNat (0xA1 + (n - 0xE000) % 94)]
  else if 0xE234 ≤ n ∧ n < 0xE4C6 then
    some [UInt8.ofNat (0xF8 + (n - 0xE234) / 94), UInt8.ofNat (0xA1 + (n - 0xE234) % 94)]
  else if 0xE4C6 ≤ n ∧ n < 0xE766 then
    let k := (n - 0xE4C6) % 96
    some [UInt8.ofNat (0xA1 + (n - 0xE4C6) / 96),
      UInt8.ofNat (if k < 0x3F then 0x40 + k else 0x41 + k)]
  else none

/-- The two bytes of a pointer. -/
def bytesOf (p : Nat) : Bytes :=
  let k := p % 190
  [UInt8.ofNat (0x81 + p / 190), UInt8.ofNat (if k < 0x3F then 0x40 + k else 0x41 + k)]

/-- Private characters that an earlier edition put into two-byte cells which now hold others. They
are still written as those cells. -/
def earlierBytes? (c : Char) : Option Bytes :=
  match c with
  | '\ue78d' => some [0xA6, 0xD9]
  | '\ue78e' => some [0xA6, 0xDA]
  | '\ue78f' => some [0xA6, 0xDB]
  | '\ue790' => some [0xA6, 0xDC]
  | '\ue791' => some [0xA6, 0xDD]
  | '\ue792' => some [0xA6, 0xDE]
  | '\ue793' => some [0xA6, 0xDF]
  | '\ue794' => some [0xA6, 0xEC]
  | '\ue795' => some [0xA6, 0xED]
  | '\ue796' => some [0xA6, 0xF3]
  | '\ue81e' => some [0xFE, 0x59]
  | '\ue826' => some [0xFE, 0x61]
  | '\ue82b' => some [0xFE, 0x66]
  | '\ue82c' => some [0xFE, 0x67]
  | '\ue832' => some [0xFE, 0x6D]
  | '\ue843' => some [0xFE, 0x7E]
  | '\ue854' => some [0xFE, 0x90]
  | '\ue864' => some [0xFE, 0xA0]
  | _ => none

/-- The bytes of a character in the two-byte form. -/
def twoBytes? (c : Char) : Option Bytes :=
  (earlierBytes? c).or (((index.pointer? c).map bytesOf).or (userDefinedBytes? c))

/-! ## The four-byte form -/

/-- The last pair of a list that a test admits, or the given one. -/
def lastWhere (test : Nat × Nat → Bool) (pairs : List (Nat × Nat)) (default : Nat × Nat) :
    Nat × Nat :=
  pairs.foldl (fun found p => if test p then p else found) default

/-- The pointer of four bytes. -/
def fourBytePointer (first second third fourth : UInt8) : Nat :=
  (((first.toNat - 0x81) * 10 + (second.toNat - 0x30)) * 126 + (third.toNat - 0x81)) * 10 +
    (fourth.toNat - 0x30)

/-- The character of a four-byte pointer. The pointer 7457 is an exception: its stretch would give a
character that has moved to the two-byte form. -/
def ranged? (pointer : Nat) : Option Char :=
  if (39419 < pointer ∧ pointer < 189000) ∨ 1237575 < pointer then none
  else if pointer = 7457 then some '\ue7c7'
  else
    let (start, code) := lastWhere (·.1 ≤ pointer) Charset.Table.gb18030Ranges (0, 0x80)
    some (Char.ofNat (code + (pointer - start)))

/-- The four-byte pointer of a character. -/
def rangedPointer (c : Char) : Nat :=
  if c = '\ue7c7' then 7457
  else
    let (start, code) := lastWhere (·.2 ≤ c.toNat) Charset.Table.gb18030Ranges (0, 0x80)
    start + (c.toNat - code)

/-- The four bytes of a pointer. -/
def fourBytes (p : Nat) : Bytes :=
  [UInt8.ofNat (0x81 + p / 12600), UInt8.ofNat (0x30 + p / 1260 % 10),
    UInt8.ofNat (0x81 + p / 10 % 126), UInt8.ofNat (0x30 + p % 10)]

/-! ## Decoding -/

/-- The bytes of a character that is not yet complete. -/
inductive State where
  | start
  | one (first : UInt8)
  | two (first second : UInt8)
  | three (first second third : UInt8)
  deriving DecidableEq, Repr

/-- Whether a byte is an ASCII digit. -/
def isDigit (b : UInt8) : Bool := 0x30 ≤ b && b ≤ 0x39

/-- A byte between characters. -/
def fresh (b : UInt8) : Text × State :=
  if b < 0x80 then ([byteChar b], .start)
  else if b = 0x80 then (['€'], .start)
  else if b ≤ 0xFE then ([], .one b)
  else ([replacementChar], .start)

/-- A byte after the first byte of a character. -/
def second (lead b : UInt8) : Text × State :=
  if isDigit b then ([], .two lead b)
  else
    match pair? lead b with
    | some c => ([c], .start)
    | none =>
      if b < 0x80 then ([replacementChar, byteChar b], .start) else ([replacementChar], .start)

/-- One byte in any state. Where four bytes go wrong only the first is malformed; the others are read
anew. -/
def step : State → UInt8 → Text × State
  | .start, b => fresh b
  | .one lead, b => second lead b
  | .two lead digit, b =>
    if 0x81 ≤ b ∧ b ≤ 0xFE then ([], .three lead digit b)
    else (replacementChar :: byteChar digit :: (fresh b).1, (fresh b).2)
  | .three lead digit third, b =>
    if isDigit b then
      ([(ranged? (fourBytePointer lead digit third b)).getD replacementChar], .start)
    else (replacementChar :: byteChar digit :: (second third b).1, (second third b).2)

/-- The **decoder** of GB 18030, and of GBK. -/
def decoder : Decoder where
  State := State
  start := .start
  step := step
  finish
    | .start => []
    | _ => [replacementChar]

/-- The **encoder** of GB 18030, or of GBK if `gbk`. -/
def encoder (gbk : Bool) : Encoder :=
  Encoder.stateless fun c =>
    if c.toNat < 0x80 then some [UInt8.ofNat c.toNat]
    else if c = '\ue5e5' then none
    else if gbk ∧ c = '€' then some [0x80]
    else
      match twoBytes? c with
      | some bytes => some bytes
      | none => if gbk then none else some (fourBytes (rangedPointer c))

end Delimited.Gb18030
