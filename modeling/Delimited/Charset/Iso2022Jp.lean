import Delimited.Charset.Japanese

set_option autoImplicit false
set_option relaxedAutoImplicit false

/-!
# ISO-2022-JP

Seven-bit bytes whose meaning is switched by escape sequences between ASCII, the Roman set (ASCII
with a yen sign and an overline), half-width katakana and JIS X 0208.

## Main definitions

* `Delimited.Iso2022Jp.Mode` — what the bytes mean.
* `Delimited.Iso2022Jp.decoder`, `Delimited.Iso2022Jp.encoder`.
-/

namespace Delimited.Iso2022Jp

/-- What the bytes mean. -/
inductive Mode where
  | ascii
  | roman
  | katakana
  | jis
  deriving DecidableEq, Repr

/-! ## Decoding -/

/-- The bytes read of something longer: nothing, the first byte of a character, the escape byte, or
the escape byte and the byte after it. -/
inductive Held where
  | nothing
  | lead (first : UInt8)
  | escape
  | escapeAnd (first : UInt8)
  deriving DecidableEq, Repr

/-- The state between two bytes. An escape sequence is malformed if nothing was written since the
one before it, so `idle` says whether the last thing read was an escape sequence. -/
structure State where
  mode : Mode
  held : Held
  idle : Bool
  deriving DecidableEq, Repr

/-- A byte other than the escape byte, read in a mode where nothing is held. -/
def plain (mode : Mode) (b : UInt8) : Text × State :=
  let done (c : Char) : Text × State := ([c], ⟨mode, .nothing, false⟩)
  let control := b = 0x0E ∨ b = 0x0F ∨ b = 0x1B
  match mode with
  | .ascii => if b < 0x80 ∧ ¬control then done (byteChar b) else done replacementChar
  | .roman =>
    if b = 0x5C then done '\u00a5'
    else if b = 0x7E then done '\u203e'
    else if b < 0x80 ∧ ¬control then done (byteChar b)
    else done replacementChar
  | .katakana =>
    if 0x21 ≤ b ∧ b ≤ 0x5F then done (Jis.halfWidth (b.toNat - 0x21)) else done replacementChar
  | .jis =>
    if 0x21 ≤ b ∧ b ≤ 0x7E then ([], ⟨mode, .lead b, false⟩) else done replacementChar

/-- The mode that an escape sequence selects. -/
def selected? (first second : UInt8) : Option Mode :=
  if first = 0x28 ∧ second = 0x42 then some .ascii
  else if first = 0x28 ∧ second = 0x4A then some .roman
  else if first = 0x28 ∧ second = 0x49 then some .katakana
  else if first = 0x24 ∧ (second = 0x40 ∨ second = 0x42) then some .jis
  else none

/-- The second byte of a character of JIS X 0208. -/
def trail (mode : Mode) (first b : UInt8) : Text × State :=
  if b = 0x1B then ([replacementChar], ⟨mode, .escape, false⟩)
  else if 0x21 ≤ b ∧ b ≤ 0x7E then
    let p := (first.toNat - 0x21) * 94 + (b.toNat - 0x21)
    ([(Jis.index.char? p).getD replacementChar], ⟨mode, .nothing, false⟩)
  else ([replacementChar], ⟨mode, .nothing, false⟩)

/-- A byte read where nothing or the first byte of a character is held. -/
def ordinary (state : State) (b : UInt8) : Text × State :=
  match state.held with
  | .lead first => trail state.mode first b
  | _ => if b = 0x1B then ([], { state with held := .escape }) else plain state.mode b

/-- One byte in any state. The bytes after the escape byte are read anew where they select no
mode. -/
def step (state : State) (b : UInt8) : Text × State :=
  match state.held with
  | .escape =>
    if b = 0x24 ∨ b = 0x28 then ([], { state with held := .escapeAnd b })
    else
      let (text, next) := ordinary ⟨state.mode, .nothing, false⟩ b
      (replacementChar :: text, next)
  | .escapeAnd first =>
    match selected? first b with
    | some mode => (if state.idle then [replacementChar] else [], ⟨mode, .nothing, true⟩)
    | none =>
      let (text, next) := ordinary ⟨state.mode, .nothing, false⟩ first
      let (more, last) := ordinary next b
      (replacementChar :: text ++ more, last)
  | _ => ordinary state b

/-- The text at the end of the bytes. -/
def finish (state : State) : Text :=
  match state.held with
  | .nothing => []
  | .lead _ | .escape => [replacementChar]
  | .escapeAnd first =>
    let (text, next) := ordinary ⟨state.mode, .nothing, false⟩ first
    replacementChar :: text ++ if next.held = .nothing then [] else [replacementChar]

/-- The **decoder** of ISO-2022-JP. -/
def decoder : Decoder where
  State := State
  start := ⟨.ascii, .nothing, false⟩
  step := step
  finish := finish

/-! ## Encoding -/

/-- The escape sequence that selects a mode for writing. Half-width katakana are never written. -/
def escapeTo : Mode → Bytes
  | .ascii | .katakana => [0x1B, 0x28, 0x42]
  | .roman => [0x1B, 0x28, 0x4A]
  | .jis => [0x1B, 0x24, 0x42]

/-- The escape sequence, if one is needed, between two modes. -/
def switch (source target : Mode) : Bytes := if source = target then [] else escapeTo target

/-- The full-width katakana in the order of the half-width ones. -/
def fullWidth : Array Char :=
  "。「」、・ヲァィゥェォャュョッーアイウエオカキクケコサシスセソタチツテトナニヌネノハヒフヘホマミムメモヤユヨラリルレロワン゛゜".toList.toArray

/-- Half-width katakana are written as their full-width forms. -/
def widened (c : Char) : Char :=
  if Jis.isHalfWidth c then fullWidth.getD (c.toNat - 0xFF61) c else Jis.canonical c

/-- The mode in which something that cannot be written is reported, so that ASCII may be written in
its place: the Roman set, where it is selected, has what that takes. -/
def fallback : Mode → Mode
  | .roman => .roman
  | _ => .ascii

/-- Reports a character that cannot be written. -/
def refuse (mode : Mode) (c : Char) : Encoded Mode :=
  .unmappable (switch mode (fallback mode)) c (fallback mode)

/-- One character in any mode. ASCII is written in the Roman set where that is selected and
agrees. -/
def put (mode : Mode) (c : Char) : Encoded Mode :=
  if c.toNat = 0x0E ∨ c.toNat = 0x0F ∨ c.toNat = 0x1B then refuse mode replacementChar
  else if c.toNat < 0x80 then
    if mode = .roman ∧ c ≠ '\\' ∧ c ≠ '~' then .mapped [UInt8.ofNat c.toNat] .roman
    else .mapped (switch mode .ascii ++ [UInt8.ofNat c.toNat]) .ascii
  else if c = '\u00a5' then .mapped (switch mode .roman ++ [0x5C]) .roman
  else if c = '\u203e' then .mapped (switch mode .roman ++ [0x7E]) .roman
  else
    match Jis.index.pointer? (widened c) with
    | some p =>
      if p < 8836 then
        .mapped (switch mode .jis ++ [UInt8.ofNat (0x21 + p / 94), UInt8.ofNat (0x21 + p % 94)]) .jis
      else refuse mode c
    | none => refuse mode c

/-- The **encoder** of ISO-2022-JP. -/
def encoder : Encoder where
  State := Mode
  start := .ascii
  step := put
  finish mode := switch mode .ascii

end Delimited.Iso2022Jp
