import Delimited.Text

set_option autoImplicit false
set_option relaxedAutoImplicit false

/-!
# Decoders and encoders

A decoder is a transducer from bytes to text, an encoder one from text to bytes. Both keep in a
state what the input so far leaves open, so the input may be cut into pieces anywhere: feeding two
pieces one after the other gives what feeding them at once gives.

## Main definitions

* `Delimited.Decoder`, `Delimited.Decoder.feed`, `Delimited.Decoder.decode`.
* `Delimited.Encoder`, `Delimited.Encoder.feed`, `Delimited.Encoder.encode`.
* `Delimited.Decoder.doubleByte`, `Delimited.Encoder.stateless` — the common patterns.

## Main results

* `Delimited.Decoder.feed_append` — a decoder may be fed piece by piece.
* `Delimited.Encoder.feed_append` — an encoder may be fed piece by piece.
-/

namespace Delimited

/-- The character that stands for bytes which no character has. -/
def replacementChar : Char := '\ufffd'

/-- The character whose code point is the value of a byte. -/
def byteChar (b : UInt8) : Char := Char.ofNat b.toNat

/-! ## Decoding -/

/-- A **decoder** turns bytes into text. A malformed sequence of bytes gives `replacementChar`. -/
structure Decoder where
  /-- What the bytes so far leave open. -/
  State : Type
  /-- The state before the first byte. -/
  start : State
  /-- The text that a further byte completes, and the state after it. -/
  step : State → UInt8 → Text × State
  /-- The text at the end of the bytes. -/
  finish : State → Text

namespace Decoder

variable (d : Decoder)

/-- The text of `bytes` after that in `out`, and the state reached. -/
def feedInto (out : Array Char) : d.State → Bytes → Array Char × d.State
  | s, [] => (out, s)
  | s, b :: bs => feedInto (out ++ (d.step s b).1) (d.step s b).2 bs

/-- The text that further bytes complete, and the state after them. -/
def feed (s : d.State) (bytes : Bytes) : Text × d.State :=
  let (out, t) := d.feedInto #[] s bytes
  (out.toList, t)

/-- The text of the remaining bytes, up to their end. -/
def decodeFrom (s : d.State) (bytes : Bytes) : Text :=
  let (text, t) := d.feed s bytes
  text ++ d.finish t

/-- The text of a byte string. -/
def decode (bytes : Bytes) : Text :=
  d.decodeFrom d.start bytes

/-- Characters that were collected before stay in front. -/
theorem feedInto_eq (out : Array Char) (s : d.State) (bytes : Bytes) :
    d.feedInto out s bytes =
      (out ++ (d.feedInto #[] s bytes).1, (d.feedInto #[] s bytes).2) := by
  induction bytes generalizing out s with
  | nil => simp [feedInto]
  | cons b bs ih =>
    rw [feedInto, feedInto, ih, ih (#[] ++ (d.step s b).1)]
    exact Prod.ext (Array.ext' (by simp)) rfl

/-- No bytes give no characters. -/
@[simp]
theorem feed_nil (s : d.State) : d.feed s [] = ([], s) := rfl

/-- Bytes are decoded one after another. -/
theorem feed_cons (s : d.State) (b : UInt8) (bs : Bytes) :
    d.feed s (b :: bs) =
      ((d.step s b).1 ++ (d.feed (d.step s b).2 bs).1, (d.feed (d.step s b).2 bs).2) := by
  rw [feed, feedInto, feedInto_eq]
  simp [feed]

/-- **Piecewise feeding.** Cutting the bytes in two changes neither text nor state. -/
theorem feed_append (s : d.State) (xs ys : Bytes) :
    d.feed s (xs ++ ys) =
      ((d.feed s xs).1 ++ (d.feed (d.feed s xs).2 ys).1, (d.feed (d.feed s xs).2 ys).2) := by
  induction xs generalizing s with
  | nil => simp
  | cons x xs ih => rw [List.cons_append, feed_cons, ih, feed_cons, List.append_assoc]

/-- **Decoding in two pieces** gives what decoding at once does: the state carries over. -/
theorem decodeFrom_append (s : d.State) (xs ys : Bytes) :
    d.decodeFrom s (xs ++ ys) = (d.feed s xs).1 ++ d.decodeFrom (d.feed s xs).2 ys := by
  simp only [decodeFrom, feed_append, List.append_assoc]

/-- The decoder of a charset whose characters take one or two bytes. Where a lead byte and the byte
after it form no character, the lead byte is malformed, and so is the second unless it is ASCII. -/
def doubleByte (single : UInt8 → Option Char) (isLead : UInt8 → Bool)
    (pair : UInt8 → UInt8 → Option Text) : Decoder where
  State := Option UInt8
  start := none
  step
    | none, b =>
      match single b with
      | some c => ([c], none)
      | none => if isLead b then ([], some b) else ([replacementChar], none)
    | some lead, b =>
      match pair lead b with
      | some text => (text, none)
      | none =>
        if b < 0x80 then ([replacementChar, byteChar b], none) else ([replacementChar], none)
  finish
    | none => []
    | some _ => [replacementChar]

/-- The decoder of a charset whose characters take one byte. -/
def singleByte (char? : UInt8 → Option Char) : Decoder where
  State := Unit
  start := ()
  step _ b := ([(char? b).getD replacementChar], ())
  finish _ := []

end Decoder

/-! ## Encoding -/

/-- What an encoder makes of one character. -/
inductive Encoded (σ : Type) where
  /-- The bytes of the character, and the state after them. -/
  | mapped (bytes : Bytes) (next : σ)
  /-- The charset does not have `shown`. After the bytes `before`, ASCII may be written in its
  place. -/
  | unmappable (before : Bytes) (shown : Char) (next : σ)

/-- An **encoder** turns text into bytes. -/
structure Encoder where
  /-- What the text so far leaves open. -/
  State : Type
  /-- The state before the first character. -/
  start : State
  /-- The bytes of a further character. -/
  step : State → Char → Encoded State
  /-- The bytes at the end of the text. -/
  finish : State → Bytes

/-- What is written in place of a character that the charset does not have. -/
abbrev Substitute := Char → Bytes

/-- A question mark in place of any character. -/
def questionMark : Substitute := fun _ => [0x3F]

/-- A reference to the character by its decimal code point. -/
def numericReference : Substitute := fun c =>
  utf8Bytes (['&', '#'] ++ Nat.toDigits 10 c.toNat ++ [';'])

namespace Encoder

variable (e : Encoder) (substitute : Substitute)

/-- The bytes of one character, or of its substitute, and the state after it. -/
def put (s : e.State) (c : Char) : Bytes × e.State :=
  match e.step s c with
  | .mapped bytes t => (bytes, t)
  | .unmappable before shown t => (before ++ substitute shown, t)

/-- The bytes of `text` after those in `out`, and the state reached. -/
def feedInto (out : Array UInt8) : e.State → Text → Array UInt8 × e.State
  | s, [] => (out, s)
  | s, c :: cs => feedInto (out ++ (e.put substitute s c).1) (e.put substitute s c).2 cs

/-- The bytes of a further piece of text, and the state after it. -/
def feed (s : e.State) (text : Text) : Bytes × e.State :=
  let (out, t) := e.feedInto substitute #[] s text
  (out.toList, t)

/-- The bytes of a whole text. -/
def encode (text : Text) : Bytes :=
  let (bytes, t) := e.feed substitute e.start text
  bytes ++ e.finish t

/-- Bytes that were collected before stay in front. -/
theorem feedInto_eq (out : Array UInt8) (s : e.State) (text : Text) :
    e.feedInto substitute out s text =
      (out ++ (e.feedInto substitute #[] s text).1, (e.feedInto substitute #[] s text).2) := by
  induction text generalizing out s with
  | nil => simp [feedInto]
  | cons c cs ih =>
    rw [feedInto, feedInto, ih, ih (#[] ++ (e.put substitute s c).1)]
    exact Prod.ext (Array.ext' (by simp)) rfl

/-- An empty text gives no bytes. -/
@[simp]
theorem feed_nil (s : e.State) : e.feed substitute s [] = ([], s) := rfl

/-- Characters are encoded one after another. -/
theorem feed_cons (s : e.State) (c : Char) (cs : Text) :
    e.feed substitute s (c :: cs) =
      ((e.put substitute s c).1 ++ (e.feed substitute (e.put substitute s c).2 cs).1,
        (e.feed substitute (e.put substitute s c).2 cs).2) := by
  rw [feed, feedInto, feedInto_eq]
  simp [feed]

/-- **Piecewise feeding.** Cutting the text in two changes neither bytes nor state. -/
theorem feed_append (s : e.State) (xs ys : Text) :
    e.feed substitute s (xs ++ ys) =
      ((e.feed substitute s xs).1 ++ (e.feed substitute (e.feed substitute s xs).2 ys).1,
        (e.feed substitute (e.feed substitute s xs).2 ys).2) := by
  induction xs generalizing s with
  | nil => simp
  | cons x xs ih => rw [List.cons_append, feed_cons, ih, feed_cons, List.append_assoc]

/-- The encoder of a charset in which a character has the same bytes wherever it stands. -/
def stateless (bytes? : Char → Option Bytes) : Encoder where
  State := Unit
  start := ()
  step _ c :=
    match bytes? c with
    | some bytes => .mapped bytes ()
    | none => .unmappable [] c ()
  finish _ := []

end Encoder

end Delimited
