import Delimited.Charset.Calls
import Delimited.Stream.ByteReader
import Delimited.Stream.Source

set_option autoImplicit false
set_option relaxedAutoImplicit false

/-!
# Text readers

A text reader decodes a byte reader as it is read. Bytes are asked for only when all decoded
characters are used up.

## Main definitions

* `Delimited.TextReader` — a byte reader with a decoder and a push-back buffer.
* `Delimited.TextReader.content` — the decoding of all bytes that will be delivered.

## Main results

* `Delimited.TextReader.instCharSource` — a text reader is a source with this content, however its
  bytes are cut into pieces.
-/

namespace Delimited

/-- A **text reader**. -/
structure TextReader (d : Decoder) where
  /-- The bytes still to be asked for. -/
  reader : ByteReader
  /-- What the bytes decoded so far leave open. -/
  state : d.State
  /-- The characters decoded and not yet read. -/
  decoded : Text
  /-- The characters pushed back. -/
  returned : Text
  /-- Whether the end of the bytes was met. -/
  ended : Bool

namespace TextReader

variable {d : Decoder}

/-- The text reader at the start of a byte reader. -/
def ofReader (reader : ByteReader) : TextReader d :=
  ⟨reader, d.start, [], [], false⟩

/-- The text reader after it read a piece of bytes and decoded it. -/
def filled (r : ByteReader) (piece : Bytes) (s : TextReader d) : TextReader d :=
  let (decoded, state) := d.feedPiece false s.state piece
  { s with reader := r, decoded := decoded, state := state }

/-- The piece was fed to the decoder. -/
theorem filled_eq (r : ByteReader) (piece : Bytes) (s : TextReader d) :
    s.filled r piece =
      { s with
        reader := r, decoded := (d.feed s.state piece).1, state := (d.feed s.state piece).2 } := by
  rw [filled, d.feedPiece_false]

/-- The next character. An interrupted read call is repeated. -/
def read (s : TextReader d) : Except IoFault (Option Char) × TextReader d :=
  match s.returned, s.decoded with
  | c :: cs, _ => (.ok (some c), { s with returned := cs })
  | [], c :: cs => (.ok (some c), { s with decoded := cs })
  | [], [] =>
    if s.ended then (.ok none, s)
    else
      match _h : ByteReader.read s.reader with
      | (.failed e, r) => (.error e, { s with reader := r })
      | (.interrupted, r) => read { s with reader := r }
      | (.delivered [], r) =>
        match (d.feedPiece true s.state []).1 with
        | [] => (.ok none, { s with reader := r, ended := true })
        | c :: cs => (.ok (some c), { s with reader := r, ended := true, decoded := cs })
      | (.delivered (b :: bs), r) => read (s.filled r (b :: bs))
termination_by ByteReader.weight s.reader
decreasing_by
  · exact (ByteReader.read_interrupted _h).2.2
  · exact (ByteReader.read_some _h).2.2

/-- Pushes characters back. -/
def unread (xs : Text) (s : TextReader d) : TextReader d :=
  { s with returned := xs ++ s.returned }

/-- The characters still to be read: those pushed back, those decoded, and the decoding of the bytes
still to come. -/
def content (s : TextReader d) : Text :=
  s.returned ++ s.decoded ++
    if s.ended then [] else d.decodeFrom s.state (ByteReader.bytes s.reader)

/-- The number of reads that will fail. -/
def faults (s : TextReader d) : Nat :=
  if s.ended then 0 else ByteReader.faults s.reader

/-- The laws of reading, for all outcomes at once. -/
theorem read_content (s : TextReader d) :
    match read s with
    | (.ok (some c), t) => content s = c :: content t ∧ faults s = faults t
    | (.ok none, t) => content s = [] ∧ content t = [] ∧ faults s = faults t
    | (.error _, t) => content s = content t ∧ faults s = faults t + 1 := by
  fun_induction read s with
  | case1 s c cs hr => simp [content, faults, hr]
  | case2 s c cs hr hd => simp [content, faults, hr, hd]
  | case3 s hd hr he => simp [content, faults, hr, hd, he]
  | case4 s hd hr he e r h =>
    have := ByteReader.read_failed h
    simp_all [content, faults]
  | case5 s hd hr he r h ih =>
    have := ByteReader.read_interrupted h
    simp_all [content, faults]
  | case6 s hd hr he r h hf =>
    have := ByteReader.read_nothing h
    simp_all [content, faults, Decoder.decodeFrom, Decoder.feedPiece_true]
  | case7 s hd hr he r h c cs hf =>
    have := ByteReader.read_nothing h
    simp_all [content, faults, Decoder.decodeFrom, Decoder.feedPiece_true]
  | case8 s hd hr he b bs r h ih =>
    obtain ⟨hb, hf, -⟩ := ByteReader.read_some h
    have hc : content s = content (s.filled r (b :: bs)) := by
      simp only [filled_eq, content, hr, hd, he, hb, Decoder.decodeFrom_append, Bool.false_eq_true,
        if_false, List.nil_append]
    have hn : faults s = faults (s.filled r (b :: bs)) := by
      simp [filled_eq, faults, he, hf]
    rw [hc, hn]
    exact ih

/-- A text reader is a character source. -/
instance instCharSource : CharSource (TextReader d) where
  read := read
  unread := unread
  content := content
  faults := faults
  content_unread xs s := by
    simp only [content, unread, List.append_assoc]
    rfl
  faults_unread xs s := rfl
  read_some {s t c} h := by
    have := read_content s
    rwa [h] at this
  read_none {s t} h := by
    have := read_content s
    rwa [h] at this
  read_error {s t e} h := by
    have := read_content s
    rwa [h] at this

end TextReader

end Delimited
