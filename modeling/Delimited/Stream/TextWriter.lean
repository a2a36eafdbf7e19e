import Delimited.Charset.Calls
import Delimited.Stream.ByteWriter
import Delimited.Stream.Sink

set_option autoImplicit false
set_option relaxedAutoImplicit false

/-!
# Text writers

A text writer encodes text for a byte sink. Text is held back until there is enough of it or until
it is flushed; characters that the charset does not have become question marks.

## Main definitions

* `Delimited.TextWriter` — an encoder before a byte sink.
* `Delimited.TextWriter.finish` — the end of the text.
-/

namespace Delimited

/-- A **text writer**, by default before a byte writer. -/
structure TextWriter (e : Encoder) (ω : Type := ByteWriter) where
  writer : ω
  /-- What the text encoded so far leaves open. -/
  state : e.State
  /-- The text not yet encoded. -/
  pending : String

namespace TextWriter

variable {e : Encoder} {ω : Type}

/-- The text writer at the start of a byte sink. -/
def ofWriter (writer : ω) : TextWriter e ω :=
  ⟨writer, e.start, ""⟩

/-- How many bytes of UTF-8 may be held back. -/
def threshold : Nat := 8192

variable [ByteSink ω]

/-- Encodes what is held back. The text counts as written even where the byte sink fails. -/
def drain (s : TextWriter e ω) : Except IoFault Unit × TextWriter e ω :=
  let (bytes, state) := e.feedPiece questionMark false s.state s.pending.toList
  let (result, writer) := ByteSink.writeAll bytes s.writer
  (result, ⟨writer, state, ""⟩)

/-- What is held back is fed to the encoder, and its bytes are written. -/
theorem drain_eq (s : TextWriter e ω) :
    s.drain =
      let (bytes, state) := e.feed questionMark s.state s.pending.toList
      let (result, writer) := ByteSink.writeAll bytes s.writer
      (result, ⟨writer, state, ""⟩) := by
  rw [drain, e.feedPiece_false]

/-- Writes a piece of text. -/
def write (text : Text) (s : TextWriter e ω) : Except IoFault Unit × TextWriter e ω :=
  let s := { s with pending := s.pending ++ String.ofList text }
  if threshold ≤ s.pending.utf8ByteSize then s.drain else (.ok (), s)

/-- Encodes what is held back and flushes the byte sink. -/
def flush (s : TextWriter e ω) : Except IoFault Unit × TextWriter e ω :=
  match s.drain with
  | (.error fault, t) => (.error fault, t)
  | (.ok (), t) =>
    let (result, writer) := ByteSink.flush t.writer
    (result, { t with writer := writer })

/-- Ends the text: what is held back is encoded together with what the encoder writes at the end,
and the byte sink is flushed. -/
def finish (s : TextWriter e ω) : Except IoFault Unit × ω :=
  let (bytes, _) := e.feedPiece questionMark true s.state s.pending.toList
  match ByteSink.writeAll bytes s.writer with
  | (.error fault, writer) => (.error fault, writer)
  | (.ok (), writer) => ByteSink.flush writer

/-- What the encoder writes at the end comes after the bytes of what is held back. -/
theorem finish_eq (s : TextWriter e ω) :
    s.finish =
      let (bytes, state) := e.feed questionMark s.state s.pending.toList
      match ByteSink.writeAll (bytes ++ e.finish state) s.writer with
      | (.error fault, writer) => (.error fault, writer)
      | (.ok (), writer) => ByteSink.flush writer := by
  rw [finish, e.feedPiece_true]

/-- A text writer is a character sink. -/
instance : CharSink (TextWriter e ω) where
  write := write
  flush := flush

end TextWriter

end Delimited
