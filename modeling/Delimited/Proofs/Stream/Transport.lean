import Delimited.Proofs.Charset.Unicode
import Delimited.Proofs.Stream.Delivery
import Delimited.Proofs.Stream.Offering

set_option autoImplicit false
set_option relaxedAutoImplicit false

/-!
# Text through bytes and back

A text writer may be given a text in any pieces and may be flushed between them; the bytes that it
sends may be cut anywhere before a text reader gets them. In the charsets of Unicode the reader then
gives the text that was written.

## Main definitions

* `Delimited.WriteStep` — the steps of writing.
* `Delimited.TextWriter.send` — steps of writing one after another, and then the end of the text.

## Main results

* `Delimited.TextWriter.Carries.send` — what was sent in any steps is the encoding of the whole text.
* `Delimited.Charset.readAll_sent` — a text is read back as it was written.
-/

namespace Delimited

/-- The **steps of writing** that a caller may take. -/
inductive WriteStep where
  | text (piece : Text)
  | char (c : Char)
  | flush
  deriving DecidableEq, Repr

/-- What a step writes. -/
def WriteStep.written : WriteStep → Text
  | .text piece => piece
  | .char c => [c]
  | .flush => []

namespace TextWriter

variable {e : Encoder} {ω : Type} [ByteSink ω]

/-- One step of writing. -/
def perform (s : TextWriter e ω) : WriteStep → Except IoFault Unit × TextWriter e ω
  | .text piece => s.write piece
  | .char c => s.write [c]
  | .flush => s.flush

/-- **Steps of writing** one after another, and then the end of the text. The first failure ends
them. -/
def send (s : TextWriter e ω) : List WriteStep → Except IoFault Unit × ω
  | [] => s.finish
  | step :: steps =>
    match s.perform step with
    | (.ok (), t) => t.send steps
    | (.error fault, t) => (.error fault, t.writer)

variable {before : Bytes} {text : Text} {s : TextWriter e ω}

/-- Before a byte sink that never fails, writing adds to the text. -/
theorem Carries.write_ok (h : Carries True before text s) (more : Text) :
    ∃ t, s.write more = (.ok (), t) ∧ Carries True before (text ++ more) t := by
  rcases h.write more with hwritten | ⟨fault, t, -, hfails, -⟩
  · exact hwritten
  · exact absurd trivial hfails

/-- So any step adds to the text what it writes. -/
theorem Carries.perform (h : Carries True before text s) (step : WriteStep) :
    ∃ t, s.perform step = (.ok (), t) ∧ Carries True before (text ++ step.written) t := by
  cases step with
  | text piece => exact h.write_ok piece
  | char c => exact h.write_ok [c]
  | flush =>
    rcases h.flush with ⟨t, hflush, ht⟩ | ⟨fault, t, -, hfails, -⟩
    · refine ⟨t, hflush, ?_⟩
      rw [WriteStep.written, List.append_nil]
      exact ht
    · exact absurd trivial hfails

/-- **What was sent** in any steps is the encoding of all that they write.

**Proof sketch.** Induction on the steps. Each one adds to the text that the writer carries, and at
the end all of that text has been sent. -/
theorem Carries.send (h : Carries True before text s) (steps : List WriteStep) :
    (s.send steps).1 = .ok () ∧ ByteSink.received (s.send steps).2 =
      before ++ e.encode questionMark (text ++ steps.flatMap WriteStep.written) := by
  induction steps generalizing text s with
  | nil =>
    obtain ⟨part, hpart, -, hall, hok⟩ := h.finish
    have hfinish := hok trivial
    rw [hall hfinish] at hpart
    rw [List.flatMap_nil, List.append_nil]
    exact ⟨hfinish, hpart⟩
  | cons step steps ih =>
    obtain ⟨t, hstep, ht⟩ := h.perform step
    rw [TextWriter.send, hstep, List.flatMap_cons, ← List.append_assoc]
    exact ih ht

end TextWriter

/-- **A text is read back as it was written.** It is written in UTF-8 or UTF-16, in any steps and with
any flushes between them, to a byte sink that never fails but may take as few bytes at a time as it
likes. However the bytes are cut into chunks, also inside a unit or between the surrogates of a pair,
a reader of the same charset gives exactly that text: there is no byte-order mark but those in the
text, and nothing is replaced.

**Proof sketch.** The bytes are the encoding of the text, whatever the steps. The reader holds the
decoding of the bytes, whatever the chunks. And what these charsets write they read back. -/
theorem Charset.readAll_sent {ω : Type} [ByteSink ω] {charset : Charset}
    (hcharset : charset ∈ [Charset.utf8, Charset.utf16le, Charset.utf16be]) {output : ω}
    (houtput : ByteSink.Unfailing output) (steps : List WriteStep) :
    let sent := (TextWriter.ofWriter output : TextWriter charset.encoder ω).send steps
    sent.1 = .ok () ∧ ∃ bytes, ByteSink.received sent.2 = ByteSink.received output ++ bytes ∧
      ∀ input : ByteReader, input.Delivers bytes →
        (CharSource.readAll (TextReader.ofReader input : TextReader charset.decoder)).1 =
          (steps.flatMap WriteStep.written, none) := by
  intro sent
  have hstart : TextWriter.Carries True (ByteSink.received output) []
      (TextWriter.ofWriter output : TextWriter charset.encoder ω) := .start fun _ => houtput
  obtain ⟨hok, hreceived⟩ := hstart.send steps
  rw [List.nil_append, (Charset.encoder_of_unicode hcharset questionMark _).2] at hreceived
  refine ⟨hok, _, hreceived, fun input hinput => ?_⟩
  have hread := (hinput.holds charset.decoder).readAll
  have hback : charset.decoder.decode (charset.encode (steps.flatMap WriteStep.written)) =
      steps.flatMap WriteStep.written := Charset.decode_encode hcharset _
  rw [hread, hback]

/-- A mark and a pair of surrogates in UTF-16 are written in pieces and taken three bytes at a time;
the pair is read one byte at a time. -/
theorem Charset.readAll_sent_pair :
    let output : ByteWriter := { ByteWriter.unlimited with stride := some 3 }
    let steps : List WriteStep := [.char '\ufeff', .flush, .text ['a', '😀']]
    let sent := (TextWriter.ofWriter output : TextWriter Charset.utf16le.encoder).send steps
    let input : ByteReader := [.chunk [0xFF, 0xFE, 0x61], .chunk [0x00, 0x3D], .interrupt,
      .chunk [0xD8], .chunk [0x00], .chunk [0xDE]]
    Charset.utf16le ∈ [Charset.utf8, Charset.utf16le, Charset.utf16be] ∧
      ByteSink.Unfailing output ∧ ByteSink.received sent.2 = ByteReader.bytes input ∧
      (CharSource.readAll (TextReader.ofReader input : TextReader Charset.utf16le.decoder)).1 =
        (['\ufeff', 'a', '😀'], none) := by
  intro output steps sent input
  have hcharset : Charset.utf16le ∈ [Charset.utf8, Charset.utf16le, Charset.utf16be] := by decide
  have houtput : ByteSink.Unfailing output := ByteWriter.unfailing rfl (by decide) rfl
  obtain ⟨-, bytes, hbytes, hread⟩ := Charset.readAll_sent hcharset houtput steps
  have hsent : ByteSink.received sent.2 = ByteReader.bytes input := by decide +kernel
  refine ⟨hcharset, houtput, hsent, hread input ?_⟩
  rw [hsent] at hbytes
  have hdelivered : bytes = ByteReader.bytes input := hbytes.symm
  rw [hdelivered]
  exact .chunk (by decide) (.chunk (by decide) (.interrupt
    (.chunk (by decide) (.chunk (by decide) (.chunk (by decide) .nil)))))

end Delimited
