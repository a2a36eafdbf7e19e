import Delimited.Proofs.Charset.Substitution
import Delimited.Proofs.Stream.Transport

set_option autoImplicit false
set_option relaxedAutoImplicit false

/-!
# Text in pieces

A text writer encodes at moments of its own: when it holds back enough text, when it is flushed, and
at the end. None of that can be seen in the bytes. They are those of the whole text encoded at once,
and after a flush those of the text written up to then, except what the encoder writes at the end.

## Main definitions

* `Delimited.TextWriter.performAll` — steps of writing one after another, without an end.

## Main results

* `Delimited.TextWriter.Carries.flush_ok` — a flush sends all of the text that was written.
* `Delimited.Charset.sent_in_pieces` — the bytes do not depend on the pieces.
-/

namespace Delimited

namespace TextWriter

variable {e : Encoder} {ω : Type} [ByteSink ω]

/-- **Steps of writing** one after another, up to the first failure. -/
def performAll (s : TextWriter e ω) : List WriteStep → Except IoFault Unit × TextWriter e ω
  | [] => (.ok (), s)
  | step :: steps =>
    match s.perform step with
    | (.ok (), t) => t.performAll steps
    | (.error fault, t) => (.error fault, t)

variable {before : Bytes} {text : Text} {s : TextWriter e ω}

/-- After steps that go well, the others are taken. -/
theorem performAll_append {t : TextWriter e ω} {steps : List WriteStep}
    (h : s.performAll steps = (.ok (), t)) (more : List WriteStep) :
    s.performAll (steps ++ more) = t.performAll more := by
  induction steps generalizing s with
  | nil =>
    cases h
    rfl
  | cons step steps ih =>
    rw [performAll] at h
    rw [List.cons_append, performAll]
    rcases hstep : s.perform step with ⟨fault | u, v⟩
    · rw [hstep] at h
      cases h
    · rw [hstep] at h
      exact ih h

/-- What is sent is sent by the steps and then at the end. -/
theorem send_eq (s : TextWriter e ω) (steps : List WriteStep) :
    s.send steps = match s.performAll steps with
      | (.ok (), t) => t.finish
      | (.error fault, t) => (.error fault, t.writer) := by
  induction steps generalizing s with
  | nil => rfl
  | cons step steps ih =>
    rw [send, performAll]
    rcases s.perform step with ⟨fault | u, t⟩
    · rfl
    · exact ih t

/-- Before a byte sink that never fails, all steps go well and add to the text what they write. -/
theorem Carries.performAll (h : Carries True before text s) (steps : List WriteStep) :
    ∃ t, s.performAll steps = (.ok (), t) ∧
      Carries True before (text ++ steps.flatMap WriteStep.written) t := by
  induction steps generalizing text s with
  | nil => exact ⟨s, rfl, by rwa [List.flatMap_nil, List.append_nil]⟩
  | cons step steps ih =>
    obtain ⟨t, hstep, ht⟩ := h.perform step
    rw [TextWriter.performAll, hstep, List.flatMap_cons, ← List.append_assoc]
    exact ih ht

/-- **A flush** before such a byte sink goes well, and then the sink has received all bytes of the
text but those at its end. -/
theorem Carries.flush_ok (h : Carries True before text s) :
    ∃ t, s.flush = (.ok (), t) ∧ ByteSink.received t.writer = before ++ encoded e text := by
  obtain ⟨part, hpart, -, hall⟩ := h.received_flush
  rcases h.flush with ⟨t, hflush, -⟩ | ⟨fault, t, -, hfails, -⟩
  · rw [hflush, hall trivial] at hpart
    exact ⟨t, hflush, hpart⟩
  · exact absurd trivial hfails

end TextWriter

/-- **The bytes do not depend on the pieces.** A text is written in any charset, in any steps and with
any flushes between them, to a byte sink that never fails but may take as few bytes at a time as it
likes.

1. All goes well, and the sink receives the whole text encoded at once, with a question mark for each
   character that the charset does not have: those are the bytes of a text with question marks.
2. After each flush it has received the bytes of the text written so far, and the steps after it go on
   from there.
3. In the charsets of Unicode all of these are simply the bytes of the text.

**Proof sketch.** Whatever the steps, some of the text has been encoded and received, and the rest is
held back; a flush and the end leave nothing held back. -/
theorem Charset.sent_in_pieces {ω : Type} [ByteSink ω] (charset : Charset) {output : ω}
    (houtput : ByteSink.Unfailing output) (steps : List WriteStep) :
    let writer : TextWriter charset.encoder ω := .ofWriter output
    let text := steps.flatMap WriteStep.written
    (∃ final, writer.send steps = (.ok (), final) ∧
      ByteSink.received final =
        ByteSink.received output ++ charset.encoder.encode questionMark text ∧
      charset.encoder.encode questionMark text = charset.encode (charset.encoder.legible text)) ∧
    (∀ first later, steps = first ++ .flush :: later →
      ∃ flushed, writer.performAll (first ++ [.flush]) = (.ok (), flushed) ∧
        ByteSink.received flushed.writer = ByteSink.received output ++
          TextWriter.encoded charset.encoder (first.flatMap WriteStep.written) ∧
        writer.send steps = flushed.send later) ∧
    (charset ∈ [Charset.utf8, Charset.utf16le, Charset.utf16be] →
      charset.encoder.encode questionMark text = charset.encode text ∧
        ∀ first, TextWriter.encoded charset.encoder first = charset.encode first) := by
  intro writer text
  have hstart : TextWriter.Carries True (ByteSink.received output) [] writer :=
    .start fun _ => houtput
  refine ⟨?_, fun first later hsteps => ?_, fun hunicode => ?_⟩
  · obtain ⟨hok, hreceived⟩ := hstart.send steps
    exact ⟨_, Prod.ext hok rfl, hreceived, charset.encode_questionMark text⟩
  · obtain ⟨t, hfirst, ht⟩ := hstart.performAll first
    obtain ⟨flushed, hflush, hreceived⟩ := ht.flush_ok
    have hall : writer.performAll (first ++ [.flush]) = (.ok (), flushed) := by
      rw [TextWriter.performAll_append hfirst, TextWriter.performAll, TextWriter.perform, hflush]
      rfl
    refine ⟨flushed, hall, hreceived, ?_⟩
    rw [hsteps, List.append_cons, TextWriter.send_eq, TextWriter.performAll_append hall,
      TextWriter.send_eq]
  · exact ⟨(Charset.encoder_of_unicode hunicode questionMark text).2,
      fun first => (Charset.encoder_of_unicode hunicode questionMark first).1⟩

/-- In ISO-2022-JP, one byte at a time: the flush leaves the Roman set selected, a control character
that the charset does not have becomes a question mark in it, and the end selects ASCII again. In
UTF-16 nothing is missing. -/
theorem Charset.sent_in_pieces_roman :
    let output : ByteWriter := { ByteWriter.unlimited with stride := some 1 }
    let first : List WriteStep := [.text ['¥', 'a']]
    let later : List WriteStep := [.char '\u000e', .char '‾']
    let writer : TextWriter Charset.iso2022Jp.encoder := .ofWriter output
    ByteSink.Unfailing output ∧
      (∃ flushed, writer.performAll (first ++ [.flush]) = (.ok (), flushed) ∧
        ByteSink.received flushed.writer = [0x1B, 0x28, 0x4A, 0x5C, 0x61]) ∧
      (∃ final, writer.send (first ++ .flush :: later) = (.ok (), final) ∧
        ByteSink.received final =
          [0x1B, 0x28, 0x4A, 0x5C, 0x61, 0x3F, 0x7E, 0x1B, 0x28, 0x42]) ∧
      Charset.utf16be ∈ [Charset.utf8, Charset.utf16le, Charset.utf16be] ∧
      Charset.utf16be.encoder.encode questionMark ((first ++ later).flatMap WriteStep.written) =
        Charset.utf16be.encode ['¥', 'a', '\u000e', '‾'] := by
  intro output first later writer
  have houtput : ByteSink.Unfailing output := ByteWriter.unfailing rfl (by decide) rfl
  have hcharset : Charset.utf16be ∈ [Charset.utf8, Charset.utf16le, Charset.utf16be] := by decide
  obtain ⟨⟨final, hsend, hfinal, -⟩, hflushes, -⟩ :=
    Charset.sent_in_pieces .iso2022Jp houtput (first ++ .flush :: later)
  obtain ⟨flushed, hfirst, hflushed, -⟩ := hflushes first later rfl
  obtain ⟨-, -, hunicode⟩ := Charset.sent_in_pieces .utf16be houtput (first ++ later)
  refine ⟨houtput, ⟨flushed, hfirst, hflushed.trans ?_⟩, ⟨final, hsend, hfinal.trans ?_⟩,
    hcharset, (hunicode hcharset).1⟩
  · decide +kernel
  · decide +kernel

end Delimited
