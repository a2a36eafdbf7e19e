import Delimited.Proofs.Charset.Unicode
import Delimited.Proofs.Run.Agreement
import Delimited.Proofs.Run.Faults

set_option autoImplicit false
set_option relaxedAutoImplicit false

/-!
# Runs on bytes and runs on text

Without failures, a run on bytes has the result of a run from any source that holds the decoded text,
and it sends the bytes of the string into which that one writes. How the bytes are cut into chunks,
and how many of them the byte sink takes in a call, makes no difference.

## Main results

* `Delimited.Pipeline.run_refines_runText` — a run on bytes does what the run on text does.
-/

namespace Delimited

namespace Pipeline

variable {σ ω : Type} [CharSource σ] [ByteSink ω] {p : Processor}

/-- Runs from sources that hold the same text have the same result and write the same. -/
theorem runText_eq_transcode (pl : Pipeline) (p : Processor) {source : σ} {text : Text}
    (h : Holds source text) :
    (pl.runText source "" p).result = (pl.transcode text p).result ∧
      (pl.runText source "" p).sink = (pl.transcode text p).sink := by
  obtain ⟨hresult, hsink⟩ := close_of_ends (Session.ends_drive pl p h "")
  obtain ⟨htext, htextSink⟩ := close_of_ends (Session.ends_drive pl p (Holds.refl text) "")
  exact ⟨hresult.trans htext.symm, hsink.trans htextSink.symm⟩

/-- In a charset of Unicode, the bytes of what a run wrote are the encoding of that, whether the run
succeeded or not. -/
theorem bytes_of_unicode {charset : Charset}
    (h : charset ∈ [Charset.utf8, Charset.utf16le, Charset.utf16be]) (t : Run Text String p) :
    t.bytes charset.encoder = charset.encode t.sink.toList := by
  obtain ⟨hopen, hended⟩ := Charset.encoder_of_unicode h questionMark t.sink.toList
  unfold Run.bytes
  cases t.result with
  | ok stats => exact hended
  | error e => exact hopen

/-- **A run on bytes does what the run on text does.** The bytes are delivered in any chunks with any
interruptions, and the byte sink takes as many of them in a call as it likes, but at least one; then
the result is that of a run from a source that holds the decoded text, and the byte sink receives
the encoding of what that run writes into a string, also if the run ends with an error. In
particular, a run on a text in UTF-8 agrees with the run in memory.

**Proof sketch.** The run on bytes follows the run on the decoded text, and since nothing fails, it
sends all of its bytes and has its result. In a charset of Unicode these bytes are the encoding of
the string, and UTF-8 decodes to the text that was encoded. -/
theorem run_refines_runText (pl : Pipeline) (p : Processor) {input : ByteReader} {bytes : Bytes}
    {output : ω} {source : σ} (hinput : input.Delivers bytes)
    (houtput : ByteSink.Unfailing output)
    (hsource : Holds source (pl.config.input.charset.decode bytes))
    (hcharset : pl.config.output.charset ∈ [Charset.utf8, Charset.utf16le, Charset.utf16be]) :
    let run := pl.run input output p
    let whole := pl.runText source "" p
    run.result = whole.result ∧
      ByteSink.received run.sink =
        ByteSink.received output ++ pl.config.output.charset.encode whole.sink.toList ∧
      ∀ text, pl.config.input.charset = .utf8 → pl.config.output.charset = .utf8 →
        bytes = utf8Bytes text →
        run.result = (pl.transcode text p).result ∧
          ByteSink.received run.sink =
            ByteSink.received output ++ utf8Bytes (pl.transcode text p).sink.toList := by
  intro run whole
  obtain ⟨hbytes, hfaults⟩ := hinput.bytes_eq
  obtain ⟨part, hreceived, -, hall⟩ :=
    pl.run_follows p True input output (fun _ => hfaults) fun _ => houtput
  obtain ⟨rfl, hresult⟩ := hall (Or.inr trivial)
  rw [hbytes] at hresult hreceived
  rw [bytes_of_unicode hcharset] at hreceived
  obtain ⟨hsame, hsink⟩ := pl.runText_eq_transcode p hsource
  refine ⟨hresult.trans hsame.symm, ?_, fun text hin hout htext => ?_⟩
  · rw [hreceived, ← hsink]
  · have hdecode : pl.config.input.charset.decode bytes = text := by
      rw [hin, htext]
      exact Utf8.decode_utf8Bytes text
    rw [hdecode] at hresult hreceived
    rw [hout, Charset.encode_utf8] at hreceived
    exact ⟨hresult, hreceived⟩

/-- A character is cut by the chunks, a read between them is interrupted, and bytes are taken one by
one. The second row is too short, so the bytes of the first one are all that is sent. -/
theorem run_refines_runText_cut :
    let commas : Dialect := { columnDelimiter := [','], rowDelimiter := ['\n'] }
    let bars : Dialect := { columnDelimiter := ['|'], rowDelimiter := ['\n'] }
    let pl : Pipeline := ⟨{ input := commas, output := bars, expectedColumns := 2 }, by decide⟩
    let text : Text := ['é', ',', 'b', '\n', 'c', '\n']
    let input : ByteReader :=
      [.chunk [0xC3], .interrupt, .chunk [0xA9, 0x2C, 0x62, 0x0A, 0x63, 0x0A]]
    let output : ByteWriter := { ByteWriter.unlimited with stride := some 1 }
    input.Delivers (utf8Bytes text) ∧ ByteSink.Unfailing output ∧
      Holds text (pl.config.input.charset.decode (utf8Bytes text)) ∧
      pl.config.output.charset ∈ [Charset.utf8, Charset.utf16le, Charset.utf16be] ∧
      (pl.run input output .identity).result = .error (.columnCount ⟨.data 2, 2, 2, 1, ['c']⟩) ∧
      ByteSink.received (pl.run input output .identity).sink = [0xC3, 0xA9, 0x7C, 0x62, 0x0A] := by
  intro commas bars pl text input output
  have hinput : input.Delivers (utf8Bytes text) := by
    have hbytes : utf8Bytes text = [0xC3] ++ ([0xA9, 0x2C, 0x62, 0x0A, 0x63, 0x0A] ++ []) := by
      decide
    rw [hbytes]
    exact .chunk (by decide) (.interrupt (.chunk (by decide) .nil))
  have houtput : ByteSink.Unfailing output := ByteWriter.unfailing rfl (by decide) rfl
  have hsource : Holds text (pl.config.input.charset.decode (utf8Bytes text)) :=
    ⟨(Utf8.decode_utf8Bytes text).symm, rfl⟩
  have hcharset : pl.config.output.charset ∈ [Charset.utf8, Charset.utf16le, Charset.utf16be] := by
    decide
  obtain ⟨hresult, hreceived, -⟩ :=
    run_refines_runText pl .identity hinput houtput hsource hcharset
  refine ⟨hinput, houtput, hsource, hcharset, hresult.trans ?_, hreceived.trans ?_⟩
  · decide +kernel
  · decide +kernel

end Pipeline

end Delimited
