import Delimited.Proofs.Run.Lockstep

set_option autoImplicit false
set_option relaxedAutoImplicit false

/-!
# Failures only cut the output

What a run on bytes sends is told by the run on the decoded text: the bytes of what that one writes,
or a front part of them if a read or a write failed. A failure is never taken for success, so after a
success all bytes were sent.

## Main definitions

* `Delimited.Run.bytes` — the bytes of what a run into a string wrote.

## Main results

* `Delimited.Pipeline.run_follows` — a run on bytes follows the run on the decoded text.
* `Delimited.Pipeline.run_truncated` — what reaches the byte sink is a front part of what a run
  without failures sends.
-/

namespace Delimited

/-! ## Runs -/

/-- The **bytes of what a run wrote** into a string. Only if the run succeeded, the text is over. -/
def Run.bytes {p : Processor} (e : Encoder) (t : Run Text String p) : Bytes :=
  match t.result with
  | .ok _ => e.encode questionMark t.sink.toList
  | .error _ => TextWriter.encoded e t.sink.toList

/-- A run to a byte sink **follows** a run into a string: the byte sink, which had received `before`,
received the bytes of what that run wrote, or a front part of them. If the run succeeded, or if all
is `sound`, it received all of them, and the results are the same. -/
def Run.Follows {σ ω : Type} [ByteSink ω] {p : Processor} (e : Encoder) (sound : Prop)
    (before : Bytes) (r : Run σ ω p) (t : Run Text String p) : Prop :=
  ∃ part, ByteSink.received r.sink = before ++ part ∧ part <+: t.bytes e ∧
    ((∃ stats, r.result = .ok stats) ∨ sound → part = t.bytes e ∧ r.result = t.result)

namespace Pipeline

variable {σ ω : Type} [CharSource σ] [ByteSink ω] {e : Encoder} {p : Processor} {sound : Prop}
  {before : Bytes}

omit [CharSource σ] in
/-- What the byte sink received after a run that ended with an error. -/
theorem received_close_error (err : Error) (s : Session σ (TextWriter e ω) p) :
    ByteSink.received
        (close TextWriter.finish TextWriter.writer (.error err, s)).sink =
      ByteSink.received s.writer.sink.flush.2.writer :=
  congrArg (fun w : TextWriter e ω => ByteSink.received w.writer) s.writer.sink_flush

/-- The bytes of the output so far are a front part of those of the whole output, however the run
ends. -/
theorem encoded_prefix_close (answer : Except Error Unit) (t : Session Text String p) :
    TextWriter.encoded e t.output <+: (close CharSink.flush id (answer, t)).bytes e := by
  rcases answer with err | u
  · exact List.prefix_rfl
  · exact TextWriter.encoded_prefix_encode t.output

/-- **The end of a run** that is in step with the run on the text.

**Proof sketch.** After a failure the session stopped short of what that run writes. Otherwise both
runs came to the same answer: if that is an error, the text is flushed, and the failure of that only
cuts it; if not, the text is ended, and a failure of that is the result. -/
theorem follows_of_inStep {a : Except Error Unit × Session σ (TextWriter e ω) p}
    {b : Except Error Unit × Session Text String p}
    (h : InStep (Session.Mirrors sound before) (Session.Stopped sound before) a b) :
    (close TextWriter.finish TextWriter.writer a).Follows e sound before
      (close CharSink.flush id b) := by
  rcases h with ⟨answer, s, t, rfl, rfl, hmirrors⟩ | ⟨err, s, answer, t, rfl, rfl, hfails, hshort⟩
  · obtain ⟨hr, ⟨hw, layout, rowCount⟩, q, stats, log⟩ := hmirrors
    rename_i r r' w out
    rcases answer with err | u
    · obtain ⟨part, hpart, hprefix, hall⟩ := hw.received_flush
      refine ⟨part, (received_close_error err _).trans hpart, hprefix, ?_⟩
      rintro (⟨stats, hok⟩ | hsound)
      · cases hok
      · exact ⟨hall hsound, rfl⟩
    · obtain ⟨part, hpart, hprefix, hall, hok⟩ := hw.finish
      rcases hfinish : w.finish with ⟨fault | u, v⟩
      · -- the end of the text could not be written
        rw [hfinish] at hpart hok
        have hclose : close TextWriter.finish TextWriter.writer
            (.ok (), Session.mk r ⟨w, layout, rowCount⟩ q stats log) =
            ⟨.error (.streamIn .finish fault), r.source, v, q, log.reverse⟩ := by
          rw [close, hfinish]
        rw [hclose]
        refine ⟨part, hpart, hprefix, ?_⟩
        rintro (⟨stats, hresult⟩ | hsound)
        · cases hresult
        · cases hok hsound
      · rw [hfinish] at hpart hall
        have hclose : close TextWriter.finish TextWriter.writer
            (.ok (), Session.mk r ⟨w, layout, rowCount⟩ q stats log) =
            ⟨.ok stats, r.source, v, q, (Event.finished stats :: log).reverse⟩ := by
          rw [close, hfinish]
        rw [hclose]
        exact ⟨part, hpart, hprefix, fun _ => ⟨hall rfl, rfl⟩⟩
  · obtain ⟨part, hpart, hprefix⟩ := hshort
    refine ⟨part, (received_close_error err s).trans hpart,
      hprefix.trans (encoded_prefix_close answer t), ?_⟩
    rintro (⟨stats, hok⟩ | hsound)
    · cases hok
    · exact absurd hsound hfails

/-- **A run on bytes** follows the run on the decoded text into a string. -/
theorem run_follows (pl : Pipeline) (p : Processor) (sound : Prop) (input : ByteReader) (output : ω)
    (hin : sound → ByteReader.faults input = 0) (hout : sound → ByteSink.Unfailing output) :
    (pl.run input output p).Follows pl.config.output.charset.encoder sound
      (ByteSink.received output)
      (pl.transcode (pl.config.input.charset.decode (ByteReader.bytes input)) p) := by
  refine follows_of_inStep (Session.Mirrors.drive ⟨⟨?_, _, _, _, _, _⟩, ⟨?_, _, _⟩, _, _, _⟩ _)
  · exact .ofReader hin
  · exact .start hout

/-- **Failures only cut the output.** What reaches the byte sink is a front part of what a run on the
same bytes without failures sends to a writer that takes everything; and after a success it is all
of that.

**Proof sketch.** Both runs follow the run on the decoded text, and the one without failures sends
all of its bytes. -/
theorem run_truncated (pl : Pipeline) (p : Processor) (input : ByteReader) (output : ω) :
    let whole := (pl.run (ByteReader.withoutFaults input) ByteWriter.unlimited p).sink.received.toList
    ∃ part, ByteSink.received (pl.run input output p).sink = ByteSink.received output ++ part ∧
      part <+: whole ∧
      ∀ stats, (pl.run input output p).result = .ok stats → part = whole := by
  intro whole
  obtain ⟨part, hreceived, hprefix, hall⟩ :=
    pl.run_follows p False input output False.elim False.elim
  obtain ⟨all, hwhole, -, hsound⟩ :=
    pl.run_follows p True (ByteReader.withoutFaults input) ByteWriter.unlimited
      (fun _ => ByteReader.faults_withoutFaults input) fun _ => ByteWriter.unfailing_unlimited
  obtain ⟨rfl, -⟩ := hsound (Or.inr trivial)
  rw [ByteReader.bytes_withoutFaults] at hwhole
  replace hwhole : whole = _ := hwhole
  rw [hwhole]
  exact ⟨part, hreceived, hprefix, fun stats hok => (hall (Or.inl ⟨stats, hok⟩)).1⟩

/-- A read that fails after the first row: that row was held back, and it is sent before the run
ends. -/
example :
    let commas : Dialect := { columnDelimiter := [','], rowDelimiter := ['\n'] }
    let pl : Pipeline := ⟨{ input := commas, output := commas }, by decide⟩
    let input : ByteReader := [.chunk [0x61, 0x0A], .fail ⟨"reset"⟩, .chunk [0x62, 0x0A]]
    let run := pl.run input ByteWriter.unlimited .identity
    run.result = .error (.streamIn .data ⟨"reset"⟩) ∧ run.sink.received = #[0x61, 0x0A] := by
  decide +kernel

end Pipeline

end Delimited
