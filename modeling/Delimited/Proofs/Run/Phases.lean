import Delimited.Proofs.Run.Completion
import Delimited.Proofs.Run.Faults

set_option autoImplicit false
set_option relaxedAutoImplicit false

/-!
# What the phase of an error tells

A stream that fails during a run makes an error with the phase in which it failed. That phase is a
statement about how far the run had come: which rows were dropped, what had reached the byte sink and
what the processor had been given. Only an error that the processor itself answered with a phase is
passed on with that phase, whatever it is.

## Main definitions

* `Delimited.Pipeline.SkipFault`, `Delimited.Pipeline.HeaderFault`, `Delimited.Pipeline.DataFault`,
  `Delimited.Pipeline.FinishFault` — how far a run had come that failed in a phase.

## Main results

* `Delimited.Pipeline.run_attributes` — an error with a phase tells how far the run had come.
-/

namespace Delimited

open CharSource

variable {ω : Type} [ByteSink ω]

/-! ## Writing a header -/

namespace RowWriter

variable {e : Encoder} {v w : RowWriter (TextWriter e ω)} {before : Bytes} {record : Record}

/-- A row that was written and flushed had reached the byte sink when that was flushed. -/
theorem sent_of_flush {u : RowWriter (TextWriter e ω)}
    (h : v.sink.Carries False before []) (hwrite : v.write record = (.ok (), w))
    (hflush : w.flush = (.ok (), u)) :
    ∃ sink, ByteSink.Reaches v.sink.writer sink ∧
      ByteSink.received sink = before ++ TextWriter.encoded e (v.layout.renderRow record) ∧
      ByteSink.flush sink = (.ok (), u.sink.writer) := by
  unfold RowWriter.write at hwrite
  dsimp only [CharSink.write] at hwrite
  have hreaches := TextWriter.reaches_write v.sink (v.layout.renderRow record)
  rcases h.write (v.layout.renderRow record) with ⟨s, hs, hcarries⟩ | ⟨fault, s, hs, -⟩ <;>
    rw [hs] at hwrite hreaches <;> cases hwrite
  unfold RowWriter.flush at hflush
  dsimp only [CharSink.flush] at hflush
  rcases hsink : s.flush with ⟨fault | _, t⟩ <;> rw [hsink] at hflush <;> cases hflush
  obtain ⟨sink, hsent, hreceived, hflushed⟩ := hcarries.of_flush_ok hsink
  exact ⟨sink, hreaches.trans hsent, hreceived, hflushed⟩

end RowWriter

/-! ## Phases -/

namespace Pipeline

section Definitions

variable (pl : Pipeline) (p : Processor) (input : ByteReader) (output : ω)

/-- A session of a run on bytes. -/
abbrev Streaming (ω : Type) : Type :=
  Session (TextReader pl.config.input.charset.decoder)
    (TextWriter pl.config.output.charset.encoder ω) p

/-- A new session of a run on bytes. -/
def opened : pl.Streaming p ω :=
  pl.session (TextReader.ofReader input) (TextWriter.ofWriter output) p

/-- A run on bytes **up to the end of its input**, before the output is closed. -/
def driven : Except Error Unit × pl.Streaming p ω :=
  (pl.opened p input output).drive pl.config

/-- The text that the input is read as. -/
def inputText : Text :=
  pl.config.input.charset.decode (ByteReader.bytes input)

/-- A run that failed **while leading rows were dropped**. -/
structure SkipFault : Prop where
  wanted : 0 < pl.config.skippedRows
  rowsLeft : (pl.driven p.recording input output).2.stats.rowsSkipped < pl.config.skippedRows
  nothingSent : ByteSink.received (pl.run input output p).sink = ByteSink.received output
  noCalls : (pl.driven p.recording input output).2.calls = []

/-- A run that failed **while the header was copied**. -/
structure HeaderFault : Prop where
  wanted : pl.config.hasHeader = true
  skipped : (pl.driven p.recording input output).2.stats.rowsSkipped = pl.config.skippedRows
  noCalls : (pl.driven p.recording input output).2.calls = []

/-- A run that failed **while data rows were converted**. If there is a header, all bytes of it were
received and flushed before the first of these rows was read. -/
structure DataFault : Prop where
  skipped : (pl.driven p.recording input output).2.stats.rowsSkipped = pl.config.skippedRows
  headerSent : pl.config.hasHeader = true →
    ∃ (header : Record) (sink : ω) (start : pl.Streaming p.recording ω),
      pl.header? (pl.inputText input) = some header ∧
      ByteSink.Reaches output sink ∧
      ByteSink.received sink = ByteSink.received output ++
        TextWriter.encoded pl.config.output.charset.encoder (pl.layout.renderRow header) ∧
      ByteSink.flush sink = (.ok (), start.writer.sink.writer) ∧
      start.calls = [] ∧
      pl.driven p.recording input output = start.convertRows pl.config

/-- A run that failed **while the output was completed**. Its input had ended, and each data row passed
its checks, was processed with success, and was handed to the text writer, which has sent or still
holds back the header and these answers. -/
structure FinishFault : Prop where
  metEnd : MetEnd (pl.run input output p).source
  rowsEnd : (pl.rowsOf (pl.inputText input)).2 = none
  passed : ∀ n row, (pl.dataRows (pl.inputText input))[n]? = some row → pl.Passes (n + 1) row
  handedOn : ∃ written,
    (pl.driven p.recording input output).2.calls =
        List.zipWith Processor.Call.mk (pl.dataRows (pl.inputText input)) (written.map .ok) ∧
      written.length = (pl.dataRows (pl.inputText input)).length ∧
      (pl.driven p.recording input output).2.writer.sink.Carries False (ByteSink.received output)
        (pl.layout.renderRows ((pl.header? (pl.inputText input)).toList ++ written))

/-- A run that failed in a phase. -/
def Fault : Phase → Prop
  | .skip => pl.SkipFault p input output
  | .header => pl.HeaderFault p input output
  | .data => pl.DataFault p input output
  | .finish => pl.FinishFault p input output

/-- An error **tells how far a run had come**: it is no failure of a stream without a phase, and the
phase that it names is the one in which the run failed. Otherwise the processor answered with it, and
data rows were converted. -/
structure Attributed (e : Error) : Prop where
  ne_stream : ∀ fault, e ≠ .stream fault
  fault : ∀ phase, e.phase? = some phase → pl.Fault p input output phase ∨
    pl.DataFault p input output ∧ ∃ row,
      (pl.driven p.recording input output).2.calls.getLast? = some ⟨row, .error e⟩

end Definitions

variable {pl : Pipeline} {p : Processor} {input : ByteReader} {output : ω} {e : Error}

/-- A run on bytes closes the output where its input ended. -/
theorem run_eq (pl : Pipeline) (p : Processor) (input : ByteReader) (output : ω) :
    pl.run input output p = close TextWriter.finish TextWriter.writer (pl.driven p input output) :=
  rfl

/-- A new session mirrors the run on the text that the input is read as. -/
theorem mirrors_opened (pl : Pipeline) (p : Processor) (input : ByteReader) (output : ω) :
    (pl.opened p input output).Mirrors False (ByteSink.received output)
      (pl.session (pl.inputText input) "" p) :=
  ⟨⟨.ofReader False.elim, _, _, _, _, _⟩, ⟨.start False.elim, _, _⟩, _, _, _⟩

/-- Recording the calls makes no difference to the streams. -/
theorem run_recording (pl : Pipeline) (p : Processor) (input : ByteReader) (output : ω) :
    (pl.run input output p).result = (pl.run input output p.recording).result ∧
      (pl.run input output p).source = (pl.run input output p.recording).source ∧
      (pl.run input output p).sink = (pl.run input output p.recording).sink := by
  rw [← forget_run_recording]
  exact ⟨rfl, rfl, rfl⟩

/-- The run after the leading rows, if these were dropped. -/
theorem driven_of_lead {p : Processor} {t : pl.Streaming p ω}
    (h : (pl.opened p input output).lead pl.config = (.ok true, t)) :
    pl.driven p input output = t.copyAll pl.config := by
  unfold driven
  rw [Session.drive_eq, h]

/-! ### The leading rows -/

/-- A run that fails **before the first row that is not dropped**. -/
theorem attributes_lead {t : pl.Streaming p.recording ω}
    (h : (pl.opened p.recording input output).lead pl.config = (.error e, t)) :
    pl.Attributed p input output e := by
  have hdriven : pl.driven p.recording input output = (.error e, t) := by
    unfold driven
    rw [Session.drive_eq, h]
  obtain ⟨honly, -, hcases⟩ := Session.lead_cases pl.config (pl.opened p.recording input output) rfl
  rw [h] at honly hcases
  have hcalls : (pl.driven p.recording input output).2.calls = [] := by
    rw [hdriven]
    exact congrArg Processor.Recorded.calls honly.processor_eq
  rcases hcases with ⟨hwanted, hphase, hless⟩ | ⟨hnone, hphase, hstats⟩
  · refine ⟨hphase.ne_stream, fun phase hp => ?_⟩
    obtain rfl := hphase.phase_eq phase hp
    refine Or.inl ⟨hwanted, ?_, ?_, hcalls⟩
    · rw [hdriven]
      exact Nat.lt_of_lt_of_eq hless (Nat.zero_add _)
    · rw [(run_recording pl p input output).2.2, run_eq, hdriven, received_close_error,
        honly.writer_eq]
      exact TextWriter.received_flush_of_pending rfl
  · refine ⟨hphase.ne_stream, fun phase hp => ?_⟩
    have hskipped : (pl.driven p.recording input output).2.stats.rowsSkipped =
        pl.config.skippedRows := by
      rw [hdriven, hnone]
      exact congrArg Stats.rowsSkipped hstats
    obtain rfl := hphase.phase_eq phase hp
    left
    unfold Session.firstPhase
    rw [if_neg (by omega)]
    by_cases hheader : pl.config.hasHeader = true
    · rw [if_pos hheader]
      exact ⟨hheader, hskipped, hcalls⟩
    · rw [if_neg hheader]
      exact ⟨hskipped, fun hwanted => absurd hwanted hheader⟩

omit [ByteSink ω] in
/-- **After the leading rows**, all of them were dropped, and nothing was written or processed. -/
theorem after_lead {s : pl.Streaming p.recording ω}
    (hlead : (pl.opened p.recording input output).lead pl.config = (.ok true, s)) :
    s.reader.KnowsEnd ∧ s.writer = (pl.opened p.recording input output).writer ∧
      s.stats.rowsSkipped = pl.config.skippedRows ∧ s.calls = [] := by
  obtain ⟨honly, hknows, hskipped⟩ :=
    Session.lead_cases pl.config (pl.opened p.recording input output) rfl
  rw [hlead] at honly hknows hskipped
  refine ⟨hknows, honly.writer_eq, hskipped.trans (Nat.zero_add _), ?_⟩
  exact congrArg Processor.Recorded.calls honly.processor_eq

/-! ### The header -/

/-- What is read as a header after the leading rows is the header of the text. -/
theorem header?_of_lead {p : Processor} {t : pl.Streaming p ω} {header : Record}
    {r : RowReader (TextReader pl.config.input.charset.decoder)}
    (hwanted : pl.config.hasHeader = true)
    (hlead : (pl.opened p input output).lead pl.config = (.ok true, t))
    (hread : t.reader.readHeader = (.ok (some header), r)) :
    pl.header? (pl.inputText input) = some header := by
  obtain ⟨t', hlead', hmirrors⟩ := (mirrors_opened pl p input output).lead hlead
  obtain ⟨hreader, hwriter, q, stats, log⟩ := hmirrors
  obtain ⟨r', hread', -⟩ := hreader.readHeader.of_ok hread
  have htext := Session.lead_text pl p (pl.inputText input)
  cases hsplit : (pl.grammar.lenient.splitRecords pl.config.skippedRows
      (pl.body (pl.inputText input))).2 with
  | none =>
    rw [hsplit] at htext
    obtain ⟨u, hu, -⟩ := htext
    rw [hlead'] at hu
    cases hu
  | some rest =>
    rw [hsplit] at htext
    obtain ⟨u, hu, hbefore⟩ := htext
    rw [hlead'] at hu
    cases hu
    rw [Pipeline.header?, if_pos hwanted, Pipeline.rowsOf, hsplit]
    exact hbefore.awaits.head?_of_readHeader hread'

/-- A run that fails **while the header is copied**. -/
theorem attributes_copyHeader {s t : pl.Streaming p.recording ω} (hwanted : pl.config.hasHeader = true)
    (hlead : (pl.opened p.recording input output).lead pl.config = (.ok true, s))
    (h : s.copyHeader pl.config = (.error e, t)) : pl.Attributed p input output e := by
  have hdriven : pl.driven p.recording input output = (.error e, t) := by
    rw [driven_of_lead hlead, Session.copyAll, if_pos hwanted, h]
  obtain ⟨hknows, -, hskipped, hcalls⟩ := after_lead hlead
  obtain ⟨hprocessor, hskipped', hphase⟩ := Session.copyHeader_cases pl.config s hknows
  rw [h] at hprocessor hskipped' hphase
  refine ⟨hphase.ne_stream, fun phase hp => ?_⟩
  obtain rfl := hphase.phase_eq phase hp
  refine Or.inl ⟨hwanted, ?_, ?_⟩
  · rw [hdriven, hskipped', hskipped]
  · rw [hdriven]
    exact (congrArg Processor.Recorded.calls hprocessor).trans hcalls

/-! ### The data rows -/

variable (pl p input output) in
/-- The session is the one **from which data rows are converted**: all leading rows were dropped, the
processor was not called, and if a header is wanted, all bytes of it were received and flushed. -/
structure Starts (start : pl.Streaming p.recording ω) : Prop where
  knowsEnd : start.reader.KnowsEnd
  skipped : start.stats.rowsSkipped = pl.config.skippedRows
  noCalls : start.calls = []
  driven_eq : pl.driven p.recording input output = start.convertRows pl.config
  headerSent : pl.config.hasHeader = true → ∃ (header : Record) (sink : ω),
    pl.header? (pl.inputText input) = some header ∧
      ByteSink.Reaches output sink ∧
      ByteSink.received sink = ByteSink.received output ++
        TextWriter.encoded pl.config.output.charset.encoder (pl.layout.renderRow header) ∧
      ByteSink.flush sink = (.ok (), start.writer.sink.writer)

/-- After the header was copied, data rows are converted. -/
theorem starts_of_copyHeader {s t : pl.Streaming p.recording ω} (hwanted : pl.config.hasHeader = true)
    (hlead : (pl.opened p.recording input output).lead pl.config = (.ok true, s))
    (h : s.copyHeader pl.config = (.ok (), t)) : pl.Starts p input output t := by
  obtain ⟨hknows, hwriter, hskipped, hcalls⟩ := after_lead hlead
  obtain ⟨hprocessor, hskipped', hcopied⟩ := Session.copyHeader_cases pl.config s hknows
  rw [h] at hprocessor hskipped' hcopied
  obtain ⟨hknows', header, w, hread, hwrite, hflush⟩ := hcopied
  have hcarries : s.writer.sink.Carries False (ByteSink.received output) [] := by
    rw [hwriter]
    exact .start False.elim
  obtain ⟨sink, hreaches, hreceived, hsink⟩ := RowWriter.sent_of_flush hcarries hwrite hflush
  refine ⟨hknows', hskipped'.trans hskipped, ?_, ?_, fun _ => ?_⟩
  · exact (congrArg Processor.Recorded.calls hprocessor).trans hcalls
  · rw [driven_of_lead hlead, Session.copyAll, if_pos hwanted, h]
  · rw [hwriter] at hreaches hreceived
    exact ⟨header, sink, header?_of_lead hwanted hlead hread, hreaches, hreceived, hsink⟩

/-- If no header is wanted, data rows are converted after the leading rows. -/
theorem starts_of_lead {s : pl.Streaming p.recording ω} (hwanted : ¬pl.config.hasHeader = true)
    (hlead : (pl.opened p.recording input output).lead pl.config = (.ok true, s)) :
    pl.Starts p input output s := by
  obtain ⟨hknows, -, hskipped, hcalls⟩ := after_lead hlead
  refine ⟨hknows, hskipped, hcalls, ?_, fun hheader => absurd hheader hwanted⟩
  rw [driven_of_lead hlead, Session.copyAll, if_neg hwanted]

/-- A run that fails **while data rows are converted**. The error belongs to that, unless the processor
answered with it. -/
theorem Starts.attributes {s t : pl.Streaming p.recording ω} (hs : pl.Starts p input output s)
    (h : s.convertRows pl.config = (.error e, t)) : pl.Attributed p input output e := by
  obtain ⟨hskipped, hcases⟩ := Session.convertRows_cases pl.config s hs.knowsEnd
  have hdata : pl.DataFault p input output := by
    refine ⟨?_, fun hwanted => ?_⟩
    · rw [hs.driven_eq, hskipped, hs.skipped]
    · obtain ⟨header, sink, hheader, hreaches, hreceived, hflushed⟩ := hs.headerSent hwanted
      exact ⟨header, sink, s, hheader, hreaches, hreceived, hflushed, hs.noCalls, hs.driven_eq⟩
  rw [h] at hcases
  obtain ⟨hstream, hphase | ⟨q, row, hprocess⟩⟩ := hcases
  · refine ⟨hstream, fun phase hp => ?_⟩
    obtain rfl := hphase.phase_eq phase hp
    exact Or.inl hdata
  · refine ⟨hstream, fun phase hp => Or.inr ⟨hdata, row, ?_⟩⟩
    rw [hs.driven_eq, h]
    exact Processor.getLast?_of_recording hprocess

/-! ### The end -/

/-- A run whose input **came to its end** has converted all data rows.

**Proof sketch.** The run on the text that the input is read as has come to its end too, and it has
made the same calls. What it wrote is what the text writer carries. -/
theorem finishFault_of_driven {s : pl.Streaming p.recording ω}
    (h : pl.driven p.recording input output = (.ok (), s)) : pl.FinishFault p input output := by
  obtain ⟨t, ht, hmirrors⟩ :=
    ((mirrors_opened pl p.recording input output).drive pl.config).of_ok h
  obtain ⟨hrows, hpasses, written, houtcomes, hstate, houtput⟩ := Session.of_drive_ok ht
  have houtcomes' : p.outcomes p.start (pl.dataRows (pl.inputText input)) = written.map .ok :=
    (p.outcomes_recording ⟨p.start, []⟩ _).symm.trans houtcomes
  have hstate' := hstate.trans (p.after_recording ⟨p.start, []⟩ _)
  have hend := Session.metEnd_of_drive rfl h
  have hsource : (pl.run input output p.recording).source = s.reader.source := by
    rw [run_eq, h, close]
    rcases s.writer.sink.finish with ⟨fault | u, w⟩ <;> rfl
  refine ⟨?_, hrows, hpasses, written, ?_, ?_, ?_⟩
  · rw [(run_recording pl p input output).2.1, hsource]
    exact hend
  · rw [h]
    show Processor.Recorded.calls s.processor = _
    rw [hmirrors.processor_eq, hstate', houtcomes']
    rfl
  · have hlength := p.length_outcomes p.start (pl.dataRows (pl.inputText input))
    rwa [houtcomes', List.length_map] at hlength
  · rw [h, ← houtput]
    exact hmirrors.carries

/-! ### All phases -/

/-- A run that fails **before its input ended**. -/
theorem attributes_driven {s : pl.Streaming p.recording ω}
    (h : pl.driven p.recording input output = (.error e, s)) : pl.Attributed p input output e := by
  have hdrive := Session.drive_eq pl.config (pl.opened p.recording input output)
  rcases hlead : (pl.opened p.recording input output).lead pl.config with ⟨e' | _ | _, t⟩
  · rw [hlead] at hdrive
    cases hdrive.symm.trans h
    exact attributes_lead hlead
  · -- the input ended among the leading rows
    rw [hlead] at hdrive
    dsimp only at hdrive
    split at hdrive
    · cases hdrive.symm.trans h
      refine ⟨fun fault heq => ?_, fun phase hp => ?_⟩
      · cases heq
      · cases hp
    · cases hdrive.symm.trans h
  · by_cases hwanted : pl.config.hasHeader = true
    · rcases hcopy : t.copyHeader pl.config with ⟨e' | _, u⟩
      · have hdriven := driven_of_lead hlead
        rw [h, Session.copyAll, if_pos hwanted, hcopy] at hdriven
        cases hdriven
        exact attributes_copyHeader hwanted hlead hcopy
      · have hstarts := starts_of_copyHeader hwanted hlead hcopy
        exact hstarts.attributes (hstarts.driven_eq.symm.trans h)
    · have hstarts := starts_of_lead hwanted hlead
      exact hstarts.attributes (hstarts.driven_eq.symm.trans h)

/-- **The phase of an error tells how far the run had come**, for every processor and for streams that
may fail at any call. No error is a failure of a stream without a phase. If an error has a phase, then
the run failed in that phase: see `SkipFault`, `HeaderFault`, `DataFault` and `FinishFault` for what
that means. The one exception is an error that the processor itself answered with, which is passed on
with whatever phase it has; then the run failed while data rows were converted. The calls of the
processor are known from a run that records them, which is otherwise the same run.

**Proof sketch.** The run fails in one of its stages or when the output is completed. Each stage
changes only what it is for, so what the later ones change is as it was at the start; and the errors
of a stage belong to its phase, but for those of the processor. -/
theorem run_attributes (pl : Pipeline) (p : Processor) (input : ByteReader) (output : ω)
    {e : Error} (h : (pl.run input output p).result = .error e) :
    (pl.run input output p.recording).forget = pl.run input output p ∧
      (∀ fault, e ≠ .stream fault) ∧
      ∀ phase fault, e = .streamIn phase fault →
        pl.Fault p input output phase ∨
          pl.DataFault p input output ∧ ∃ row,
            (pl.driven p.recording input output).2.calls.getLast? = some ⟨row, .error e⟩ := by
  have hattributed : pl.Attributed p input output e := by
    rw [(run_recording pl p input output).1, run_eq] at h
    rcases hdriven : pl.driven p.recording input output with ⟨e' | _, s⟩ <;> rw [hdriven] at h
    · cases h
      exact attributes_driven hdriven
    · rw [close] at h
      rcases hfinish : s.writer.sink.finish with ⟨fault | _, w⟩ <;> rw [hfinish] at h <;> cases h
      refine ⟨fun fault heq => ?_, fun phase hp => ?_⟩
      · cases heq
      · cases hp
        exact Or.inl (finishFault_of_driven hdriven)
  refine ⟨forget_run_recording pl p input output, hattributed.ne_stream, fun phase fault he => ?_⟩
  exact hattributed.fault phase (congrArg Error.phase? he)

/-- A writer that is full after the header. The rows are held back until the output is completed. -/
theorem run_attributes_full_writer :
    let commas : Dialect := { columnDelimiter := [','], rowDelimiter := ['\n'] }
    let pl : Pipeline := ⟨{ input := commas, output := commas, hasHeader := true }, by decide⟩
    let input : ByteReader := [.chunk (utf8Bytes "a\n1\n2\n".toList)]
    let output : ByteWriter :=
      { ByteWriter.unlimited with capacity := some 2, refusal := some ⟨"full"⟩ }
    let run := pl.run input output .identity
    run.result = .error (.streamIn .finish ⟨"full"⟩) ∧
      run.sink.received.toList = utf8Bytes "a\n".toList ∧
      pl.FinishFault .identity input output := by
  intro commas pl input output run
  have hresult : run.result = .error (.streamIn .finish ⟨"full"⟩) := by decide +kernel
  have hanswers : (pl.driven Processor.identity.recording input output).2.calls.map
      (·.answer.isOk) = [true, true] := by
    decide +kernel
  obtain ⟨-, -, hphase⟩ := run_attributes pl .identity input output hresult
  refine ⟨hresult, by decide +kernel, ?_⟩
  rcases hphase .finish _ rfl with hfault | ⟨-, row, hlast⟩
  · exact hfault
  · have hanswer := congrArg (Option.map (·.answer.isOk)) hlast
    rw [← List.getLast?_map, hanswers] at hanswer
    cases hanswer

/-- The exception does occur: a processor answers with a failure of the phase in which leading rows
are dropped, and none are to be dropped. -/
theorem not_skipFault_of_answered_phase :
    let commas : Dialect := { columnDelimiter := [','], rowDelimiter := ['\n'] }
    let pl : Pipeline := ⟨{ input := commas, output := commas }, by decide⟩
    let p : Processor := ⟨Unit, (), fun _ _ => (.error (.streamIn .skip ⟨"reset"⟩), ())⟩
    let input : ByteReader := [.chunk (utf8Bytes "a\n".toList)]
    (pl.run input ByteWriter.unlimited p).result = .error (.streamIn .skip ⟨"reset"⟩) ∧
      ¬pl.SkipFault p input ByteWriter.unlimited := by
  intro commas pl p input
  refine ⟨by decide +kernel, fun hfault => ?_⟩
  exact absurd hfault.wanted (by decide)

end Pipeline

end Delimited
