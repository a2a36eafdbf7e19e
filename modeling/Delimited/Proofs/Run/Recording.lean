import Delimited.Pipeline

set_option autoImplicit false
set_option relaxedAutoImplicit false

/-!
# Runs that record the calls of their processor

A processor can be made to keep a record of its calls. It still answers as before, so a run with it
is the same run, and afterwards it is known which rows were processed and what came of them.

## Main definitions

* `Delimited.Processor.Call` — a call of a processor.
* `Delimited.Processor.recording` — a processor that keeps its calls.

## Main results

* `Delimited.Pipeline.forget_run_recording` — a run with such a processor is the run with the
  processor itself.
-/

namespace Delimited

namespace Processor

/-- A **call** of a processor: the row that it was given, and its answer. -/
structure Call where
  row : Record
  answer : Except Error Record
  deriving Repr

/-- The state of a processor, together with the calls so far. -/
structure Recorded (p : Processor) where
  state : p.State
  calls : List Call

/-- The processor that **keeps its calls**. -/
def recording (p : Processor) : Processor where
  State := Recorded p
  start := ⟨p.start, []⟩
  process s row :=
    ((p.process s.state row).1,
      ⟨(p.process s.state row).2, s.calls ++ [⟨row, (p.process s.state row).1⟩]⟩)

/-- The last call is the one that was just made. -/
theorem getLast?_of_recording {p : Processor} {q q' : Recorded p} {row : Record}
    {answer : Except Error Record} (h : p.recording.process q row = (answer, q')) :
    q'.calls.getLast? = some ⟨row, answer⟩ := by
  cases h
  exact List.getLast?_concat

/-- The state after some rows were processed. -/
def after (p : Processor) : p.State → List Record → p.State
  | s, [] => s
  | s, row :: rows => after p (p.process s row).2 rows

/-- The calls for some rows are these rows with their outcomes, in order. -/
theorem after_recording (p : Processor) (s : Recorded p) (rows : List Record) :
    p.recording.after s rows =
      (⟨p.after s.state rows, s.calls ++ List.zipWith Call.mk rows (p.outcomes s.state rows)⟩ :
        Recorded p) := by
  induction rows generalizing s with
  | nil =>
    rw [outcomes, List.zipWith_nil_right, List.append_nil]
    rfl
  | cons row rows ih =>
    rw [outcomes, List.zipWith_cons_cons, List.append_cons]
    exact ih _

/-- Each row has an outcome. -/
theorem length_outcomes (p : Processor) (s : p.State) (rows : List Record) :
    (p.outcomes s rows).length = rows.length := by
  induction rows generalizing s with
  | nil => rfl
  | cons row rows ih => exact congrArg (· + 1) (ih _)

/-- The outcomes are not changed by recording. -/
theorem outcomes_recording (p : Processor) (s : Recorded p) (rows : List Record) :
    p.recording.outcomes s rows = p.outcomes s.state rows := by
  induction rows generalizing s with
  | nil => rfl
  | cons row rows ih => exact congrArg (_ :: ·) (ih _)

end Processor

namespace Session

variable {σ κ : Type} {p : Processor}

/-- The calls that were recorded. -/
def calls (s : Session σ κ p.recording) : List Processor.Call :=
  Processor.Recorded.calls s.processor

/-- The session without the record of the calls. -/
def forget (s : Session σ κ p.recording) : Session σ κ p :=
  ⟨s.reader, s.writer, Processor.Recorded.state s.processor, s.stats, s.log⟩

/-- Warning commutes with forgetting. -/
theorem forget_warn (s : Session σ κ p.recording) (e : Error) :
    s.forget.warn e = (s.warn e).forget := by
  unfold warn
  split <;> rfl

/-- Forgetting leaves the reader. -/
theorem reader_forget (s : Session σ κ p.recording) : s.forget.reader = s.reader := rfl

/-- It leaves the writer. -/
theorem writer_forget (s : Session σ κ p.recording) : s.forget.writer = s.writer := rfl

/-! ## The stages of a run -/

variable [CharSource σ] [CharSink κ]

omit [CharSink κ] in
/-- Looking for a mark commutes with forgetting. -/
theorem forget_stripMark (c : Config) (s : Session σ κ p.recording) :
    s.forget.stripMark c = ((s.stripMark c).1, (s.stripMark c).2.forget) := by
  unfold stripMark
  rw [reader_forget]
  split
  · rcases s.reader.stripMark with ⟨e | (_ | _), r⟩ <;> rfl
  · rfl

omit [CharSink κ] in
/-- So does dropping rows. -/
theorem forget_skipRows (n : Nat) (s : Session σ κ p.recording) :
    s.forget.skipRows n = ((s.skipRows n).1, (s.skipRows n).2.forget) := by
  induction n generalizing s with
  | zero => rfl
  | succ n ih =>
    rw [skipRows, skipRows, reader_forget]
    rcases s.reader.skipRow with ⟨e | (_ | _), r⟩
    · rfl
    · rfl
    · exact ih (note { s with
        reader := r
        stats := { s.stats with rowsSkipped := s.stats.rowsSkipped + 1 } } _)

/-- So does copying a header. -/
theorem forget_copyHeader (c : Config) (s : Session σ κ p.recording) :
    s.forget.copyHeader c = ((s.copyHeader c).1, (s.copyHeader c).2.forget) := by
  unfold copyHeader
  rw [reader_forget, writer_forget]
  rcases s.reader.readHeader with ⟨e | _ | header, r⟩
  · exact congrArg (Prod.mk _) (forget_warn { s with reader := r } e)
  · rfl
  · dsimp only
    rcases s.writer.write header with ⟨e | u, w⟩
    · rfl
    · dsimp only
      rcases w.flush with ⟨e | u, w⟩ <;> rfl

omit [CharSource σ] in
/-- So does converting a row. -/
theorem forget_convertRow (c : Config) (row : Record) (s : Session σ κ p.recording) :
    s.forget.convertRow c row = ((s.convertRow c row).1, (s.convertRow c row).2.forget) := by
  obtain ⟨reader, writer, ⟨q, calls⟩, stats, log⟩ := s
  unfold convertRow
  dsimp only [forget, Processor.recording]
  cases verifyWidth c (stats.rowsIn + 1) row with
  | error e => exact congrArg (Prod.mk _) (forget_warn ⟨reader, writer, ⟨q, calls⟩, _, log⟩ e)
  | ok u =>
    dsimp only
    rcases p.process q row with ⟨e | record, q'⟩
    · rfl
    · dsimp only
      rcases writer.write record with ⟨e | u, w⟩ <;> rfl

/-- Converting rows goes the same way.

**Proof sketch.** Induction along the rows that are converted. -/
theorem forget_convertRows (c : Config) (s : Session σ κ p.recording) :
    s.forget.convertRows c = ((s.convertRows c).1, (s.convertRows c).2.forget) := by
  have hrow : ∀ (s : Session σ κ p.recording) (row : Record) (r : RowReader σ),
      convertRow c row { s.forget with reader := r } =
        ((convertRow c row { s with reader := r }).1,
          (convertRow c row { s with reader := r }).2.forget) :=
    fun s row r => forget_convertRow c row { s with reader := r }
  fun_induction convertRows c s with
  | case1 s e r h =>
    rw [convertRows_eq, reader_forget, h]
    exact congrArg (Prod.mk _) (forget_warn { s with reader := r } e)
  | case2 s r h =>
    rw [convertRows_eq, reader_forget, h]
    rfl
  | case3 s row r h e t hconvert =>
    rw [convertRows_eq, reader_forget, h]
    dsimp only
    rw [hrow, hconvert]
  | case4 s row r h t hconvert ih =>
    rw [convertRows_eq, reader_forget, h]
    dsimp only
    rw [hrow, hconvert]
    exact ih

/-- So does all that comes after the leading rows. -/
theorem forget_copyAll (c : Config) (s : Session σ κ p.recording) :
    s.forget.copyAll c = ((s.copyAll c).1, (s.copyAll c).2.forget) := by
  unfold copyAll
  split
  · rw [forget_copyHeader]
    rcases s.copyHeader c with ⟨e | u, t⟩
    · rfl
    · exact forget_convertRows c t
  · exact forget_convertRows c s

/-- So does all of a run. -/
theorem forget_drive (c : Config) (s : Session σ κ p.recording) :
    s.forget.drive c = ((s.drive c).1, (s.drive c).2.forget) := by
  have hmark : (s.forget.note (.starting c)).stripMark c = _ :=
    forget_stripMark c (s.note (.starting c))
  unfold drive
  rw [hmark]
  rcases (s.note (.starting c)).stripMark c with ⟨e | u, t⟩
  · rfl
  · dsimp only
    rw [forget_skipRows]
    rcases t.skipRows c.skippedRows with ⟨e | (_ | _), t⟩
    · rfl
    · dsimp only
      split <;> rfl
    · exact forget_copyAll c t

end Session

/-- The run without the record of the calls. -/
def Run.forget {σ κ : Type} {p : Processor} (r : Run σ κ p.recording) : Run σ κ p :=
  ⟨r.result, r.source, r.sink, Processor.Recorded.state r.processor, r.log⟩

namespace Pipeline

/-- **Recording changes nothing**: a run with a processor that keeps its calls is the run with the
processor itself, but for the record. -/
theorem forget_run_recording {ω : Type} [ByteSink ω] (pl : Pipeline) (p : Processor)
    (input : ByteReader) (output : ω) :
    (pl.run input output p.recording).forget = pl.run input output p := by
  have hdrive := Session.forget_drive pl.config
    (pl.session (TextReader.ofReader input : TextReader pl.config.input.charset.decoder)
      (TextWriter.ofWriter output : TextWriter pl.config.output.charset.encoder ω) p.recording)
  unfold run
  dsimp only
  refine Eq.trans ?_ (congrArg (close TextWriter.finish TextWriter.writer) hdrive.symm)
  rcases Session.drive pl.config _ with ⟨e | u, s⟩
  · rfl
  · unfold close
    dsimp only
    rw [Session.writer_forget]
    rcases s.writer.sink.finish with ⟨fault | u, w⟩ <;> rfl

end Pipeline

end Delimited
