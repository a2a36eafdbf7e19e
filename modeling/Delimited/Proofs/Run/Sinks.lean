import Delimited.Pipeline
import Delimited.Proofs.Stream.Delivery

set_option autoImplicit false
set_option relaxedAutoImplicit false

/-!
# What a run does to its sink

A run uses its sink only to write text and to flush. So what both keep holds of the sink after the run
if it held before, whatever the result; and the byte sink of a run is left in a state to which write
calls and flushing lead.

## Main results

* `Delimited.Session.keeps_drive` — a run keeps what writing and flushing keep.
* `Delimited.Pipeline.reaches_run` — the byte sink after a run.
-/

namespace Delimited

/-! ## Row writers -/

namespace RowWriter

variable {κ : Type} [CharSink κ]

/-- Writing a row writes one piece of text to the sink. -/
theorem sink_write (w : RowWriter κ) (record : Record) :
    (w.write record).2.sink = (CharSink.write (w.layout.renderRow record) w.sink).2 := by
  unfold write
  split
  · next h => rw [h]
  · next h => rw [h]

/-- Flushing a writer leaves its sink flushed. -/
theorem sink_flush (w : RowWriter κ) : w.flush.2.sink = (CharSink.flush w.sink).2 := by
  unfold flush
  split
  · next h => rw [h]
  · next h => rw [h]

end RowWriter

/-! ## Sessions -/

namespace Session

variable {σ κ : Type} {p : Processor}

/-- A warning leaves the writer. -/
theorem writer_warn (s : Session σ κ p) (e : Error) : (s.warn e).writer = s.writer := by
  unfold warn
  split <;> rfl

section Reading

variable [CharSource σ]

/-- So does looking for a mark. -/
theorem writer_stripMark (c : Config) (s : Session σ κ p) :
    (s.stripMark c).2.writer = s.writer := by
  unfold stripMark
  split
  · split
    · rfl
    · dsimp only
      split <;> rfl
  · rfl

/-- So does dropping rows. -/
theorem writer_skipRows (n : Nat) (s : Session σ κ p) : (s.skipRows n).2.writer = s.writer := by
  induction n generalizing s with
  | zero => rfl
  | succ n ih =>
    rw [skipRows]
    split
    · rfl
    · rfl
    · exact ih _

end Reading

section Keeping

variable [CharSink κ] {P : κ → Prop}
  (hwrite : ∀ {k : κ} (text : Text), P k → P (CharSink.write text k).2)
  (hflush : ∀ {k : κ}, P k → P (CharSink.flush k).2)

include hwrite in
/-- Converting a row writes at most one row. -/
theorem keeps_convertRow (c : Config) (row : Record) {s : Session σ κ p} (h : P s.writer.sink) :
    P (s.convertRow c row).2.writer.sink := by
  unfold convertRow
  dsimp only
  split
  · rwa [writer_warn]
  · split
    · exact h
    · next record q hprocess =>
      have hkept := hwrite (s.writer.layout.renderRow record) h
      rw [← RowWriter.sink_write] at hkept
      split
      · next hrow => rwa [hrow] at hkept
      · next hrow => rwa [hrow] at hkept

variable [CharSource σ]

include hwrite hflush in
/-- Copying a header writes and flushes. -/
theorem keeps_copyHeader (c : Config) {s : Session σ κ p} (h : P s.writer.sink) :
    P (s.copyHeader c).2.writer.sink := by
  unfold copyHeader
  split
  · rwa [writer_warn]
  · exact h
  · next header r hread =>
    have hkept := hwrite (s.writer.layout.renderRow header) h
    rw [← RowWriter.sink_write] at hkept
    split
    · next hrow => rwa [hrow] at hkept
    · next w hrow =>
      rw [hrow] at hkept
      have hflushed := hflush hkept
      rw [← RowWriter.sink_flush] at hflushed
      split
      · next hend => rwa [hend] at hflushed
      · next hend => rwa [hend] at hflushed

include hwrite in
/-- Converting rows writes some of them, in turn. -/
theorem keeps_convertRows (c : Config) {s : Session σ κ p} (h : P s.writer.sink) :
    P (s.convertRows c).2.writer.sink := by
  fun_induction convertRows c s with
  | case1 s e r hread => rwa [writer_warn]
  | case2 s r hread => exact h
  | case3 s row r hread e t hrow =>
    have hkept : P (convertRow c row { s with reader := r }).2.writer.sink :=
      keeps_convertRow hwrite c row h
    rwa [hrow] at hkept
  | case4 s row r hread t hrow ih =>
    have hkept : P (convertRow c row { s with reader := r }).2.writer.sink :=
      keeps_convertRow hwrite c row h
    rw [hrow] at hkept
    exact ih hkept

include hwrite hflush in
/-- Copying header and rows does one after the other. -/
theorem keeps_copyAll (c : Config) {s : Session σ κ p} (h : P s.writer.sink) :
    P (s.copyAll c).2.writer.sink := by
  unfold copyAll
  split
  · have hcopied := keeps_copyHeader hwrite hflush c h
    split
    · next hcopy => rwa [hcopy] at hcopied
    · next hcopy =>
      rw [hcopy] at hcopied
      exact keeps_convertRows hwrite c hcopied
  · exact keeps_convertRows hwrite c h

include hwrite hflush in
/-- **A run keeps** what writing and flushing keep, however it ends.

**Proof sketch.** Up to the first row that is not dropped, nothing is written. -/
theorem keeps_drive (c : Config) {s : Session σ κ p} (h : P s.writer.sink) :
    P (s.drive c).2.writer.sink := by
  have hmark : P ((s.note (.starting c)).stripMark c).2.writer.sink := by
    rwa [writer_stripMark]
  unfold drive
  split
  · next hstrip => rwa [hstrip] at hmark
  · next t hstrip =>
    rw [hstrip] at hmark
    have hskip : P (t.skipRows c.skippedRows).2.writer.sink := by rwa [writer_skipRows]
    split
    · next hrows => rwa [hrows] at hskip
    · next hrows =>
      rw [hrows] at hskip
      exact keeps_copyAll hwrite hflush c hskip
    · next hrows =>
      rw [hrows] at hskip
      split <;> exact hskip

end Keeping

end Session

/-! ## Text writers -/

namespace TextWriter

variable {e : Encoder} {ω : Type} [ByteSink ω]

/-- Flushing a text writer uses its byte sink by write calls and by flushing. -/
theorem reaches_flush (s : TextWriter e ω) : ByteSink.Reaches s.writer s.flush.2.writer := by
  have hdrain := reaches_drain s
  unfold flush
  split
  · next hd => rwa [hd] at hdrain
  · next hd =>
    rw [hd] at hdrain
    exact hdrain.flush

/-- So does ending its text. -/
theorem reaches_finish (s : TextWriter e ω) : ByteSink.Reaches s.writer s.finish.2 := by
  rw [finish_eq]
  dsimp only
  have hwritten := ByteSink.Reaches.writeAll
    ((e.feed questionMark s.state s.pending.toList).1 ++
      e.finish (e.feed questionMark s.state s.pending.toList).2) s.writer
  split
  · next hw => rwa [hw] at hwritten
  · next hw =>
    rw [hw] at hwritten
    exact hwritten.flush

end TextWriter

namespace Pipeline

variable {ω : Type} [ByteSink ω]

/-- **The byte sink after a run** is in a state to which write calls and flushing lead. -/
theorem reaches_run (pl : Pipeline) (p : Processor) (input : ByteReader) (output : ω) :
    ByteSink.Reaches output (pl.run input output p).sink := by
  have hdrive := Session.keeps_drive (κ := TextWriter pl.config.output.charset.encoder ω)
    (P := fun k => ByteSink.Reaches output k.writer)
    (fun text hk => hk.trans (TextWriter.reaches_write _ text))
    (fun hk => hk.trans (TextWriter.reaches_flush _)) pl.config
    (s := pl.session (TextReader.ofReader input : TextReader pl.config.input.charset.decoder)
      (TextWriter.ofWriter output) p) .refl
  unfold run
  dsimp only
  rcases hdriven : Session.drive pl.config _ with ⟨e | _, s⟩ <;> rw [hdriven] at hdrive
  · have hsink : (close TextWriter.finish TextWriter.writer (.error e, s)).sink =
        s.writer.sink.flush.2.writer :=
      congrArg TextWriter.writer s.writer.sink_flush
    rw [hsink]
    exact hdrive.trans (TextWriter.reaches_flush s.writer.sink)
  · have hfinish := hdrive.trans (TextWriter.reaches_finish s.writer.sink)
    unfold close
    dsimp only
    split
    · next hend => rwa [hend] at hfinish
    · next hend => rwa [hend] at hfinish

end Pipeline

end Delimited
