import Delimited.Proofs.Record.Overlap
import Delimited.Proofs.Run.Agreement
import Delimited.Proofs.Run.Direct

set_option autoImplicit false
set_option relaxedAutoImplicit false

/-!
# Conversions compose

Going through an intermediate dialect gives what going directly gives, if what is written in that
dialect can be read back. The first conversion may drop, check and change what it likes; the second
one converts all that is left.

## Main definitions

* `Delimited.Pipeline.withOutput` — the same conversion into another dialect.
* `Delimited.Pipeline.WritesReadably` — what the pipeline writes can be read back.

## Main results

* `Delimited.Pipeline.WritesReadably.records_renderRows` — the records of what was written are those
  that were written.
* `Delimited.Pipeline.transcode_transcode` — two conversions, one after the other.
-/

namespace Delimited

namespace Pipeline

variable {pl second : Pipeline} {q : Char}

/-- The same conversion **into another dialect**. -/
def withOutput (pl : Pipeline) (d : Dialect) (mode : QuoteMode) (h : d.Valid) : Pipeline :=
  ⟨{ pl.config with output := d, quoteMode := mode }, pl.valid.1, h, pl.valid.2.2⟩

section WithOutput

variable {d : Dialect} {mode : QuoteMode} {h : d.Valid} {p : Processor}

/-- What becomes of the data rows does not depend on the dialect that is written. -/
theorem convertRows_withOutput (fault : Option Error) (n : Nat) (q : p.State)
    (rows : List Record) :
    (pl.withOutput d mode h).convertRows p fault n q rows = pl.convertRows p fault n q rows := by
  have hrow : ∀ number q row,
      (pl.withOutput d mode h).convertRow p number q row = pl.convertRow p number q row :=
    fun _ _ _ => rfl
  induction rows generalizing n q with
  | nil => rfl
  | cons row rows ih =>
    unfold convertRows
    simp only [hrow, ih]

/-- What becomes of all rows does not either. -/
theorem courseOfRows_withOutput (rows : List Record) (fault : Option Error) :
    (pl.withOutput d mode h).courseOfRows p rows fault = pl.courseOfRows p rows fault := by
  have hdata : ∀ written rows, (pl.withOutput d mode h).courseOfData p written fault rows =
      pl.courseOfData p written fault rows := by
    intro written rows
    unfold courseOfData
    rw [convertRows_withOutput]
    rfl
  unfold courseOfRows
  simp only [hdata]
  rfl

/-- **What a run amounts to does not depend on the dialect that is written.** -/
theorem course_withOutput (text : Text) :
    (pl.withOutput d mode h).course p text = pl.course p text := by
  unfold course courseAfter
  simp only [courseOfRows_withOutput]
  rfl

end WithOutput

/-- The delimiters that the pipeline writes. -/
def outputDelimiters (pl : Pipeline) : Delimiters :=
  pl.config.output.delimiters pl.valid.2.1

/-- What the pipeline writes **can be read back**: the quote occurs in neither delimiter; and all
fields are written in quotes and the delimiters differ, or those that need quotes are and the
delimiters do not overlap. -/
structure WritesReadably (pl : Pipeline) (q : Char) : Prop where
  quote : pl.config.output.quote = some q
  avoids : pl.outputDelimiters.Avoids q
  mode : (pl.config.quoteMode = .always ∧
      pl.config.output.rowDelimiter ≠ pl.config.output.columnDelimiter) ∨
    (pl.config.quoteMode = .asNeeded ∧ pl.outputDelimiters.NonOverlapping)

/-- How such a pipeline writes. -/
theorem WritesReadably.layout_eq (h : pl.WritesReadably q) :
    pl.layout = pl.outputDelimiters.layout q pl.config.quoteMode := by
  unfold layout Dialect.layout
  rw [h.quote]
  rfl

/-- **Written records are read back** with the quote, if newlines are kept. -/
theorem WritesReadably.records_renderRows (h : pl.WritesReadably q) (records : List Record)
    (hne : ∀ r ∈ records, r ≠ []) :
    (pl.outputDelimiters.grammar q .preserve).records (pl.layout.renderRows records) =
      (records, false) := by
  rw [h.layout_eq]
  rcases h.mode with ⟨hmode, hdistinct⟩ | ⟨hmode, happart⟩
  · rw [hmode]
    exact (Delimiters.readable_always h.avoids hdistinct .preserve).records_renderRows records hne
  · rw [hmode]
    exact (Delimiters.readable_asNeeded happart h.avoids).records_renderRows records hne

/-- A pipeline **continues** another one if it reads the dialect that the other one writes, and
converts all of it: it drops and checks nothing, and keeps newlines but no quotes. -/
structure Continues (second pl : Pipeline) : Prop where
  input : second.config.input = pl.config.output
  keepInputQuotes : second.config.keepInputQuotes = false
  direct : second.config.Direct

/-- How such a pipeline reads. -/
theorem Continues.grammar_eq (h : second.Continues pl) (hquote : pl.config.output.quote = some q) :
    second.grammar = pl.outputDelimiters.grammar q .preserve := by
  obtain ⟨hinput, hkeep, hdirect⟩ := h
  have hdelimiters : second.config.input.delimiters second.valid.1 = pl.outputDelimiters := by
    simp only [outputDelimiters, hinput]
  unfold grammar Dialect.grammar
  rw [hdelimiters, hkeep, hdirect.newlines, hinput, hquote]
  rfl

/-- The course of a pipeline that continues another one is to write what that one wrote. -/
theorem Continues.course_eq (h : second.Continues pl) (hwrites : pl.WritesReadably q)
    (records : List Record) (hne : ∀ r ∈ records, r ≠ []) :
    second.course .identity (pl.layout.renderRows records) =
      ⟨.ok { rowsIn := records.length, rowsOut := records.length }, records⟩ := by
  rw [course_direct h.direct, h.grammar_eq hwrites.quote, hwrites.records_renderRows records hne]

/-- The outcome of a conversion of a text in memory is its course. -/
theorem transcode_eq (pl : Pipeline) (p : Processor) (text : Text) :
    (pl.transcode text p).result = (pl.course p text).result ∧
      (pl.transcode text p).sink.toList = pl.layout.renderRows (pl.course p text).written := by
  obtain ⟨hresult, hsink⟩ := close_of_ends (Session.ends_drive pl p (Holds.refl text) "")
  refine ⟨hresult, ?_⟩
  have htext : (pl.transcode text p).sink =
      "" ++ String.ofList (pl.layout.renderRows (pl.course p text).written) := hsink
  rw [htext, String.empty_append, String.toList_ofList]

/-- **Conversions compose.** If a conversion that writes readably succeeds, then so do the same
conversion into another dialect, with the same counts, and the conversion into that dialect of what
was written; and the two give the same text.

**Proof sketch.** The first conversion writes records that have a field. They are the records of the
text that it writes, so the second conversion writes them in its own layout. That is what the direct
conversion does, since the dialect that is written does not matter for what is read. -/
theorem transcode_transcode (hwrites : pl.WritesReadably q) (hsecond : second.Continues pl)
    {text : Text} {stats : Stats} (h : (pl.transcode text .identity).result = .ok stats) :
    let direct := pl.withOutput second.config.output second.config.quoteMode second.valid.2.1
    let between := (pl.transcode text .identity).sink.toList
    (direct.transcode text .identity).result = .ok stats ∧
      (∃ stats', (second.transcode between .identity).result = .ok stats') ∧
      (second.transcode between .identity).sink = (direct.transcode text .identity).sink := by
  intro direct between
  have hcourse : direct.course .identity text = pl.course .identity text :=
    course_withOutput text
  obtain ⟨hresult, hbetween⟩ := transcode_eq pl .identity text
  obtain ⟨hdirect, hdirectSink⟩ := transcode_eq direct .identity text
  obtain ⟨hlast, hlastSink⟩ := transcode_eq second .identity between
  have hnext := hsecond.course_eq hwrites _ (written_ne_nil pl text)
  rw [← hbetween] at hnext
  refine ⟨?_, ⟨_, hlast.trans (congrArg Course.result hnext)⟩, ?_⟩
  · rw [hdirect, hcourse, ← hresult, h]
  · rw [hcourse] at hdirectSink
    rw [hnext] at hlastSink
    exact String.toList_injective (hlastSink.trans hdirectSink.symm)

/-- A title is dropped, and a header and a field with a newline go through bars, of which one
delimiter begins with the other, to tabs. -/
theorem transcode_transcode_bars :
    let commas : Dialect := { columnDelimiter := [','], rowDelimiter := ['\n'] }
    let bars : Dialect := { columnDelimiter := ['|'], rowDelimiter := ['|', '|'] }
    let tabs : Dialect := { columnDelimiter := ['\t'], rowDelimiter := ['\n'], quote := none }
    let pl : Pipeline :=
      ⟨{ input := commas, output := bars, quoteMode := .always, skippedRows := 1,
         hasHeader := true }, by decide⟩
    let second : Pipeline :=
      ⟨{ input := bars, output := tabs, quoteMode := .never, stripMark := false }, by decide⟩
    let text : Text := "title\na,b\n\"x\ny\",|".toList
    let between : Text := "\"a\"|\"b\"||\"x\ny\"|\"|\"||".toList
    let stats : Stats := { rowsSkipped := 1, headerWritten := true, rowsIn := 1, rowsOut := 1 }
    pl.WritesReadably '"' ∧ second.Continues pl ∧
      (pl.transcode text .identity).result = .ok stats ∧
      (pl.transcode text .identity).sink.toList = between ∧
      (second.transcode between .identity).sink = "a\tb\nx\ny\t|\n" := by
  intro commas bars tabs pl second text between stats
  have hwrites : pl.WritesReadably '"' := ⟨rfl, by decide, Or.inl ⟨rfl, by decide⟩⟩
  have hsecond : second.Continues pl := ⟨rfl, rfl, rfl, rfl, rfl, rfl, rfl, rfl, rfl⟩
  obtain ⟨hresult, hbetween⟩ := transcode_eq pl .identity text
  have hstats : (pl.transcode text .identity).result = .ok stats :=
    hresult.trans (by decide +kernel)
  have htext : (pl.transcode text .identity).sink.toList = between :=
    hbetween.trans (by decide +kernel)
  obtain ⟨-, -, hsame⟩ := transcode_transcode hwrites hsecond hstats
  refine ⟨hwrites, hsecond, hstats, htext, ?_⟩
  rw [← htext, hsame]
  refine String.toList_injective ((transcode_eq _ .identity text).2.trans ?_)
  decide +kernel

end Pipeline

end Delimited
