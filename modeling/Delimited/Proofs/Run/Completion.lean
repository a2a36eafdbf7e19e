import Delimited.Proofs.Run.Agreement
import Delimited.Proofs.Run.Lockstep
import Delimited.Proofs.Run.Recording
import Delimited.Proofs.Run.Stages

set_option autoImplicit false
set_option relaxedAutoImplicit false

/-!
# Runs that come to the end of their input

A run on a text that comes to the end without an error has converted all data rows of the text: each
passed its checks and was processed, and the answers were written in order, after the header.

## Main definitions

* `Delimited.Pipeline.header?`, `Delimited.Pipeline.dataRows` — the header and the data rows of a
  text.
* `Delimited.Pipeline.Passes` — a data row that passes its checks.

## Main results

* `Delimited.Session.of_drive_ok` — what a run on a text has done when it comes to the end.
-/

namespace Delimited

namespace Pipeline

variable (pl : Pipeline)

/-- The rows of a text after the leading ones, and the error at which they end. A text that ends among
the leading rows has no others. -/
def rowsOf (text : Text) : List Record × Option Error :=
  match (pl.grammar.lenient.splitRecords pl.config.skippedRows (pl.body text)).2 with
  | some rest => pl.grammar.rows pl.config.skipEmptyRows pl.config.skippedRows rest
  | none => ([], none)

/-- The **header** of a text, if one is wanted and there is one. -/
def header? (text : Text) : Option Record :=
  if pl.config.hasHeader then (pl.rowsOf text).1.head? else none

/-- The **data rows** of a text: those after the header. -/
def dataRows (text : Text) : List Record :=
  if pl.config.hasHeader then (pl.rowsOf text).1.tail else (pl.rowsOf text).1

/-- The data row with this number **passes** the checks of its columns and of its width. -/
structure Passes (number : Nat) (row : Record) : Prop where
  columns : pl.verifyRow row (.data number) = .ok ()
  width : Session.verifyWidth pl.config number row = .ok ()

variable {pl}

/-- A data row of which something becomes passed the checks and was processed. -/
theorem of_convertRow_ok {p : Processor} {number : Nat} {q q' : p.State} {row record : Record}
    (h : pl.convertRow p number q row = (.ok record, q')) :
    pl.Passes number row ∧ p.process q row = (.ok record, q') := by
  unfold convertRow at h
  split at h
  · cases h
  · next hcolumns =>
    split at h
    · cases h
    · next hwidth =>
      refine ⟨⟨hcolumns, hwidth⟩, ?_⟩
      rcases hprocess : p.process q row with ⟨e | found, q''⟩ <;> rw [hprocess] at h
      · cases h
      · cases h
        rfl

end Pipeline

namespace Session

variable {p : Processor} {pl : Pipeline} {s t : Session Text String p} {out : String}
  {text : Text} {rows : List Record} {fault : Option Error}

/-- A row that was converted is written at the end of the output. -/
theorem output_converted (s : Session Text String p) (q : p.State) (record : Record) :
    (s.converted q record).output = s.output ++ s.writer.layout.renderRow record := by
  show (s.writer.sink ++ String.ofList (s.writer.layout.renderRow record)).toList = _
  rw [String.toList_append, String.toList_ofList]
  rfl

/-- **Converting rows** without an error converts all of them.

**Proof sketch.** Induction on the rows. Had the columns of the first one been wrong, or had
converting it failed, there would have been an error; so it was converted, and the session goes on
with the other rows. -/
theorem Converting.of_ok (h : s.Converting pl rows fault)
    (hok : s.convertRows pl.config = (.ok (), t)) :
    fault = none ∧
      (∀ n row, rows[n]? = some row → pl.Passes (s.stats.rowsIn + n + 1) row) ∧
      ∃ written, p.outcomes s.processor rows = written.map .ok ∧
        t.processor = p.after s.processor rows ∧
        t.output = s.output ++ pl.layout.renderRows written := by
  induction rows generalizing s with
  | nil =>
    obtain ⟨r, hread⟩ := h.awaits.readRow
    cases fault with
    | some e =>
      rw [convertRows_of_error hread] at hok
      cases hok
    | none =>
      rw [convertRows_of_none hread] at hok
      cases hok
      refine ⟨rfl, fun n row hrow => ?_, [], rfl, rfl, (List.append_nil _).symm⟩
      cases hrow
  | cons row rows ih =>
    obtain ⟨r, hread, hawaits, hcount, hsame⟩ := h.awaits.readRow
    rw [h.verifyColumns_eq, h.rowCount_eq] at hread
    cases hchecked : pl.verifyRow row (.data (s.stats.rowsIn + 1)) with
    | error e =>
      rw [hchecked] at hread
      rw [convertRows_of_error hread] at hok
      cases hok
    | ok u =>
      rw [hchecked] at hread
      have hrow := convertRow_eq (s := { s with reader := r }) hchecked
      rcases hconvert : pl.convertRow p (s.stats.rowsIn + 1) s.processor row with ⟨e | record, q⟩
      · rw [hconvert] at hrow
        obtain ⟨u, hu, -⟩ := hrow
        rw [convertRows_of_convertRow_error hread hu] at hok
        cases hok
      · rw [hconvert] at hrow
        rw [convertRows_of_convertRow hread hrow] at hok
        obtain ⟨hpasses, hprocess⟩ := Pipeline.of_convertRow_ok hconvert
        obtain ⟨hfault, hall, written, houtcomes, hstate, houtput⟩ :=
          ih (h.converted hawaits hcount hsame q record) hok
        refine ⟨hfault, fun n other hother => ?_, record :: written, ?_, ?_, ?_⟩
        · cases n with
          | zero =>
            cases hother
            exact hpasses
          | succ n =>
            have hnumber : s.stats.rowsIn + (n + 1) + 1 = s.stats.rowsIn + 1 + n + 1 := by omega
            rw [hnumber]
            exact hall n other hother
        · rw [Processor.outcomes, hprocess]
          exact congrArg (_ :: ·) houtcomes
        · rw [Processor.after, hprocess]
          exact hstate
        · show t.output = s.output ++ (pl.layout.renderRow record ++ pl.layout.renderRows written)
          rw [houtput, output_converted, h.layout_eq, List.append_assoc]
          rfl

/-! ## All of a run -/

/-- The leading rows of a text are dropped, or the text ends among them. -/
theorem lead_text (pl : Pipeline) (p : Processor) (text : Text) :
    match (pl.grammar.lenient.splitRecords pl.config.skippedRows (pl.body text)).2 with
    | some rest => ∃ t, (pl.session text "" p).lead pl.config = (.ok true, t) ∧
        t.Before pl "" pl.config.skippedRows rest
    | none => ∃ t, (pl.session text "" p).lead pl.config = (.ok false, t) ∧ t.output = [] := by
  have hstart : (pl.session text "" p).Before pl "" 0 text := Before.start (Holds.refl text) ""
  obtain ⟨t, hmark, hbefore⟩ := (hstart.note (.starting pl.config)).stripMark
  have hskip := hbefore.skipRows pl.config.skippedRows
  unfold lead
  rw [hmark]
  rcases hsplit : pl.grammar.lenient.splitRecords pl.config.skippedRows (pl.body text) with
    ⟨dropped, _ | rest⟩ <;> rw [hsplit] at hskip
  · obtain ⟨u, hrows, hsink, -⟩ := hskip
    exact ⟨u, hrows, congrArg String.toList hsink⟩
  · obtain ⟨u, hrows, hbefore'⟩ := hskip
    rw [Nat.zero_add] at hbefore'
    exact ⟨u, hrows, hbefore'⟩

/-- A header that was copied is written at the end of the output. -/
theorem output_withHeader (s : Session Text String p) (r : RowReader Text) (header : Record) :
    (s.withHeader r header).output = s.output ++ s.writer.layout.renderRow header := by
  show (s.writer.sink ++ String.ofList (s.writer.layout.renderRow header)).toList = _
  rw [String.toList_append, String.toList_ofList]
  rfl

/-- A session between streams that drops the leading rows still mirrors the one between texts. -/
theorem Mirrors.lead {σ ω : Type} [CharSource σ] [ByteSink ω] {e : Encoder} {sound : Prop}
    {before : Bytes} {v w : Session σ (TextWriter e ω) p} {found : Bool} {c : Config}
    (h : v.Mirrors sound before s) (hlead : v.lead c = (.ok found, w)) :
    ∃ t, s.lead c = (.ok found, t) ∧ w.Mirrors sound before t := by
  unfold Session.lead at hlead ⊢
  rcases hmark : (v.note (.starting c)).stripMark c with ⟨err | _, u⟩ <;> rw [hmark] at hlead
  · cases hlead
  · obtain ⟨t, ht, hmirrors⟩ := ((h.note (.starting c)).stripMark c).of_ok hmark
    rw [ht]
    exact (hmirrors.skipRows c.skippedRows).of_ok hlead

/-- **After the leading rows**, a run that comes to the end has copied the header, if one is wanted,
and converted all data rows. -/
theorem Before.of_copyAll_ok {n : Nat} {rest : Text} (h : s.Before pl "" n rest)
    (hawaits : s.reader.Awaits rows fault) (hrows : pl.rowsOf text = (rows, fault))
    (hok : s.copyAll pl.config = (.ok (), t)) :
    fault = none ∧
      (∀ n row, (pl.dataRows text)[n]? = some row → pl.Passes (n + 1) row) ∧
      ∃ written, p.outcomes p.start (pl.dataRows text) = written.map .ok ∧
        t.processor = p.after p.start (pl.dataRows text) ∧
        t.output = pl.layout.renderRows ((pl.header? text).toList ++ written) := by
  have hlayout : s.writer.layout = pl.layout := congrArg RowWriter.layout h.writer_eq
  have houtput : s.output = [] := congrArg (fun w => w.sink.toList) h.writer_eq
  have hrowsIn : s.stats.rowsIn = 0 := congrArg Stats.rowsIn h.stats_eq
  unfold Pipeline.dataRows Pipeline.header?
  rw [hrows]
  unfold copyAll at hok
  by_cases hheader : pl.config.hasHeader = true
  · rw [if_pos hheader] at hok ⊢
    rw [if_pos hheader]
    have hread := hawaits.readHeader
    cases rows with
    | nil =>
      obtain ⟨r, hread⟩ := hread
      cases fault with
      | some e =>
        rw [copyHeader_of_error hread] at hok
        cases hok
      | none =>
        rw [copyHeader_of_none hread] at hok
        cases hok
    | cons header rows =>
      obtain ⟨r, hread, hawaits', hcount, hsame⟩ := hread
      cases hverify : verifyColumns s.reader.columnCheck
          s.reader.parser.grammar.delimiters.column header .header with
      | error e =>
        rw [hverify] at hread
        rw [copyHeader_of_error hread] at hok
        cases hok
      | ok u =>
        rw [hverify] at hread
        rw [copyHeader_of_some hread] at hok
        obtain ⟨hfault, hall, written, houtcomes, hstate, hout⟩ :=
          (h.converting_withHeader hawaits' hcount hsame).of_ok hok
        have hprocessor : (s.withHeader r header).processor = p.start := h.processor_eq
        have hrowsIn' : (s.withHeader r header).stats.rowsIn = 0 := hrowsIn
        rw [hprocessor] at houtcomes hstate
        rw [output_withHeader, houtput, hlayout, List.nil_append] at hout
        refine ⟨hfault, fun n row hrow => ?_, written, houtcomes, hstate, hout⟩
        have hpasses := hall n row hrow
        rwa [hrowsIn', Nat.zero_add] at hpasses
  · rw [if_neg hheader] at hok ⊢
    rw [if_neg hheader]
    obtain ⟨hfault, hall, written, houtcomes, hstate, hout⟩ := (h.converting hawaits).of_ok hok
    rw [h.processor_eq] at houtcomes hstate
    rw [houtput] at hout
    refine ⟨hfault, fun n row hrow => ?_, written, houtcomes, hstate, hout⟩
    have hpasses := hall n row hrow
    rwa [hrowsIn, Nat.zero_add] at hpasses

/-- **A run that comes to the end of a text** without an error has converted all data rows: they
passed their checks, they were processed in order, each with success, and the output has the header
and the answers.

**Proof sketch.** If the text ends among the leading rows, there are no others. Otherwise the session
stands before the rest of it, whose rows it awaits. -/
theorem of_drive_ok (hok : (pl.session text "" p).drive pl.config = (.ok (), t)) :
    (pl.rowsOf text).2 = none ∧
      (∀ n row, (pl.dataRows text)[n]? = some row → pl.Passes (n + 1) row) ∧
      ∃ written, p.outcomes p.start (pl.dataRows text) = written.map .ok ∧
        t.processor = p.after p.start (pl.dataRows text) ∧
        t.output = pl.layout.renderRows ((pl.header? text).toList ++ written) := by
  have hlead := lead_text pl p text
  have honly := (lead_cases pl.config (pl.session text "" p) rfl).1
  rw [drive_eq] at hok
  cases hsplit : (pl.grammar.lenient.splitRecords pl.config.skippedRows (pl.body text)).2 with
  | none =>
    rw [hsplit] at hlead
    obtain ⟨u, hu, houtput⟩ := hlead
    have hrows : pl.rowsOf text = ([], none) := by rw [Pipeline.rowsOf, hsplit]
    have hdata : pl.dataRows text = [] := by
      rw [Pipeline.dataRows, hrows]
      split <;> rfl
    have hheader : pl.header? text = none := by
      rw [Pipeline.header?, hrows]
      split <;> rfl
    rw [hu] at hok honly
    dsimp only at hok
    split at hok
    · cases hok
    · cases hok
      rw [hdata, hheader, hrows]
      refine ⟨rfl, fun n row hrow => ?_, [], rfl, honly.processor_eq, houtput⟩
      cases hrow
  | some rest =>
    rw [hsplit] at hlead
    obtain ⟨u, hu, hbefore⟩ := hlead
    rw [hu] at hok
    have hrows : pl.rowsOf text =
        ((pl.grammar.rows pl.config.skipEmptyRows pl.config.skippedRows rest).1,
          (pl.grammar.rows pl.config.skipEmptyRows pl.config.skippedRows rest).2) := by
      rw [Pipeline.rowsOf, hsplit]
    have hdone := hbefore.of_copyAll_ok hbefore.awaits hrows hok
    rwa [hrows]

end Session

end Delimited
