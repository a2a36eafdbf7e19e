import Delimited.Proofs.Run.Course
import Delimited.Proofs.Run.Sinks

set_option autoImplicit false
set_option relaxedAutoImplicit false

/-!
# Runs follow their course

A run from a source that never fails into a string ends with the result of its course, and it leaves
the written form of the records of the course at the end of the string. Each stage of a run takes a
session of which it is known where it stands to another such session.

## Main definitions

* `Delimited.Session.Before` — a session that did nothing but drop leading rows.
* `Delimited.Session.Converting` — a session that converts data rows.
* `Delimited.Session.Ends` — how a run ends.

## Main results

* `Delimited.Session.Converting.ends` — converting rows, by induction on the rows.
* `Delimited.Pipeline.runText_agrees` — a run agrees with its course.
-/

namespace Delimited

/-- Looking for a mark leaves the text without it. -/
theorem Holds.stripMark {σ : Type} [CharSource σ] {r : RowReader σ} {text : Text}
    (h : Holds r.source text) :
    ∃ found t, r.stripMark = (.ok found, { r with source := t }) ∧ Holds t (withoutMark text) := by
  cases text with
  | nil =>
    obtain ⟨t, hread, ht⟩ := h.read_nil
    refine ⟨false, t, ?_, ht⟩
    rw [RowReader.stripMark, hread]
  | cons c cs =>
    obtain ⟨t, hread, ht⟩ := h.read_cons
    by_cases hc : c = RowReader.byteOrderMark
    · refine ⟨true, t, ?_, ?_⟩
      · rw [RowReader.stripMark, hread]
        exact if_pos hc
      · rw [withoutMark, if_pos hc]
        exact ht
    · refine ⟨false, CharSource.unread [c] t, ?_, ?_⟩
      · rw [RowReader.stripMark, hread]
        exact if_neg hc
      · rw [withoutMark, if_neg hc]
        exact ht.unread [c]

namespace Session

variable {σ : Type} [CharSource σ] {p : Processor} {pl : Pipeline} {s : Session σ String p}
  {out : String} {text : Text} {n : Nat}

/-! ## Up to the header -/

/-- A session **before** a text: `n` leading rows were dropped, nothing else was done, and the
reader stands at the text. -/
structure Before (pl : Pipeline) (out : String) (n : Nat) (text : Text) (s : Session σ String p) :
    Prop where
  stands : s.reader.parser.At s.reader.source text
  reader_eq : s.reader = ⟨s.reader.source, ⟨pl.grammar, n, s.reader.parser.finished⟩,
    pl.config.columnCheck, pl.config.skipEmptyRows, 0, 0⟩
  writer_eq : s.writer = RowWriter.ofSink out pl.layout
  processor_eq : s.processor = p.start
  stats_eq : s.stats = { rowsSkipped := n }

/-- A new session stands before the text of its source. -/
theorem Before.start {source : σ} (h : Holds source text) (out : String) :
    (pl.session source out p).Before pl out 0 text :=
  ⟨Parser.At.start h, rfl, rfl, rfl, rfl⟩

/-- An event changes nothing else. -/
theorem Before.note (h : s.Before pl out n text) (event : Event) :
    (s.note event).Before pl out n text :=
  ⟨h.1, h.2, h.3, h.4, h.5⟩

/-- Dropping a mark leaves the text of which records are read. -/
theorem Before.stripMark (h : s.Before pl out n text) :
    ∃ t, s.stripMark pl.config = (.ok (), t) ∧ t.Before pl out n (pl.body text) := by
  unfold Session.stripMark Pipeline.body
  by_cases hc : pl.config.stripMark = true
  · rw [if_pos hc, if_pos hc]
    obtain ⟨found, u, heq, hu⟩ := h.stands.holds.stripMark
    have hat : s.reader.parser.At u (withoutMark text) := by
      refine ⟨hu, fun hfinished => ?_⟩
      rw [h.stands.finished hfinished]
      rfl
    have hbefore : Before pl out n (withoutMark text)
        { s with reader := { s.reader with source := u } } := by
      refine ⟨hat, ?_, h.writer_eq, h.processor_eq, h.stats_eq⟩
      rw [h.reader_eq]
    rw [heq]
    cases found with
    | false => exact ⟨_, rfl, hbefore⟩
    | true => exact ⟨_, rfl, hbefore.note _⟩
  · rw [if_neg hc, if_neg hc]
    exact ⟨s, rfl, h⟩

/-- Dropping a row leaves the text after the first record; newlines are allowed in it. -/
theorem Before.skipRow (h : s.Before pl out n text) :
    match pl.grammar.lenient.front text with
    | .record _ rest => ∃ r, s.reader.skipRow = (.ok true, r) ∧
        ∀ log, Before pl out (n + 1) rest
          { s with reader := r, stats := { rowsSkipped := n + 1 }, log := log }
    | _ => ∃ r, s.reader.skipRow = (.ok false, r) := by
  have hskip := h.stands.skip
  have hgrammar : s.reader.parser.grammar = pl.grammar := by rw [h.reader_eq]
  rw [hgrammar] at hskip
  cases hfront : pl.grammar.lenient.front text with
  | record r rest =>
    rw [hfront] at hskip
    obtain ⟨b, t, heq, hat⟩ := hskip
    refine ⟨{ s.reader with parser := ⟨pl.grammar, n + 1, b⟩, source := t }, ?_, fun log => ?_⟩
    · rw [RowReader.skipRow, heq, h.reader_eq]
    · refine ⟨?_, ?_, h.writer_eq, h.processor_eq, rfl⟩
      · rw [h.reader_eq] at hat
        exact hat
      · rw [h.reader_eq]
  | nothing =>
    rw [hfront] at hskip
    obtain ⟨b, t, heq⟩ := hskip
    refine ⟨{ s.reader with parser := ⟨pl.grammar, s.reader.parser.records, b⟩, source := t }, ?_⟩
    rw [RowReader.skipRow, heq]
  | newline => exact absurd hfront (Grammar.front_ne_newline rfl text)

/-- **Dropping rows** goes as splitting off records of the text does.

**Proof sketch.** Induction on the number of rows. Each row that is dropped is the first record of
the text, and the session then stands before the text after it. -/
theorem Before.skipRows (h : s.Before pl out n text) (k : Nat) :
    match pl.grammar.lenient.splitRecords k text with
    | (_, some rest) => ∃ t, s.skipRows k = (.ok true, t) ∧ t.Before pl out (n + k) rest
    | (dropped, none) => ∃ t, s.skipRows k = (.ok false, t) ∧
        t.writer.sink = out ∧ t.stats = { rowsSkipped := n + dropped.length } := by
  induction k generalizing s n text with
  | zero => exact ⟨s, rfl, h⟩
  | succ k ih =>
    have hrow := h.skipRow
    cases hfront : pl.grammar.lenient.front text with
    | record r rest =>
      rw [hfront] at hrow
      obtain ⟨reader, heq, hbefore⟩ := hrow
      have hstep : s.skipRows (k + 1) =
          Session.skipRows k
            { s with
              reader := reader
              stats := { rowsSkipped := n + 1 }
              log := .rowSkipped (n + 1) :: s.log } := by
        rw [Session.skipRows, heq, h.stats_eq]
        rfl
      have hrest := ih (hbefore (.rowSkipped (n + 1) :: s.log))
      rw [hstep, Grammar.splitRecords_of_record hfront]
      rcases hsplit : pl.grammar.lenient.splitRecords k rest with ⟨dropped, _ | rest'⟩
      · rw [hsplit] at hrest
        obtain ⟨t, ht, hsink, hstats⟩ := hrest
        have hcount : n + 1 + dropped.length = n + (r :: dropped).length := by
          rw [List.length_cons]
          omega
        exact ⟨t, ht, hsink, by rw [hstats, hcount]⟩
      · rw [hsplit] at hrest
        obtain ⟨t, ht, hbefore'⟩ := hrest
        have hcount : n + 1 + k = n + (k + 1) := by omega
        exact ⟨t, ht, hcount ▸ hbefore'⟩
    | nothing =>
      rw [hfront] at hrow
      obtain ⟨reader, heq⟩ := hrow
      rw [Grammar.splitRecords_of_nothing hfront]
      refine ⟨{ s with reader := reader }, ?_, ?_, h.stats_eq⟩
      · rw [Session.skipRows, heq]
      · exact congrArg RowWriter.sink h.writer_eq
    | newline => exact absurd hfront (Grammar.front_ne_newline rfl text)

/-! ## Data rows -/

/-- A session **converts** rows that end with an error, if one is given: the reader awaits them, and
as many rows were written as were read. -/
structure Converting (pl : Pipeline) (rows : List Record) (fault : Option Error)
    (s : Session σ String p) : Prop where
  awaits : s.reader.Awaits rows fault
  grammar_eq : s.reader.parser.grammar = pl.grammar
  columnCheck_eq : s.reader.columnCheck = pl.config.columnCheck
  layout_eq : s.writer.layout = pl.layout
  rowCount_eq : s.reader.rowCount = s.stats.rowsIn
  rowsOut_eq : s.stats.rowsOut = s.stats.rowsIn

/-- Such a session checks the columns of a row as the pipeline does. -/
theorem Converting.verifyColumns_eq {rows : List Record} {fault : Option Error}
    (h : s.Converting pl rows fault) (row : Record) (location : RowLocation) :
    verifyColumns s.reader.columnCheck s.reader.parser.grammar.delimiters.column row location =
      pl.verifyRow row location := by
  rw [h.columnCheck_eq, h.grammar_eq]
  rfl

/-- A run **ends** with a result, which has the counts, and with a text in the sink. -/
structure Ends (driven : Except Error Unit × Session σ String p) (result : Except Error Stats)
    (out : String) : Prop where
  result_eq : (driven.1.map fun _ => driven.2.stats) = result
  sink_eq : driven.2.writer.sink = out

omit [CharSource σ] in
/-- A run that fails has the text in the sink that was there before. -/
theorem Ends.error (h : s.writer.sink = out) (e : Error) (layout : Layout) :
    Ends (.error e, s) (.error e) (out ++ String.ofList (layout.renderRows [])) :=
  ⟨rfl, h.trans String.append_empty.symm⟩

/-- The session after a data row that `record` was written for. -/
def converted (s : Session σ String p) (q : p.State) (record : Record) : Session σ String p :=
  { s with
    processor := q
    writer := ⟨s.writer.sink ++ String.ofList (s.writer.layout.renderRow record),
      s.writer.layout, s.writer.rowCount + 1⟩
    stats := { s.stats with rowsIn := s.stats.rowsIn + 1, rowsOut := s.stats.rowsOut + 1 } }

/-- The session after a row that was converted converts the other rows. -/
theorem Converting.converted {rows others : List Record} {fault : Option Error}
    {r : RowReader σ} (h : s.Converting pl rows fault) (hawaits : r.Awaits others fault)
    (hcount : r.rowCount = s.reader.rowCount + 1) (hsame : RowReader.SameSettings s.reader r)
    (q : p.State) (record : Record) :
    (Session.converted { s with reader := r } q record).Converting pl others fault := by
  refine ⟨hawaits, hsame.grammar.trans h.grammar_eq, hsame.columnCheck.trans h.columnCheck_eq,
    h.layout_eq, ?_, ?_⟩
  · exact hcount.trans (congrArg (· + 1) h.rowCount_eq)
  · exact congrArg (· + 1) h.rowsOut_eq

omit [CharSource σ] in
/-- **Converting a row** whose columns are right writes what becomes of it, or fails as that does
and writes nothing. -/
theorem convertRow_eq {row : Record}
    (h : pl.verifyRow row (.data (s.stats.rowsIn + 1)) = .ok ()) :
    match pl.convertRow p (s.stats.rowsIn + 1) s.processor row with
    | (.ok record, q) => s.convertRow pl.config row = (.ok (), s.converted q record)
    | (.error e, _) => ∃ t, s.convertRow pl.config row = (.error e, t) ∧ t.writer = s.writer := by
  unfold Pipeline.convertRow Session.convertRow
  rw [h]
  dsimp only
  cases verifyWidth pl.config (s.stats.rowsIn + 1) row with
  | error e => exact ⟨_, rfl, writer_warn _ e⟩
  | ok u =>
    dsimp only
    rcases p.process s.processor row with ⟨e | record, q⟩
    · exact ⟨_, rfl, rfl⟩
    · rfl

/-- Converting rows ends where the reader fails. -/
theorem convertRows_of_error {c : Config} {e : Error} {r : RowReader σ}
    (h : s.reader.readRow = (.error e, r)) :
    s.convertRows c = (.error (e.during .data), { s with reader := r }.warn e) := by
  rw [convertRows_eq, h]

/-- Converting rows ends where there are no more. -/
theorem convertRows_of_none {c : Config} {r : RowReader σ} (h : s.reader.readRow = (.ok none, r)) :
    s.convertRows c = (.ok (), { s with reader := r }) := by
  rw [convertRows_eq, h]

/-- Converting rows ends where converting one fails. -/
theorem convertRows_of_convertRow_error {c : Config} {e : Error} {row : Record} {r : RowReader σ}
    {t : Session σ String p} (h : s.reader.readRow = (.ok (some row), r))
    (hrow : convertRow c row { s with reader := r } = (.error e, t)) :
    s.convertRows c = (.error e, t) := by
  rw [convertRows_eq, h]
  dsimp only
  rw [hrow]

/-- Converting rows goes on after one that is converted. -/
theorem convertRows_of_convertRow {c : Config} {row : Record} {r : RowReader σ}
    {t : Session σ String p} (h : s.reader.readRow = (.ok (some row), r))
    (hrow : convertRow c row { s with reader := r } = (.ok (), t)) :
    s.convertRows c = t.convertRows c := by
  rw [convertRows_eq, h]
  dsimp only
  rw [hrow]

/-- **Converting rows** ends as it does for the list of the rows.

**Proof sketch.** Induction on the rows. The reader gives the first one after the check of its
columns; if that fails, or if converting the row does, the run ends there with nothing written for
the row. Otherwise the session converts the other rows, with one more row written. -/
theorem Converting.ends {rows : List Record} {fault : Option Error}
    (h : s.Converting pl rows fault) (hfault : ∀ e, fault = some e → e.during .data = e) :
    Ends (s.convertRows pl.config)
      ((pl.convertRows p fault s.stats.rowsIn s.processor rows).1.map fun n =>
        { s.stats with rowsIn := n, rowsOut := n })
      (s.writer.sink ++ String.ofList
        (pl.layout.renderRows (pl.convertRows p fault s.stats.rowsIn s.processor rows).2)) := by
  induction rows generalizing s with
  | nil =>
    obtain ⟨r, hread⟩ := h.awaits.readRow
    unfold Pipeline.convertRows
    cases fault with
    | some e =>
      rw [convertRows_of_error hread, hfault e rfl]
      exact Ends.error (congrArg RowWriter.sink (writer_warn _ e)) e pl.layout
    | none =>
      rw [convertRows_of_none hread]
      refine ⟨?_, String.append_empty.symm⟩
      exact congrArg (fun m => Except.ok { s.stats with rowsOut := m }) h.rowsOut_eq
  | cons row rows ih =>
    obtain ⟨r, hread, hawaits, hcount, hsame⟩ := h.awaits.readRow
    rw [h.verifyColumns_eq, h.rowCount_eq] at hread
    unfold Pipeline.convertRows
    cases hchecked : pl.verifyRow row (.data (s.stats.rowsIn + 1)) with
    | error e =>
      rw [hchecked] at hread
      have hconvert :
          pl.convertRow p (s.stats.rowsIn + 1) s.processor row = (.error e, s.processor) := by
        rw [Pipeline.convertRow, hchecked]
      rw [convertRows_of_error hread, during_of_verifyColumns hchecked, hconvert]
      exact Ends.error (congrArg RowWriter.sink (writer_warn _ e)) e pl.layout
    | ok u =>
      rw [hchecked] at hread
      have hrow := convertRow_eq (s := { s with reader := r }) hchecked
      rcases hconvert : pl.convertRow p (s.stats.rowsIn + 1) s.processor row with ⟨e | record, q⟩
      · rw [hconvert] at hrow
        obtain ⟨t, ht, hwriter⟩ := hrow
        rw [convertRows_of_convertRow_error hread ht]
        exact Ends.error (congrArg RowWriter.sink hwriter) e pl.layout
      · rw [hconvert] at hrow
        rw [convertRows_of_convertRow hread hrow]
        obtain ⟨hresult, hsink⟩ := ih (h.converted hawaits hcount hsame q record)
        refine ⟨hresult, hsink.trans ?_⟩
        show s.writer.sink ++ String.ofList (s.writer.layout.renderRow record) ++ _ =
          s.writer.sink ++ String.ofList (pl.layout.renderRow record ++ _)
        rw [h.layout_eq, String.ofList_append, String.append_assoc]
        rfl

/-! ## All of a run -/

/-- Converting the data rows of a run ends as its course says, if the records that come before them
are written. -/
theorem Converting.ends_course {rows written : List Record} {fault : Option Error}
    (h : s.Converting pl rows fault) (hfault : ∀ e, fault = some e → e.during .data = e)
    (hprocessor : s.processor = p.start)
    (hstats : s.stats =
      { rowsSkipped := pl.config.skippedRows, headerWritten := pl.config.hasHeader })
    (hsink : s.writer.sink = out ++ String.ofList (pl.layout.renderRows written)) :
    Ends (s.convertRows pl.config) (pl.courseOfData p written fault rows).result
      (out ++ String.ofList
        (pl.layout.renderRows (pl.courseOfData p written fault rows).written)) := by
  obtain ⟨hresult, hout⟩ := h.ends hfault
  rw [hprocessor, hstats] at hresult hout
  refine ⟨hresult, ?_⟩
  rw [hout, hsink, Pipeline.courseOfData, Layout.renderRows_append, String.ofList_append,
    String.append_assoc]

/-- The rows that the reader of a session awaits before a text. -/
theorem Before.awaits (h : s.Before pl out n text) :
    s.reader.Awaits (pl.grammar.rows pl.config.skipEmptyRows n text).1
      (pl.grammar.rows pl.config.skipEmptyRows n text).2 := by
  refine ⟨text, h.stands, ?_⟩
  rw [h.reader_eq]

/-- Copying a header fails where the reader fails. -/
theorem copyHeader_of_error {c : Config} {e : Error} {r : RowReader σ}
    (h : s.reader.readHeader = (.error e, r)) :
    s.copyHeader c = (.error (e.during .header), { s with reader := r }.warn e) := by
  rw [copyHeader, h]

/-- Copying a header fails where there is none. -/
theorem copyHeader_of_none {c : Config} {r : RowReader σ}
    (h : s.reader.readHeader = (.ok none, r)) :
    s.copyHeader c = (.error (.missingHeader c.skippedRows), { s with reader := r }) := by
  rw [copyHeader, h]

/-- The session after a header was copied. -/
def withHeader (s : Session σ String p) (r : RowReader σ) (header : Record) : Session σ String p :=
  { s with
    reader := r
    writer := ⟨s.writer.sink ++ String.ofList (s.writer.layout.renderRow header),
      s.writer.layout, s.writer.rowCount + 1⟩
    stats := { s.stats with headerWritten := true } }

/-- Copying a header writes it. -/
theorem copyHeader_of_some {c : Config} {header : Record} {r : RowReader σ}
    (h : s.reader.readHeader = (.ok (some header), r)) :
    s.copyHeader c = (.ok (), s.withHeader r header) := by
  rw [copyHeader, h]
  rfl

/-- Without a header, the session before the rows converts them. -/
theorem Before.converting (h : s.Before pl out n text) {rows : List Record} {fault : Option Error}
    (hawaits : s.reader.Awaits rows fault) : s.Converting pl rows fault := by
  refine ⟨hawaits, ?_, ?_, ?_, ?_, ?_⟩
  · rw [h.reader_eq]
  · rw [h.reader_eq]
  · rw [h.writer_eq]
    rfl
  · rw [h.reader_eq, h.stats_eq]
  · rw [h.stats_eq]

/-- After its header, it converts the other rows. -/
theorem Before.converting_withHeader (h : s.Before pl out n text) {header : Record}
    {rows : List Record} {fault : Option Error} {r : RowReader σ} (hawaits : r.Awaits rows fault)
    (hcount : r.rowCount = s.reader.rowCount) (hsame : RowReader.SameSettings s.reader r) :
    (s.withHeader r header).Converting pl rows fault := by
  refine ⟨hawaits, hsame.grammar.trans ?_, hsame.columnCheck.trans ?_, ?_, hcount.trans ?_, ?_⟩
  · rw [h.reader_eq]
  · rw [h.reader_eq]
  · rw [withHeader, h.writer_eq]
    rfl
  · rw [withHeader, h.reader_eq, h.stats_eq]
  · rw [withHeader, h.stats_eq]

/-- **The run after the leading rows** ends as its course says.

**Proof sketch.** Without a header, all rows are data rows. With one, the first row is read, and
after its check it is written; the other rows are data rows. -/
theorem Before.ends_copyAll (h : s.Before pl out pl.config.skippedRows text) {rows : List Record}
    {fault : Option Error} (hawaits : s.reader.Awaits rows fault)
    (hfault : ∀ phase e, fault = some e → e.during phase = e) :
    Ends (s.copyAll pl.config) (pl.courseOfRows p rows fault).result
      (out ++ String.ofList (pl.layout.renderRows (pl.courseOfRows p rows fault).written)) := by
  have hsink : s.writer.sink = out := congrArg RowWriter.sink h.writer_eq
  have hlayout : s.writer.layout = pl.layout := congrArg RowWriter.layout h.writer_eq
  unfold Session.copyAll
  by_cases hheader : pl.config.hasHeader = true
  · rw [if_pos hheader]
    have hread := hawaits.readHeader
    cases rows with
    | nil =>
      obtain ⟨r, hread⟩ := hread
      rw [Pipeline.courseOfRows_nil hheader]
      cases fault with
      | some e =>
        rw [copyHeader_of_error hread, hfault .header e rfl]
        have hwriter := writer_warn { s with reader := r } e
        exact Ends.error ((congrArg RowWriter.sink hwriter).trans hsink) e pl.layout
      | none =>
        rw [copyHeader_of_none hread]
        exact Ends.error (s := { s with reader := r }) hsink _ pl.layout
    | cons header rows =>
      obtain ⟨r, hread, hawaits', hcount, hsame⟩ := hread
      rw [(h.converting hawaits).verifyColumns_eq] at hread
      cases hverify : pl.verifyRow header .header with
      | error e =>
        rw [hverify] at hread
        rw [copyHeader_of_error hread, during_of_verifyColumns hverify,
          Pipeline.courseOfRows_of_error hheader hverify]
        have hwriter := writer_warn { s with reader := r } e
        exact Ends.error ((congrArg RowWriter.sink hwriter).trans hsink) e pl.layout
      | ok u =>
        rw [hverify] at hread
        rw [copyHeader_of_some hread, Pipeline.courseOfRows_of_header hheader hverify]
        refine (h.converting_withHeader hawaits' hcount hsame).ends_course (hfault .data)
          h.processor_eq ?_ ?_
        · rw [withHeader, h.stats_eq, hheader]
        · rw [withHeader, hsink, hlayout, Layout.renderRows, List.flatMap_singleton]
  · rw [if_neg hheader, Pipeline.courseOfRows_of_no_header hheader]
    refine (h.converting hawaits).ends_course (hfault .data) h.processor_eq ?_ ?_
    · rw [h.stats_eq, Bool.eq_false_iff.2 hheader]
    · exact hsink.trans String.append_empty.symm

/-- **A run up to the end of the input** ends as its course says. -/
theorem ends_drive (pl : Pipeline) (p : Processor) {source : σ} (h : Holds source text)
    (out : String) :
    Ends ((pl.session source out p).drive pl.config) (pl.course p text).result
      (out ++ String.ofList (pl.layout.renderRows (pl.course p text).written)) := by
  have hstart : (pl.session source out p).Before pl out 0 text := Before.start h out
  obtain ⟨t, hmark, hbefore⟩ := (hstart.note (.starting pl.config)).stripMark
  have hskip := hbefore.skipRows pl.config.skippedRows
  unfold Session.drive Pipeline.course Pipeline.courseAfter
  rw [hmark]
  rcases hsplit : pl.grammar.lenient.splitRecords pl.config.skippedRows (pl.body text) with
    ⟨dropped, _ | rest⟩
  · rw [hsplit] at hskip
    obtain ⟨u, hrows, hsink, hstats⟩ := hskip
    dsimp only
    rw [hrows]
    by_cases hheader : pl.config.hasHeader = true
    · rw [if_pos hheader]
      dsimp only
      rw [if_pos hheader]
      exact Ends.error hsink _ pl.layout
    · rw [if_neg hheader]
      dsimp only
      rw [if_neg hheader]
      refine ⟨?_, hsink.trans String.append_empty.symm⟩
      exact congrArg Except.ok (hstats.trans (by rw [Nat.zero_add]))
  · rw [hsplit] at hskip
    obtain ⟨u, hrows, hbefore'⟩ := hskip
    rw [Nat.zero_add] at hbefore'
    dsimp only
    rw [hrows]
    exact hbefore'.ends_copyAll hbefore'.awaits fun phase e he => Grammar.during_of_rows he phase

end Session

namespace Pipeline

variable {σ : Type} [CharSource σ] {source : σ} {text : Text}

omit [CharSource σ] in
/-- The end of a run into a string keeps its result and the string. -/
theorem close_of_ends {p : Processor} {driven : Except Error Unit × Session σ String p}
    {result : Except Error Stats} {out : String} (h : Session.Ends driven result out) :
    (close CharSink.flush id driven).result = result ∧
      (close CharSink.flush id driven).sink = out := by
  obtain ⟨hresult, hsink⟩ := h
  rcases driven with ⟨e | u, s⟩
  · exact ⟨hresult, hsink⟩
  · exact ⟨hresult, hsink⟩

/-- **A run agrees with its course**: it has the result of the course, and the string into which it
writes has the written form of the records of the course at its end, and nothing else. -/
theorem runText_agrees (pl : Pipeline) (p : Processor) (h : Holds source text) (out : String) :
    (pl.runText source out p).result = (pl.course p text).result ∧
      (pl.runText source out p).sink =
        out ++ String.ofList (pl.layout.renderRows (pl.course p text).written) :=
  close_of_ends (Session.ends_drive pl p h out)

/-- A mark and a title are dropped, a header is written, an empty row is left out and two rows are
written, each with a tally of the rows so far; in the second one a newline became a space. The next row
is too wide in its second column, which ends the run. -/
theorem runText_agrees_wide_field :
    let input : Dialect := { columnDelimiter := [','], rowDelimiter := ['|'] }
    let output : Dialect := { columnDelimiter := [';'], rowDelimiter := ['\n'] }
    let pl : Pipeline :=
      ⟨{ input := input, output := output, expectedColumns := 2, trailingColumnDelimiter := true,
         widthCheck := some (.perField 1), skippedRows := 1, hasHeader := true,
         skipEmptyRows := true, newlines := .space }, by decide⟩
    let tallying : Processor :=
      ⟨Nat, 0, fun n row => (.ok (List.replicate (n + 1) '+' :: row), n + 1)⟩
    let text : Text := "\ufefftitle|left,right,||1,2,|\n,3,|4,56,|7,8,|".toList
    Holds text text ∧
      (pl.runText text "" tallying).result =
        .error (.width ⟨3, .column 2, 1, 2, ['4', '5', '6']⟩) ∧
      (pl.runText text "" tallying).sink = "left;right;\n+;1;2;\n++; ;3;\n" := by
  intro input output pl tallying text
  obtain ⟨hresult, hsink⟩ := runText_agrees pl tallying (Holds.refl text) ""
  refine ⟨.refl text, hresult.trans ?_, hsink.trans ?_⟩
  · decide +kernel
  · decide +kernel

end Pipeline

end Delimited
