import Delimited.Proofs.Record.Records
import Delimited.Record.RowReader

set_option autoImplicit false
set_option relaxedAutoImplicit false

/-!
# The rows of a reader

A row reader that stands at a text gives the records of that text one after another, without those
that are left out, and then the error at which they end, if they end at one. Each row goes through
the check of its columns.

## Main definitions

* `Delimited.Grammar.rows` — the rows of a text, and the error at which they end.
* `Delimited.RowReader.Awaits` — a reader that has these rows still to give.
* `Delimited.verifyColumns` — the check of the columns of a row, if there is one.

## Main results

* `Delimited.RowReader.Awaits.nextRecord` — the next row is the first of those that are awaited.
* `Delimited.RowReader.Awaits.readHeader`, `Delimited.RowReader.Awaits.readRow` — so are a header
  and a data row, after their check.
-/

namespace Delimited

open CharSource

/-- The **rows of a text** of which `n` records came before: its records, without the empty ones if
these are left out, and the error about a newline that is not allowed, if they end at one. Records
that are left out are counted in that error. -/
def Grammar.rows (g : Grammar) (skipEmpty : Bool) (n : Nat) (text : Text) :
    List Record × Option Error :=
  ((g.records text).1.filter fun r => !(skipEmpty && r == [[]]),
    if (g.records text).2 then some (.unquotedNewline (n + (g.records text).1.length + 1))
    else none)

/-- Checks the columns of a row, if that is wanted. -/
def verifyColumns (check : Option ColumnCheck) (delimiter : Text) (record : Record)
    (location : RowLocation) : Except Error Unit :=
  match check with
  | some check => check.verify record location delimiter
  | none => .ok ()

/-- The check of columns fails with an error that belongs to no phase. -/
theorem during_of_verifyColumns {check : Option ColumnCheck} {delimiter : Text} {record : Record}
    {location : RowLocation} {e : Error}
    (h : verifyColumns check delimiter record location = .error e) (phase : Phase) :
    e.during phase = e := by
  cases check with
  | none => cases h
  | some check =>
    by_cases hlength : record.length = check.effective
    · rw [verifyColumns, ColumnCheck.verify, if_pos hlength] at h
      cases h
    · rw [verifyColumns, ColumnCheck.verify, if_neg hlength] at h
      cases h
      rfl

/-- How a reader answers once all rows are given: with the error at which they end, if there is
one. -/
def answerAtEnd : Option Error → Except Error (Option Record)
  | some e => .error e
  | none => .ok none

namespace Grammar

variable {g : Grammar} {skipEmpty : Bool} {n : Nat} {text rest : Text} {r : Record}

/-- A record that is left out only counts. -/
theorem rows_of_skipped (h : g.front text = .record r rest) (hskip : skipEmpty = true ∧ r = [[]]) :
    g.rows skipEmpty n text = g.rows skipEmpty (n + 1) rest := by
  rw [rows, rows, records_of_record h]
  simp [hskip, Nat.add_assoc, Nat.add_comm 1]

/-- Any other record is the first row. -/
theorem rows_of_record (h : g.front text = .record r rest)
    (hskip : ¬(skipEmpty = true ∧ r = [[]])) :
    g.rows skipEmpty n text =
      (r :: (g.rows skipEmpty (n + 1) rest).1, (g.rows skipEmpty (n + 1) rest).2) := by
  rw [rows, rows, records_of_record h, List.filter_cons_of_pos]
  · simp [Nat.add_assoc, Nat.add_comm 1]
  · cases skipEmpty with
    | false => rfl
    | true => simpa using fun hr => hskip ⟨rfl, hr⟩

/-- A used up text has no rows. -/
theorem rows_of_nothing (h : g.front text = .nothing) : g.rows skipEmpty n text = ([], none) := by
  rw [rows, records_of_nothing h]
  rfl

/-- A newline that is not allowed ends the rows. -/
theorem rows_of_newline (h : g.front text = .newline) :
    g.rows skipEmpty n text = ([], some (.unquotedNewline (n + 1))) := by
  rw [rows, records_of_newline h]
  rfl

/-- The error at which rows end belongs to no phase. -/
theorem during_of_rows {e : Error} (h : (g.rows skipEmpty n text).2 = some e) (phase : Phase) :
    e.during phase = e := by
  unfold rows at h
  dsimp only at h
  split_ifs at h
  cases h
  rfl

end Grammar

namespace RowReader

variable {σ : Type} [CharSource σ] {r : RowReader σ}

/-- A reader **awaits** rows and the error at which they end, if it stands at a text that has
them. -/
def Awaits (r : RowReader σ) (rows : List Record) (fault : Option Error) : Prop :=
  ∃ text, r.parser.At r.source text ∧
    r.parser.grammar.rows r.skipEmptyRows r.parser.records text = (rows, fault)

/-- What reading a row leaves as it is: the grammar, the check and what is left out. -/
structure SameSettings (r t : RowReader σ) : Prop where
  grammar : t.parser.grammar = r.parser.grammar
  columnCheck : t.columnCheck = r.columnCheck
  skipEmptyRows : t.skipEmptyRows = r.skipEmptyRows

/-- **The next record** of a reader is the first row that it awaits.

**Proof sketch.** Induction along the records that are left out. A record that the parser gives is
the first one of the text; it is the first row unless it is left out, and then the rows are those of
the text after it. -/
theorem Awaits.nextRecord {rows : List Record} {fault : Option Error} (h : r.Awaits rows fault) :
    match rows with
    | [] => ∃ t, r.nextRecord = (answerAtEnd fault, t)
    | row :: rows => ∃ t, r.nextRecord = (.ok (some row), t) ∧ t.Awaits rows fault ∧
        t.rowCount = r.rowCount ∧ SameSettings r t := by
  obtain ⟨text, hat, hrows⟩ := h
  fun_induction RowReader.nextRecord r generalizing text with
  | case1 r e p s hnext =>
    obtain ⟨hfront, rfl⟩ := hat.of_next_error hnext
    rw [Grammar.rows_of_newline hfront] at hrows
    cases hrows
    exact ⟨_, rfl⟩
  | case2 r p s hnext =>
    rw [Grammar.rows_of_nothing (hat.of_next_none hnext)] at hrows
    cases hrows
    exact ⟨_, rfl⟩
  | case3 r record p s hnext hskip ih =>
    obtain ⟨rest, hfront, hat', hgrammar, hcount⟩ := hat.of_next_record hnext
    rw [Grammar.rows_of_skipped hfront hskip, ← hgrammar, ← hcount] at hrows
    have hrest := ih rest hat' hrows
    cases rows with
    | nil => exact hrest
    | cons row rows =>
      obtain ⟨t, heq, hawaits, hcount', hsame⟩ := hrest
      exact ⟨t, heq, hawaits, hcount', hsame.1.trans hgrammar, hsame.2, hsame.3⟩
  | case4 r record p s hnext hskip =>
    obtain ⟨rest, hfront, hat', hgrammar, hcount⟩ := hat.of_next_record hnext
    rw [Grammar.rows_of_record hfront hskip, ← hgrammar, ← hcount] at hrows
    cases hrows
    exact ⟨_, rfl, ⟨rest, hat', rfl⟩, rfl, hgrammar, rfl, rfl⟩

/-- **A header** is the first row that is awaited, after its check. -/
theorem Awaits.readHeader {rows : List Record} {fault : Option Error} (h : r.Awaits rows fault) :
    match rows with
    | [] => ∃ t, r.readHeader = (answerAtEnd fault, t)
    | row :: rows => ∃ t, r.readHeader =
          ((verifyColumns r.columnCheck r.parser.grammar.delimiters.column row .header).map
            fun _ => some row, t) ∧
        t.Awaits rows fault ∧ t.rowCount = r.rowCount ∧ SameSettings r t := by
  have hnext := h.nextRecord
  cases rows with
  | nil =>
    obtain ⟨t, ht⟩ := hnext
    rw [RowReader.readHeader, ht]
    cases fault with
    | none => exact ⟨t, rfl⟩
    | some e => exact ⟨t, rfl⟩
  | cons row rows =>
    obtain ⟨t, ht, hawaits, hcount, hsame⟩ := hnext
    rw [RowReader.readHeader, ht, ← hsame.columnCheck, ← hsame.grammar]
    exact ⟨t, rfl, hawaits, hcount, hsame⟩

/-- A header that is given is the first row that was awaited. -/
theorem Awaits.head?_of_readHeader {rows : List Record} {fault : Option Error} {header : Record}
    {t : RowReader σ} (h : r.Awaits rows fault) (hread : r.readHeader = (.ok (some header), t)) :
    rows.head? = some header := by
  have hfirst := h.readHeader
  cases rows with
  | nil =>
    obtain ⟨u, hu⟩ := hfirst
    rw [hread] at hu
    cases fault <;> cases hu
  | cons row rows =>
    obtain ⟨u, hu, -⟩ := hfirst
    rw [hread] at hu
    generalize verifyColumns _ _ row .header = checked at hu
    cases checked <;> cases hu
    rfl

/-- **A data row** is the first row that is awaited, after it was counted and checked. -/
theorem Awaits.readRow {rows : List Record} {fault : Option Error} (h : r.Awaits rows fault) :
    match rows with
    | [] => ∃ t, r.readRow = (answerAtEnd fault, t)
    | row :: rows => ∃ t, r.readRow =
          ((verifyColumns r.columnCheck r.parser.grammar.delimiters.column row
            (.data (r.rowCount + 1))).map fun _ => some row, t) ∧
        t.Awaits rows fault ∧ t.rowCount = r.rowCount + 1 ∧ SameSettings r t := by
  have hnext := h.nextRecord
  cases rows with
  | nil =>
    obtain ⟨t, ht⟩ := hnext
    rw [RowReader.readRow, ht]
    cases fault with
    | none => exact ⟨t, rfl⟩
    | some e => exact ⟨t, rfl⟩
  | cons row rows =>
    obtain ⟨t, ht, hawaits, hcount, hsame⟩ := hnext
    rw [RowReader.readRow, ht, ← hsame.columnCheck, ← hsame.grammar, ← hcount]
    exact ⟨{ t with rowCount := t.rowCount + 1 }, rfl, hawaits, rfl, hsame.1, hsame.2, hsame.3⟩

end RowReader

end Delimited
