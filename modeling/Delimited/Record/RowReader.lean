import Delimited.Record.ColumnCheck
import Delimited.Record.Parser

set_option autoImplicit false
set_option relaxedAutoImplicit false

/-!
# Reading rows

A row reader reads the rows of a source: it may drop a byte-order mark and leading rows, and it gives
a header and data rows, whose number of columns it may check.

## Main definitions

* `Delimited.RowReader` — a parser with its source and the checks on rows.
* `Delimited.RowReader.stripMark`, `Delimited.RowReader.skipRow`,
  `Delimited.RowReader.readHeader`, `Delimited.RowReader.readRow` — the steps of reading.
* `Delimited.RowReader.rows` — all rows that are left.
-/

namespace Delimited

open CharSource

/-- A **row reader**. -/
structure RowReader (σ : Type) where
  source : σ
  parser : Parser
  columnCheck : Option ColumnCheck
  /-- Whether rows with one empty field are left out. -/
  skipEmptyRows : Bool
  /-- How many data rows were read, those included that failed the check. -/
  rowCount : Nat
  /-- How many empty rows were left out. -/
  emptyRows : Nat

namespace RowReader

/-- The character that marks the byte order at the start of a stream. -/
def byteOrderMark : Char := '\ufeff'

variable {σ : Type} [CharSource σ]

/-- A row reader at the start of a source. -/
def ofSource (source : σ) (grammar : Grammar) (columnCheck : Option ColumnCheck)
    (skipEmptyRows : Bool) : RowReader σ :=
  ⟨source, Parser.ofGrammar grammar, columnCheck, skipEmptyRows, 0, 0⟩

/-- Drops a byte-order mark if that is the next character. Tells whether it was. -/
def stripMark (r : RowReader σ) : Except Error Bool × RowReader σ :=
  match read r.source with
  | (.error e, s) => (.error (.stream e), { r with source := s })
  | (.ok none, s) => (.ok false, { r with source := s })
  | (.ok (some c), s) =>
    if c = byteOrderMark then (.ok true, { r with source := s })
    else (.ok false, { r with source := unread [c] s })

/-- Drops a row, empty or not. Tells whether there was one. -/
def skipRow (r : RowReader σ) : Except Error Bool × RowReader σ :=
  let (result, p, s) := r.parser.skip r.source
  (result, { r with parser := p, source := s })

/-- The next record that is not left out. -/
def nextRecord (r : RowReader σ) : Except Error (Option Record) × RowReader σ :=
  match _h : r.parser.next r.source with
  | (.error e, p, s) => (.error e, { r with parser := p, source := s })
  | (.ok none, p, s) => (.ok none, { r with parser := p, source := s })
  | (.ok (some record), p, s) =>
    if r.skipEmptyRows ∧ record = [[]] then
      nextRecord { r with parser := p, source := s, emptyRows := r.emptyRows + 1 }
    else (.ok (some record), { r with parser := p, source := s })
termination_by remaining r.source
decreasing_by exact Parser.remaining_lt_of_next _h

/-- One step towards the next record. -/
theorem nextRecord_eq (r : RowReader σ) :
    r.nextRecord =
      match r.parser.next r.source with
      | (.error e, p, s) => (.error e, { r with parser := p, source := s })
      | (.ok none, p, s) => (.ok none, { r with parser := p, source := s })
      | (.ok (some record), p, s) =>
        if r.skipEmptyRows ∧ record = [[]] then
          nextRecord { r with parser := p, source := s, emptyRows := r.emptyRows + 1 }
        else (.ok (some record), { r with parser := p, source := s }) := by
  rw [nextRecord]
  split <;> simp_all

/-- Checks the columns of a row. -/
def verify (r : RowReader σ) (record : Record) (location : RowLocation) : Except Error Unit :=
  match r.columnCheck with
  | some check => check.verify record location r.parser.grammar.delimiters.column
  | none => .ok ()

/-- The header: the next row, checked but not counted. -/
def readHeader (r : RowReader σ) : Except Error (Option Record) × RowReader σ :=
  match r.nextRecord with
  | (.error e, t) => (.error e, t)
  | (.ok none, t) => (.ok none, t)
  | (.ok (some record), t) => ((t.verify record .header).map fun _ => some record, t)

/-- The next data row. It is counted before it is checked. -/
def readRow (r : RowReader σ) : Except Error (Option Record) × RowReader σ :=
  match r.nextRecord with
  | (.error e, t) => (.error e, t)
  | (.ok none, t) => (.ok none, t)
  | (.ok (some record), t) =>
    let t := { t with rowCount := t.rowCount + 1 }
    ((t.verify record (.data t.rowCount)).map fun _ => some record, t)

/-! ## Progress -/

/-- Everything but the end of the input uses up some of the source. -/
theorem remaining_nextRecord (r : RowReader σ) :
    remaining r.nextRecord.2.source < remaining r.source ∨
      remaining r.nextRecord.2.source = remaining r.source ∧ r.nextRecord.1 = .ok none := by
  fun_induction nextRecord r with
  | case1 r e p s h => exact Or.inl (Parser.remaining_lt_of_next_error h)
  | case2 r p s h =>
    have hn := r.parser.remaining_next r.source
    simp_all
  | case3 r record p s h _ ih =>
    have hn := Parser.remaining_lt_of_next h
    simp only at ih
    omega
  | case4 r record p s h _ => exact Or.inl (Parser.remaining_lt_of_next h)

/-- Everything but the end of the input uses up some of the source. -/
theorem remaining_readRow (r : RowReader σ) :
    remaining r.readRow.2.source < remaining r.source ∨
      remaining r.readRow.2.source = remaining r.source ∧ r.readRow.1 = .ok none := by
  have h := r.remaining_nextRecord
  rw [readRow]
  split <;> simp_all

/-- A row uses up some of the source. -/
theorem remaining_lt_of_readRow {r t : RowReader σ} {record : Record}
    (h : r.readRow = (.ok (some record), t)) : remaining t.source < remaining r.source := by
  have := r.remaining_readRow
  simp_all

/-- An error uses up some of the source. -/
theorem remaining_lt_of_readRow_error {r t : RowReader σ} {e : Error}
    (h : r.readRow = (.error e, t)) : remaining t.source < remaining r.source := by
  have := r.remaining_readRow
  simp_all

/-! ## All rows -/

/-- The data rows that are left, after those in `found`, the latest first. Reading goes on after an
error. -/
def rowsAfter (found : List (Except Error Record)) (r : RowReader σ) :
    List (Except Error Record) × RowReader σ :=
  match _h : r.readRow with
  | (.ok (some record), t) => rowsAfter (.ok record :: found) t
  | (.ok none, t) => (found.reverse, t)
  | (.error e, t) => rowsAfter (.error e :: found) t
termination_by remaining r.source
decreasing_by
  · exact remaining_lt_of_readRow _h
  · exact remaining_lt_of_readRow_error _h

/-- The data rows that are left, and the errors met among them. -/
def rows (r : RowReader σ) : List (Except Error Record) × RowReader σ :=
  rowsAfter [] r

end RowReader

end Delimited
