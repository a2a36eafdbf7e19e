import Delimited.Pipeline
import Delimited.Proofs.Record.Written
import Delimited.Proofs.Run.Rows

set_option autoImplicit false
set_option relaxedAutoImplicit false

/-!
# What a run amounts to

What a run makes of a text can be told from the lists of its records alone, without a source, a
sink or a session: a mark is dropped, some records are dropped, the first one after those may be a
header, and the others are checked and processed in order, up to the first step that fails.

## Main definitions

* `Delimited.withoutMark` — a text without a byte-order mark at its start.
* `Delimited.Pipeline.convertRow`, `Delimited.Pipeline.convertRows` — what becomes of one data row,
  and of all.
* `Delimited.Pipeline.course` — the result of a run on a text, and the records that it writes.
-/

namespace Delimited

/-- A text without the byte-order mark at its start, if there is one. -/
def withoutMark : Text → Text
  | [] => []
  | c :: cs => if c = RowReader.byteOrderMark then cs else c :: cs

/-- What a run **amounts to**: its result, and the records that it writes. -/
structure Course where
  result : Except Error Stats
  /-- The records written, the header among them. -/
  written : List Record

namespace Pipeline

variable (pl : Pipeline) (p : Processor)

/-- The check of the columns of a row of the input. -/
def verifyRow (row : Record) (location : RowLocation) : Except Error Unit :=
  verifyColumns pl.config.columnCheck pl.config.input.columnDelimiter row location

/-- What becomes of the **data row** with this number: its columns and its width are checked, and
then it is processed. -/
def convertRow (number : Nat) (q : p.State) (row : Record) : Except Error Record × p.State :=
  match pl.verifyRow row (.data number) with
  | .error e => (.error e, q)
  | .ok () =>
    match Session.verifyWidth pl.config number row with
    | .error e => (.error e, q)
    | .ok () => ((p.process q row).1.mapError (Error.during .data), (p.process q row).2)

/-- What becomes of the **data rows** that come after `n` others and end with an error, if one is
given: how many there are in all, or the first error; and the records that are written for them. -/
def convertRows (fault : Option Error) :
    Nat → p.State → List Record → Except Error Nat × List Record
  | n, _, [] =>
    match fault with
    | some e => (.error e, [])
    | none => (.ok n, [])
  | n, q, row :: rows =>
    match pl.convertRow p (n + 1) q row with
    | (.error e, _) => (.error e, [])
    | (.ok record, q) =>
      ((convertRows fault (n + 1) q rows).1, record :: (convertRows fault (n + 1) q rows).2)

/-- The course of a run whose leading rows are dropped and whose header is copied. -/
def courseOfData (written : List Record) (fault : Option Error) (rows : List Record) : Course where
  result := (pl.convertRows p fault 0 p.start rows).1.map fun n =>
    { rowsSkipped := pl.config.skippedRows, headerWritten := pl.config.hasHeader,
      rowsIn := n, rowsOut := n }
  written := written ++ (pl.convertRows p fault 0 p.start rows).2

/-- The course of a run that has these rows after the leading ones, which end with an error, if one
is given. The first of them is the header, if one is wanted. -/
def courseOfRows (rows : List Record) (fault : Option Error) : Course :=
  if pl.config.hasHeader then
    match rows with
    | [] => ⟨.error (fault.getD (.missingHeader pl.config.skippedRows)), []⟩
    | header :: rows =>
      match pl.verifyRow header .header with
      | .error e => ⟨.error e, []⟩
      | .ok () => pl.courseOfData p [header] fault rows
  else pl.courseOfData p [] fault rows

section Header

variable {pl p} {header : Record} {rows : List Record} {fault : Option Error}

/-- Without a header all rows are data rows. -/
theorem courseOfRows_of_no_header (h : ¬pl.config.hasHeader = true) :
    pl.courseOfRows p rows fault = pl.courseOfData p [] fault rows :=
  if_neg h

/-- Without rows, a header that is wanted is missing, unless there was another error. -/
theorem courseOfRows_nil (h : pl.config.hasHeader = true) :
    pl.courseOfRows p [] fault =
      ⟨.error (fault.getD (.missingHeader pl.config.skippedRows)), []⟩ :=
  if_pos h

/-- A header with the wrong number of columns ends the course. -/
theorem courseOfRows_of_error (h : pl.config.hasHeader = true) {e : Error}
    (hverify : pl.verifyRow header .header = .error e) :
    pl.courseOfRows p (header :: rows) fault = ⟨.error e, []⟩ := by
  rw [courseOfRows, if_pos h, hverify]

/-- A header is written as it is, and the other rows are data rows. -/
theorem courseOfRows_of_header (h : pl.config.hasHeader = true)
    (hverify : pl.verifyRow header .header = .ok ()) :
    pl.courseOfRows p (header :: rows) fault = pl.courseOfData p [header] fault rows := by
  rw [courseOfRows, if_pos h, hverify]

end Header

/-- The course of a run of which these leading records are dropped, and after which `rest` is left,
unless the text ended among them. -/
def courseAfter (dropped : List Record) (rest : Option Text) : Course :=
  match rest with
  | none =>
    if pl.config.hasHeader then ⟨.error (.missingHeader pl.config.skippedRows), []⟩
    else ⟨.ok { rowsSkipped := dropped.length }, []⟩
  | some rest =>
    let rows := pl.grammar.rows pl.config.skipEmptyRows pl.config.skippedRows rest
    pl.courseOfRows p rows.1 rows.2

/-- The text of which a run reads records. -/
def body (text : Text) : Text :=
  if pl.config.stripMark then withoutMark text else text

/-- The **course of a run** on a text. -/
def course (text : Text) : Course :=
  let leading := pl.grammar.lenient.splitRecords pl.config.skippedRows (pl.body text)
  pl.courseAfter p leading.1 leading.2

end Pipeline

end Delimited
