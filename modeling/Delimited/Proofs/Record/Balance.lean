import Delimited.Record.RowReader

set_option autoImplicit false
set_option relaxedAutoImplicit false

/-!
# The counts of a reader

A row reader counts in several places, some of them before a check that may fail and some of them in
a loop that may fail later on. Steps of reading may come in any order and may go on after errors, and
still each record that was parsed is found again exactly once: as a row that was dropped, as a
header, as a data row, or as an empty row that was left out.

One call changes the counts as its answer says (`Delimited.RowReader.Call.Made.balanced`), and in a
sequence of calls these changes add up.

## Main definitions

* `Delimited.ReaderStep`, `Delimited.ReaderAnswer` — the steps of reading, and their answers.
* `Delimited.RowReader.Call` — a call with its answer, and the reader before and after it.
* `Delimited.RowReader.perform` — the calls of a sequence of steps.
* `Delimited.RowReader.Balanced` — the counts change as the answers say.

## Main results

* `Delimited.RowReader.Trace.balanced` — the counts after any sequence of calls.
* `Delimited.RowReader.counts_perform` — the counts of a new reader after any sequence of steps.
-/

namespace Delimited

open CharSource

/-- An answer that **has no record**: the input ended, or the next record was not completed because the
source failed or because of a newline that is not allowed. -/
inductive Misses : Except Error (Option Record) → Prop
  | ended : Misses (.ok none)
  | failed (fault : IoFault) : Misses (.error (.stream fault))
  | newline (record : Nat) : Misses (.error (.unquotedNewline record))

/-- An answer about a record that **was met** at a place: it is given, or it is refused for its
columns. -/
inductive Meets (location : RowLocation) : Except Error (Option Record) → Prop
  | given (record : Record) : Meets location (.ok (some record))
  | refused (m : ColumnMismatch) (h : m.location = location) : Meets location (.error (.columnCount m))

/-! ## Steps of reading -/

/-- The **steps of reading** that a caller may take. -/
inductive ReaderStep where
  /-- Looking for a byte-order mark. -/
  | stripMark
  /-- Dropping a row. -/
  | skipRow
  /-- Reading a header. -/
  | readHeader
  /-- Reading a data row. -/
  | readRow
  /-- Reading all data rows that are left, each by a call of its own. -/
  | rows
  deriving DecidableEq, Repr

/-- The **answer** to a step of reading. -/
inductive ReaderAnswer where
  | mark (found : Except Error Bool)
  | skip (found : Except Error Bool)
  | header (record : Except Error (Option Record))
  | row (record : Except Error (Option Record))

/-- The error of an answer, if it is one. -/
def ReaderAnswer.error? : ReaderAnswer → Option Error
  | .mark (.error e) | .skip (.error e) | .header (.error e) | .row (.error e) => some e
  | _ => none

namespace RowReader

variable {σ : Type} {r t : RowReader σ}

/-- A **call** of a reader with its answer. -/
structure Call (σ : Type) where
  before : RowReader σ
  answer : ReaderAnswer
  after : RowReader σ

namespace Call

/-- Whether a row was dropped. -/
def dropsRow (call : Call σ) : Bool :=
  match call.answer with
  | .skip (.ok true) => true
  | _ => false

/-- Whether a header was met: it was given, or it was refused for its columns. -/
def meetsHeader (call : Call σ) : Bool :=
  match call.answer with
  | .header (.ok (some _)) | .header (.error (.columnCount _)) => true
  | _ => false

/-- Whether a data row was given. -/
def givesRow (call : Call σ) : Bool :=
  match call.answer with
  | .row (.ok (some _)) => true
  | _ => false

/-- Whether a data row was refused for its columns. -/
def refusesRow (call : Call σ) : Bool :=
  match call.answer with
  | .row (.error (.columnCount _)) => true
  | _ => false

/-- What a call for a data row contributes to the list of all rows. -/
def item? (call : Call σ) : Option (Except Error Record) :=
  match call.answer with
  | .row (.ok (some record)) => some (.ok record)
  | .row (.error e) => some (.error e)
  | _ => none

end Call

variable [CharSource σ]

/-- The calls that read all data rows which are left, and the reader after them. -/
def rowCalls (r : RowReader σ) : List (Call σ) × RowReader σ :=
  match _h : r.readRow with
  | (.ok (some record), t) => (⟨r, .row (.ok (some record)), t⟩ :: (rowCalls t).1, (rowCalls t).2)
  | (.ok none, t) => ([⟨r, .row (.ok none), t⟩], t)
  | (.error e, t) => (⟨r, .row (.error e), t⟩ :: (rowCalls t).1, (rowCalls t).2)
termination_by remaining r.source
decreasing_by
  all_goals first
    | exact remaining_lt_of_readRow _h
    | exact remaining_lt_of_readRow_error _h

/-- One step of reading all rows. -/
theorem rowCalls_eq (r : RowReader σ) :
    r.rowCalls =
      match r.readRow with
      | (.ok (some record), t) => (⟨r, .row (.ok (some record)), t⟩ :: t.rowCalls.1, t.rowCalls.2)
      | (.ok none, t) => ([⟨r, .row (.ok none), t⟩], t)
      | (.error e, t) => (⟨r, .row (.error e), t⟩ :: t.rowCalls.1, t.rowCalls.2) := by
  rw [rowCalls]
  split <;> simp_all

/-- The rows that are left, after those found before, are what the calls for them give. -/
theorem rowsAfter_eq (found : List (Except Error Record)) (r : RowReader σ) :
    r.rowsAfter found = (found.reverse ++ r.rowCalls.1.filterMap Call.item?, r.rowCalls.2) := by
  fun_induction rowsAfter found r with
  | case1 found r record t h ih =>
    rw [ih, rowCalls_eq r, h]
    simp [Call.item?]
  | case2 found r t h =>
    rw [rowCalls_eq r, h]
    simp [Call.item?]
  | case3 found r e t h ih =>
    rw [ih, rowCalls_eq r, h]
    simp [Call.item?]

/-- **All rows** that are left are what the calls for them give. -/
theorem rows_eq (r : RowReader σ) :
    r.rows = (r.rowCalls.1.filterMap Call.item?, r.rowCalls.2) :=
  r.rowsAfter_eq []

/-- The calls of one step, and the reader after them. -/
def callsOf (r : RowReader σ) : ReaderStep → List (Call σ) × RowReader σ
  | .stripMark => ([⟨r, .mark r.stripMark.1, r.stripMark.2⟩], r.stripMark.2)
  | .skipRow => ([⟨r, .skip r.skipRow.1, r.skipRow.2⟩], r.skipRow.2)
  | .readHeader => ([⟨r, .header r.readHeader.1, r.readHeader.2⟩], r.readHeader.2)
  | .readRow => ([⟨r, .row r.readRow.1, r.readRow.2⟩], r.readRow.2)
  | .rows => r.rowCalls

/-- The **calls of a sequence of steps**, which goes on after errors, and the reader after them. -/
def perform (r : RowReader σ) : List ReaderStep → List (Call σ) × RowReader σ
  | [] => ([], r)
  | step :: steps =>
    ((r.callsOf step).1 ++ ((r.callsOf step).2.perform steps).1,
      ((r.callsOf step).2.perform steps).2)

end RowReader

/-! ## The counts after one step -/

section Counts

variable {σ : Type} [CharSource σ]

/-- A parser counts the records that it gives. -/
theorem Parser.records_next (p : Parser) (s : σ) :
    Misses (p.next s).1 ∧ (p.next s).2.1.records = p.records ∨
      ∃ record, (p.next s).1 = .ok (some record) ∧ (p.next s).2.1.records = p.records + 1 := by
  unfold Parser.next
  split
  · exact Or.inl ⟨.ended, rfl⟩
  · rcases p.grammar.scan [] [] .start s with ⟨record | (_ | record) | fault | _, t⟩
    · exact Or.inr ⟨record, rfl, rfl⟩
    · exact Or.inl ⟨.ended, rfl⟩
    · exact Or.inr ⟨record, rfl, rfl⟩
    · exact Or.inl ⟨.failed fault, rfl⟩
    · exact Or.inl ⟨.newline (p.records + 1), rfl⟩

/-- A parser counts the records that it drops. -/
theorem Parser.records_skip (p : Parser) (s : σ) :
    ∃ answer : Except Error (Option Record), (p.skip s).1 = answer.map Option.isSome ∧
      (Misses answer ∧ (p.skip s).2.1.records = p.records ∨
        ∃ record, answer = .ok (some record) ∧ (p.skip s).2.1.records = p.records + 1) :=
  ⟨_, rfl, records_next { p with grammar := { p.grammar with newlines := .preserve } } s⟩

namespace RowReader

/-- Looking for a mark changes the source alone. -/
theorem stripMark_eq (r : RowReader σ) :
    r.stripMark.2 = { r with source := r.stripMark.2.source } := by
  unfold stripMark
  split
  · rfl
  · rfl
  · split <;> rfl

/-- Reading on to the next record counts that record and the empty ones before it, and no rows.

**Proof sketch.** Induction along the records that are left out, each of which is counted twice: by
the parser and as an empty row. -/
theorem counts_nextRecord (r : RowReader σ) :
    r.nextRecord.2.rowCount = r.rowCount ∧
      ∃ empty, r.nextRecord.2.emptyRows = r.emptyRows + empty ∧
        (Misses r.nextRecord.1 ∧ r.nextRecord.2.parser.records = r.parser.records + empty ∨
          ∃ record, r.nextRecord.1 = .ok (some record) ∧
            r.nextRecord.2.parser.records = r.parser.records + 1 + empty) := by
  fun_induction nextRecord r with
  | case1 r e p s h =>
    have hnext := r.parser.records_next r.source
    rw [h] at hnext
    rcases hnext with hmiss | ⟨record, hfound, -⟩
    · exact ⟨rfl, 0, rfl, Or.inl hmiss⟩
    · cases hfound
  | case2 r p s h =>
    have hnext := r.parser.records_next r.source
    rw [h] at hnext
    rcases hnext with hmiss | ⟨record, hfound, -⟩
    · exact ⟨rfl, 0, rfl, Or.inl hmiss⟩
    · cases hfound
  | case3 r record p s h hskip ih =>
    have hnext := r.parser.records_next r.source
    rw [h] at hnext
    rcases hnext with ⟨hmiss, -⟩ | ⟨-, -, hcount⟩
    · cases hmiss
    · obtain ⟨hrows, empty, hempty, hrecords⟩ := ih
      dsimp only at hrows hempty hrecords hcount
      rw [hcount] at hrecords
      refine ⟨hrows, empty + 1, by omega, ?_⟩
      rcases hrecords with ⟨hmiss, heq⟩ | ⟨found, hfound, heq⟩
      · exact Or.inl ⟨hmiss, by omega⟩
      · exact Or.inr ⟨found, hfound, by omega⟩
  | case4 r record p s h hskip =>
    have hnext := r.parser.records_next r.source
    rw [h] at hnext
    rcases hnext with ⟨hmiss, -⟩ | hfound
    · cases hmiss
    · exact ⟨rfl, 0, rfl, Or.inr hfound⟩

omit [CharSource σ] in
/-- A record that was met is given, or it is refused for its columns. -/
theorem meets_verify (r : RowReader σ) (record : Record) (location : RowLocation) :
    Meets location ((r.verify record location).map fun _ => some record) := by
  unfold verify
  split
  · unfold ColumnCheck.verify
    split
    · exact .given record
    · exact .refused _ rfl
  · exact .given record

/-- Reading a header counts it as a record and not as a row. -/
theorem counts_readHeader (r : RowReader σ) :
    r.readHeader.2.rowCount = r.rowCount ∧
      ∃ empty, r.readHeader.2.emptyRows = r.emptyRows + empty ∧
        (Misses r.readHeader.1 ∧ r.readHeader.2.parser.records = r.parser.records + empty ∨
          Meets .header r.readHeader.1 ∧
            r.readHeader.2.parser.records = r.parser.records + 1 + empty) := by
  have hnext := r.counts_nextRecord
  unfold readHeader
  rcases hr : r.nextRecord with ⟨e | _ | record, t⟩
  · rw [hr] at hnext
    obtain ⟨hrows, empty, hempty, hmiss | ⟨found, hfound, -⟩⟩ := hnext
    · exact ⟨hrows, empty, hempty, Or.inl hmiss⟩
    · cases hfound
  · rw [hr] at hnext
    obtain ⟨hrows, empty, hempty, hmiss | ⟨found, hfound, -⟩⟩ := hnext
    · exact ⟨hrows, empty, hempty, Or.inl hmiss⟩
    · cases hfound
  · rw [hr] at hnext
    obtain ⟨hrows, empty, hempty, ⟨hmiss, -⟩ | ⟨found, -, hcount⟩⟩ := hnext
    · cases hmiss
    · exact ⟨hrows, empty, hempty, Or.inr ⟨t.meets_verify record .header, hcount⟩⟩

/-- Reading a data row counts it as a record and as a row, before it is checked. -/
theorem counts_readRow (r : RowReader σ) :
    ∃ empty, r.readRow.2.emptyRows = r.emptyRows + empty ∧
      (Misses r.readRow.1 ∧ r.readRow.2.rowCount = r.rowCount ∧
          r.readRow.2.parser.records = r.parser.records + empty ∨
        Meets (.data r.readRow.2.rowCount) r.readRow.1 ∧ r.readRow.2.rowCount = r.rowCount + 1 ∧
          r.readRow.2.parser.records = r.parser.records + 1 + empty) := by
  have hnext := r.counts_nextRecord
  unfold readRow
  rcases hr : r.nextRecord with ⟨e | _ | record, t⟩
  · rw [hr] at hnext
    obtain ⟨hrows, empty, hempty, ⟨hmiss, hcount⟩ | ⟨found, hfound, -⟩⟩ := hnext
    · exact ⟨empty, hempty, Or.inl ⟨hmiss, hrows, hcount⟩⟩
    · cases hfound
  · rw [hr] at hnext
    obtain ⟨hrows, empty, hempty, ⟨hmiss, hcount⟩ | ⟨found, hfound, -⟩⟩ := hnext
    · exact ⟨empty, hempty, Or.inl ⟨hmiss, hrows, hcount⟩⟩
    · cases hfound
  · rw [hr] at hnext
    obtain ⟨hrows, empty, hempty, ⟨hmiss, -⟩ | ⟨found, -, hcount⟩⟩ := hnext
    · cases hmiss
    · refine ⟨empty, hempty, Or.inr ⟨?_, congrArg (· + 1) hrows, hcount⟩⟩
      exact meets_verify { t with rowCount := t.rowCount + 1 } record (.data (t.rowCount + 1))

/-! ## The counts after a sequence of calls -/

variable {r t : RowReader σ}

/-- The counts **change as the calls say** from one reader to another. A record that was parsed was
dropped, or it was a header, or it was counted as a data row or as an empty one. -/
structure Balanced (r : RowReader σ) (calls : List (Call σ)) (t : RowReader σ) : Prop where
  rowCount_eq : t.rowCount = r.rowCount + (calls.countP Call.givesRow + calls.countP Call.refusesRow)
  records_eq : ∃ empty, t.emptyRows = r.emptyRows + empty ∧
    t.parser.records = r.parser.records + (calls.countP Call.dropsRow +
      calls.countP Call.meetsHeader + calls.countP Call.givesRow + calls.countP Call.refusesRow) +
      empty

omit [CharSource σ] in
/-- Changes one after another add up. -/
theorem Balanced.append {u : RowReader σ} {xs ys : List (Call σ)} (hx : Balanced r xs t)
    (hy : Balanced t ys u) : Balanced r (xs ++ ys) u := by
  obtain ⟨hrows, empty, hempty, hrecords⟩ := hx
  obtain ⟨hrows', empty', hempty', hrecords'⟩ := hy
  refine ⟨?_, empty + empty', by omega, ?_⟩
  · simp only [List.countP_append]
    omega
  · simp only [List.countP_append]
    omega

/-- A call that was **made**: its answer and the reader after it are those of a step of reading. -/
inductive Call.Made : Call σ → Prop
  | stripMark (r : RowReader σ) : Made ⟨r, .mark r.stripMark.1, r.stripMark.2⟩
  | skipRow (r : RowReader σ) : Made ⟨r, .skip r.skipRow.1, r.skipRow.2⟩
  | readHeader (r : RowReader σ) : Made ⟨r, .header r.readHeader.1, r.readHeader.2⟩
  | readRow (r : RowReader σ) : Made ⟨r, .row r.readRow.1, r.readRow.2⟩

/-- **A call changes the counts as its answer says.** -/
theorem Call.Made.balanced {call : Call σ} (h : call.Made) :
    Balanced call.before [call] call.after := by
  cases h with
  | stripMark r =>
    rw [r.stripMark_eq]
    exact ⟨rfl, 0, rfl, rfl⟩
  | skipRow r =>
    obtain ⟨answer, hskip, hcount⟩ := r.parser.records_skip r.source
    have hanswer : r.skipRow.1 = answer.map Option.isSome := hskip
    rw [hanswer]
    refine ⟨rfl, 0, rfl, ?_⟩
    rcases hcount with ⟨hmiss, hcount⟩ | ⟨record, rfl, hcount⟩
    · cases hmiss <;> exact hcount
    · exact hcount
  | readHeader r =>
    obtain ⟨hrows, empty, hempty, hcount⟩ := r.counts_readHeader
    generalize r.readHeader.1 = answer at hcount ⊢
    refine ⟨hrows, empty, hempty, ?_⟩
    rcases hcount with ⟨hmiss, hcount⟩ | ⟨hmeets, hcount⟩
    · cases hmiss <;> exact hcount
    · cases hmeets <;> exact hcount
  | readRow r =>
    obtain ⟨empty, hempty, hcount⟩ := r.counts_readRow
    generalize r.readRow.1 = answer at hcount ⊢
    rcases hcount with ⟨hmiss, hrows, hcount⟩ | ⟨hmeets, hrows, hcount⟩
    · cases hmiss <;> exact ⟨hrows, empty, hempty, hcount⟩
    · cases hmeets <;> exact ⟨hrows, empty, hempty, hcount⟩

/-- A data row that is refused for its columns has the number that the count of rows then has. -/
theorem Call.Made.location_eq {call : Call σ} (h : call.Made) {m : ColumnMismatch}
    (hanswer : call.answer = .row (.error (.columnCount m))) :
    m.location = .data call.after.rowCount := by
  cases h with
  | stripMark r => cases hanswer
  | skipRow r => cases hanswer
  | readHeader r => cases hanswer
  | readRow r =>
    obtain ⟨empty, -, ⟨hmiss, -⟩ | ⟨hmeets, -⟩⟩ := r.counts_readRow
    · rw [ReaderAnswer.row.inj hanswer] at hmiss
      cases hmiss
    · rw [ReaderAnswer.row.inj hanswer] at hmeets
      cases hmeets with
      | refused m h => exact h

/-- An answer with an error other than one about columns counts no row and no header. -/
theorem Call.Made.uncounted {call : Call σ} (h : call.Made) {e : Error}
    (hanswer : call.answer.error? = some e) (he : ∀ m, e ≠ .columnCount m) :
    call.after.rowCount = call.before.rowCount ∧ call.dropsRow = false ∧
      call.meetsHeader = false := by
  cases h with
  | stripMark r =>
    refine ⟨?_, rfl, rfl⟩
    have hkept := congrArg rowCount r.stripMark_eq
    exact hkept
  | skipRow r =>
    refine ⟨rfl, ?_, rfl⟩
    generalize r.skipRow.1 = found at hanswer ⊢
    rcases found with e' | found
    · rfl
    · cases hanswer
  | readHeader r =>
    obtain ⟨hrows, empty, -, hcount⟩ := r.counts_readHeader
    generalize r.readHeader.1 = answer at hanswer hcount ⊢
    refine ⟨hrows, rfl, ?_⟩
    rcases hcount with ⟨hmiss, -⟩ | ⟨hmeets, -⟩
    · cases hmiss <;> rfl
    · cases hmeets with
      | given record => cases hanswer
      | refused m h => exact absurd (Option.some.inj hanswer).symm (he m)
  | readRow r =>
    obtain ⟨empty, -, hcount⟩ := r.counts_readRow
    generalize r.readRow.1 = answer at hanswer hcount ⊢
    rcases hcount with ⟨-, hrows, -⟩ | ⟨hmeets, -⟩
    · exact ⟨hrows, rfl, rfl⟩
    · cases hmeets with
      | given record => cases hanswer
      | refused m h => exact absurd (Option.some.inj hanswer).symm (he m)

/-- A **trace** of calls, each of which was made of the reader that the one before it left. -/
inductive Trace : RowReader σ → List (Call σ) → RowReader σ → Prop
  | nil (r : RowReader σ) : Trace r [] r
  | cons {call : Call σ} {calls : List (Call σ)} {t : RowReader σ} (h : call.Made)
      (rest : Trace call.after calls t) : Trace call.before (call :: calls) t

/-- Calls that follow other calls. -/
theorem Trace.append {u : RowReader σ} {xs ys : List (Call σ)} (hx : Trace r xs t)
    (hy : Trace t ys u) : Trace r (xs ++ ys) u := by
  induction hx with
  | nil r => exact hy
  | cons h rest ih => exact .cons h (ih hy)

/-- **The counts after a trace** changed as all its calls say. -/
theorem Trace.balanced {calls : List (Call σ)} (h : Trace r calls t) : Balanced r calls t := by
  induction h with
  | nil r => exact ⟨rfl, 0, rfl, rfl⟩
  | @cons call calls t h rest ih => exact h.balanced.append ih

/-- Each call of a trace was made. -/
theorem Trace.made {calls : List (Call σ)} (h : Trace r calls t) : ∀ call ∈ calls, call.Made := by
  induction h with
  | nil r => simp
  | cons h rest ih =>
    intro call hcall
    rcases List.mem_cons.1 hcall with rfl | hcall
    · exact h
    · exact ih call hcall

/-- Reading all rows that are left is a trace. -/
theorem trace_rowCalls (r : RowReader σ) : Trace r r.rowCalls.1 r.rowCalls.2 := by
  fun_induction rowCalls r with
  | case1 r record t h ih =>
    have hmade := Call.Made.readRow r
    rw [h] at hmade
    exact .cons hmade ih
  | case2 r t h =>
    have hmade := Call.Made.readRow r
    rw [h] at hmade
    exact .cons hmade (.nil t)
  | case3 r e t h ih =>
    have hmade := Call.Made.readRow r
    rw [h] at hmade
    exact .cons hmade ih

/-- So are the calls of any sequence of steps. -/
theorem trace_perform (r : RowReader σ) (steps : List ReaderStep) :
    Trace r (r.perform steps).1 (r.perform steps).2 := by
  induction steps generalizing r with
  | nil => exact .nil r
  | cons step steps ih =>
    refine Trace.append ?_ (ih (r.callsOf step).2)
    cases step with
    | stripMark => exact .cons (.stripMark r) (.nil _)
    | skipRow => exact .cons (.skipRow r) (.nil _)
    | readHeader => exact .cons (.readHeader r) (.nil _)
    | readRow => exact .cons (.readRow r) (.nil _)
    | rows => exact r.trace_rowCalls

/-- **The counts of a reader** agree with its answers after any sequence of steps, also after errors
and with a source whose reads fail. Each record that was parsed was dropped, was met as a header, or
was counted as a data row or as an empty row that was left out; a data row is counted if it was given
or refused for its columns. A data row that is refused is numbered as it was just counted. An answer
that the source failed, or that there is a newline where none is allowed, counts no row and no
header. -/
theorem counts_perform (source : σ) (grammar : Grammar) (check : Option ColumnCheck)
    (skipEmptyRows : Bool) (steps : List ReaderStep) :
    let calls := ((ofSource source grammar check skipEmptyRows).perform steps).1
    let t := ((ofSource source grammar check skipEmptyRows).perform steps).2
    t.parser.records =
        calls.countP Call.dropsRow + calls.countP Call.meetsHeader + t.rowCount + t.emptyRows ∧
      t.rowCount = calls.countP Call.givesRow + calls.countP Call.refusesRow ∧
      ∀ call ∈ calls,
        (∀ m, call.answer = .row (.error (.columnCount m)) →
          m.location = .data call.after.rowCount) ∧
        ∀ e, call.answer.error? = some e →
          (∃ fault, e = .stream fault) ∨ (∃ record, e = .unquotedNewline record) →
          call.after.rowCount = call.before.rowCount ∧ call.dropsRow = false ∧
            call.meetsHeader = false := by
  intro calls t
  have htrace := (ofSource source grammar check skipEmptyRows).trace_perform steps
  obtain ⟨hrows, empty, hempty, hrecords⟩ := htrace.balanced
  have hrows' : t.rowCount = 0 + (calls.countP Call.givesRow + calls.countP Call.refusesRow) := hrows
  have hempty' : t.emptyRows = 0 + empty := hempty
  have hrecords' : t.parser.records = 0 + (calls.countP Call.dropsRow +
      calls.countP Call.meetsHeader + calls.countP Call.givesRow +
      calls.countP Call.refusesRow) + empty := hrecords
  refine ⟨by omega, by omega, fun call hcall => ⟨fun m hanswer => ?_, fun e hanswer he => ?_⟩⟩
  · exact (htrace.made call hcall).location_eq hanswer
  · refine (htrace.made call hcall).uncounted hanswer ?_
    rintro m rfl
    rcases he with ⟨fault, hfault⟩ | ⟨record, hrecord⟩
    · cases hfault
    · cases hrecord

end RowReader

end Counts

end Delimited
