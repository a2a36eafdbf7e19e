import Delimited.Proofs.Record.Balance
import Delimited.Proofs.Run.Rows

set_option autoImplicit false
set_option relaxedAutoImplicit false

/-!
# Rows that are refused for their columns

A row is read and counted before its columns are checked. So a reader that checks columns is, after
each row, where the same reader without the check is: if the caller goes on after the rows that are
refused, every other row is given, unchanged and with its own number.

## Main definitions

* `Delimited.RowReader.checking` — the same reader with a check of columns.
* `Delimited.ColumnCheck.verifyRows` — the check of all data rows, each with its number.

## Main results

* `Delimited.RowReader.readRow_checking` — one row with the check and without it.
* `Delimited.RowReader.rows_checking` — all rows with the check are those without it, each of them
  checked on its own, whatever the source and its faults.
* `Delimited.RowReader.rows_columnCheck` — the same for a new reader, row by row.
-/

namespace Delimited

open CharSource

/-- **The check of all data rows**, of which `n` were counted before. An error that was met among
them stays as it is and counts as no row. -/
def ColumnCheck.verifyRows (check : ColumnCheck) (delimiter : Text) :
    Nat → List (Except Error Record) → List (Except Error Record)
  | _, [] => []
  | n, .ok row :: items =>
    (check.verify row (.data (n + 1)) delimiter).map (fun _ => row) ::
      check.verifyRows delimiter (n + 1) items
  | n, .error e :: items => .error e :: check.verifyRows delimiter n items

/-- If no errors were met, the place of a row is its number. -/
theorem ColumnCheck.verifyRows_map_ok (check : ColumnCheck) (delimiter : Text) (n : Nat)
    (rows : List Record) :
    check.verifyRows delimiter n (rows.map .ok) = rows.mapIdx fun i row =>
      (check.verify row (.data (n + i + 1)) delimiter).map fun _ => row := by
  induction rows generalizing n with
  | nil => rfl
  | cons row rows ih =>
    rw [List.map_cons, verifyRows, ih, List.mapIdx_cons]
    simp only [Nat.add_zero, Nat.add_assoc, Nat.add_comm 1]

variable {σ : Type}

/-- The same reader **with a check** of columns. -/
def RowReader.checking (r : RowReader σ) (check : ColumnCheck) : RowReader σ :=
  { r with columnCheck := some check }

variable [CharSource σ]

/-- A parser keeps its grammar. -/
theorem Parser.grammar_of_next {p q : Parser} {s t : σ} {answer : Except Error (Option Record)}
    (h : p.next s = (answer, q, t)) : q.grammar = p.grammar := by
  have hgrammar : (p.next s).2.1.grammar = p.grammar := by
    unfold Parser.next
    split
    · rfl
    · rcases p.grammar.scan [] [] .start s with ⟨record | (_ | record) | fault | _, u⟩ <;> rfl
  rwa [h] at hgrammar

namespace RowReader

variable {r : RowReader σ}

/-- Reading on to the next record leaves the settings of the reader as they are. -/
theorem sameSettings_nextRecord (r : RowReader σ) : SameSettings r r.nextRecord.2 := by
  fun_induction nextRecord r with
  | case1 r e p s h => exact ⟨Parser.grammar_of_next h, rfl, rfl⟩
  | case2 r p s h => exact ⟨Parser.grammar_of_next h, rfl, rfl⟩
  | case3 r record p s h hskip ih =>
    exact ⟨ih.grammar.trans (Parser.grammar_of_next h), ih.columnCheck, ih.skipEmptyRows⟩
  | case4 r record p s h hskip => exact ⟨Parser.grammar_of_next h, rfl, rfl⟩

/-- Reading on to the next record does not look at the check. -/
theorem nextRecord_checking (r : RowReader σ) (check : ColumnCheck) :
    (r.checking check).nextRecord = (r.nextRecord.1, r.nextRecord.2.checking check) := by
  fun_induction nextRecord r with
  | case1 r e p s h =>
    rw [nextRecord_eq]
    simp only [checking, h]
  | case2 r p s h =>
    rw [nextRecord_eq]
    simp only [checking, h]
  | case3 r record p s h hskip ih =>
    rw [nextRecord_eq]
    simp only [checking, h]
    exact (if_pos hskip).trans ih
  | case4 r record p s h hskip =>
    rw [nextRecord_eq]
    simp only [checking, h]
    exact if_neg hskip

/-- **One row with a check and without it**: the reader with the check answers what its check says
of the row, and both readers are at the same place after it. -/
theorem readRow_checking (hcheck : r.columnCheck = none) (check : ColumnCheck) :
    match r.readRow with
    | (.ok (some row), t) =>
      (r.checking check).readRow =
          ((check.verify row (.data (r.rowCount + 1)) r.parser.grammar.delimiters.column).map
            fun _ => some row, t.checking check) ∧
        t.rowCount = r.rowCount + 1 ∧ SameSettings r t
    | (.ok none, t) => (r.checking check).readRow = (.ok none, t.checking check)
    | (.error e, t) =>
      (r.checking check).readRow = (.error e, t.checking check) ∧
        t.rowCount = r.rowCount ∧ SameSettings r t := by
  have hsame := r.sameSettings_nextRecord
  have hcount := r.counts_nextRecord.1
  unfold RowReader.readRow
  rw [nextRecord_checking]
  rcases hnext : r.nextRecord with ⟨e | _ | row, t⟩
  · rw [hnext] at hsame hcount
    exact ⟨rfl, hcount, hsame⟩
  · rfl
  · rw [hnext] at hsame hcount
    have hnone : t.columnCheck = none := hsame.columnCheck.trans hcheck
    have hpass : ({ t with rowCount := t.rowCount + 1 } : RowReader σ).verify row
        (.data (t.rowCount + 1)) = .ok () := by
      rw [verify, hnone]
    dsimp only
    rw [hpass]
    refine ⟨?_, congrArg (· + 1) hcount, hsame.1, hsame.2, hsame.3⟩
    rw [← hsame.grammar, ← hcount]
    rfl

/-- One step of reading all rows. -/
theorem rows_step (r : RowReader σ) :
    r.rows =
      match r.readRow with
      | (.ok (some row), t) => (.ok row :: t.rows.1, t.rows.2)
      | (.ok none, t) => ([], t)
      | (.error e, t) => (.error e :: t.rows.1, t.rows.2) := by
  rw [rows_eq, rowCalls_eq]
  rcases r.readRow with ⟨e | _ | row, t⟩
  · simp [rows_eq, Call.item?]
  · rfl
  · simp [rows_eq, Call.item?]

/-- **All rows with a check** are the rows without it, each of them checked on its own, and after
them the reader is where it is without the check. This holds of every source, also of one that fails,
and also if newlines are refused.

**Proof sketch.** Induction along the rows that the reader without the check gives. Before each row
the two readers differ in the check alone. -/
theorem rows_checking (hcheck : r.columnCheck = none) (check : ColumnCheck) :
    (r.checking check).rows =
      (check.verifyRows r.parser.grammar.delimiters.column r.rowCount r.rows.1,
        r.rows.2.checking check) := by
  fun_induction rowCalls r with
  | case1 r row t h ih =>
    have hrow := readRow_checking hcheck check
    rw [h] at hrow
    obtain ⟨hread, hcount, hsame⟩ := hrow
    have hrest := ih (hsame.columnCheck.trans hcheck)
    rw [hcount, hsame.grammar] at hrest
    rw [rows_step, hread, rows_step r, h]
    cases hverify :
        check.verify row (.data (r.rowCount + 1)) r.parser.grammar.delimiters.column with
    | ok _ => simp only [Except.map, ColumnCheck.verifyRows, hverify, hrest]
    | error e => simp only [Except.map, ColumnCheck.verifyRows, hverify, hrest]
  | case2 r t h =>
    have hrow := readRow_checking hcheck check
    rw [h] at hrow
    rw [rows_step, hrow, rows_step r, h]
    rfl
  | case3 r e t h ih =>
    have hrow := readRow_checking hcheck check
    rw [h] at hrow
    obtain ⟨hread, hcount, hsame⟩ := hrow
    have hrest := ih (hsame.columnCheck.trans hcheck)
    rw [hcount, hsame.grammar] at hrest
    rw [rows_step, hread, rows_step r, h]
    simp only [ColumnCheck.verifyRows, hrest]

/-- A reader without a check gives the rows that it awaits, if no error ends them. -/
theorem Awaits.rows_unchecked {records : List Record} (h : r.Awaits records none)
    (hcheck : r.columnCheck = none) : r.rows.1 = records.map .ok := by
  induction records generalizing r with
  | nil =>
    obtain ⟨t, ht⟩ := h.readRow
    rw [rows_step, ht]
    rfl
  | cons record records ih =>
    obtain ⟨t, ht, hawaits, -, hsame⟩ := h.readRow
    rw [hcheck] at ht
    have hrest := ih hawaits (hsame.columnCheck.trans hcheck)
    rw [rows_step, ht, List.map_cons, ← hrest]
    rfl

/-- **A row that is refused for its columns neither hides, nor damages, nor renumbers other rows.**
Where newlines are not refused, all rows of a text are given without a check; with a check there are
as many items, each of which is the row in its place, or the error about that row, under its number.
After them the reader is where it is without the check. -/
theorem rows_columnCheck {source : σ} {text : Text} (h : Holds source text) (g : Grammar)
    (hnewlines : g.newlines ≠ .reject) (skipEmptyRows : Bool) (check : ColumnCheck) :
    ∃ records : List Record,
      (ofSource source g none skipEmptyRows).rows.1 = records.map .ok ∧
      (ofSource source g (some check) skipEmptyRows).rows =
        (records.mapIdx fun i row =>
            if row.length = check.effective then .ok row
            else
              .error (.columnCount
                { location := .data (i + 1)
                  configured := check.configured
                  expected := check.effective
                  actual := row.length
                  row := row.joined g.delimiters.column }),
          (ofSource source g none skipEmptyRows).rows.2.checking check) := by
  have hfault : (g.rows skipEmptyRows 0 text).2 = none := by
    rw [Grammar.rows, Grammar.records_snd_of_ne_reject hnewlines]
    rfl
  have hawaits : (ofSource source g none skipEmptyRows).Awaits
      (g.rows skipEmptyRows 0 text).1 none :=
    ⟨text, Parser.At.start h, Prod.ext rfl hfault⟩
  have hunchecked := hawaits.rows_unchecked rfl
  have hchecked : (ofSource source g (some check) skipEmptyRows).rows = _ :=
    rows_checking (r := ofSource source g none skipEmptyRows) rfl check
  refine ⟨_, hunchecked, ?_⟩
  rw [hchecked, hunchecked, ColumnCheck.verifyRows_map_ok]
  refine congrArg (·, _) (congrArg (fun f => List.mapIdx f _) ?_)
  funext i row
  show ((check.verify row (.data (0 + i + 1)) g.delimiters.column).map fun _ => row) = _
  rw [Nat.zero_add, ColumnCheck.verify]
  split_ifs <;> rfl

/-- A trailing column delimiter is required, and the second of three rows lacks it: only that row is
refused. A newline in it was replaced, an empty row after it is left out, and the row delimiter at the
end is cut short. -/
theorem rows_columnCheck_cut_row :
    let d : Delimiters := ⟨[';', ';'], ['|'], by decide, by decide⟩
    let g : Grammar := ⟨d, some '"', false, .space⟩
    let text : Text := ['a', '|', ';', ';', '\n', 'b', ';', ';', ';', ';', '"', ';', '"', '|', ';']
    let check : ColumnCheck := ⟨1, true⟩
    let first : Record := [['a'], []]
    let second : Record := [[' ', 'b']]
    let third : Record := [[';'], []]
    Holds text text ∧ g.newlines ≠ .reject ∧
      (ofSource text g none true).rows.1 = [.ok first, .ok second, .ok third] ∧
      (ofSource text g (some check) true).rows =
        ([.ok first, .error (.columnCount ⟨.data 2, 1, 2, 1, [' ', 'b']⟩), .ok third],
          (ofSource text g none true).rows.2.checking check) := by
  intro d g text check first second third
  obtain ⟨records, hunchecked, hchecked⟩ :=
    rows_columnCheck (.refl text) g (by decide) true check
  have hrows : (ofSource text g none true).rows.1 = [.ok first, .ok second, .ok third] := by
    decide +kernel
  obtain rfl : [first, second, third] = records :=
    (List.map_inj_right fun _ _ => Except.ok.inj).1 (hrows.symm.trans hunchecked)
  exact ⟨.refl text, by decide, hrows, hchecked⟩

end RowReader

end Delimited
