import Delimited.Record.RowReader

set_option autoImplicit false
set_option relaxedAutoImplicit false

/-!
# Where reading ends

A reader says that there are no more records only after a read of its source found nothing. It may
have noticed that early, when the last record was given, and then it does not read again.

## Main definitions

* `Delimited.MetEnd` — a source whose last read found nothing.
* `Delimited.RowReader.KnowsEnd` — a reader that takes its input for ended only if it is.

## Main results

* `Delimited.RowReader.KnowsEnd.skipRow`, `Delimited.RowReader.KnowsEnd.readHeader`,
  `Delimited.RowReader.KnowsEnd.readRow` — the steps of reading.
-/

namespace Delimited

open CharSource

variable {σ : Type} [CharSource σ] {s t : σ}

/-- The source **met its end**: its last read found nothing. -/
def MetEnd (s : σ) : Prop :=
  ∃ r, read r = (.ok none, s)

/-- A scan that ends at the end of the input met it. -/
theorem Grammar.metEnd_of_scan {g : Grammar} {fields : List Text} {field : Text} {place : Place}
    {last : Option Record} (h : g.scan fields field place s = (.ended last, t)) : MetEnd t := by
  fun_induction Grammar.scan g fields field place s with
  | case1 fields field place s e u hr => cases h
  | case2 fields field place s u hr =>
    cases h
    exact ⟨s, hr⟩
  | case3 fields field s c u hr hq e v hr' => cases h
  | case4 fields field s c u hr hq v hr' =>
    cases h
    exact ⟨u, hr'⟩
  | case5 fields field s u c v hr' hr hq ih => exact ih h
  | case6 fields field s c u hr hq x v hr' hx ih => exact ih h
  | case7 fields field s c u hr hq ih => exact ih h
  | case8 fields field place s c u hr hplace hq ih => exact ih h
  | case9 fields field place s c u hr hplace hq e he => cases h
  | case10 fields field place s c u hr hplace hq he => cases h
  | case11 fields field place s c u hr hplace hq he ih => exact ih h
  | case12 fields field place s c u hr hplace hq he hp => cases h
  | case13 fields field place s c u hr hplace hq he next hp ih => exact ih h

namespace Parser

/-- A parser that finished, or that gives no record, stands where the input ended. -/
theorem metEnd_next {p : Parser} (h : p.finished = true → MetEnd s) :
    ((p.next s).2.1.finished = true → MetEnd (p.next s).2.2) ∧
      ((p.next s).1 = .ok none → MetEnd (p.next s).2.2) := by
  unfold next
  split
  · next hfinished => exact ⟨fun _ => h hfinished, fun _ => h hfinished⟩
  · next hgoes =>
    rcases hscan : p.grammar.scan [] [] .start s with ⟨record | (_ | record) | fault | _, t⟩
    · exact ⟨fun hfinished => absurd hfinished hgoes, fun hnone => by cases hnone⟩
    · exact ⟨fun _ => Grammar.metEnd_of_scan hscan, fun _ => Grammar.metEnd_of_scan hscan⟩
    · exact ⟨fun _ => Grammar.metEnd_of_scan hscan, fun hnone => by cases hnone⟩
    · exact ⟨fun hfinished => absurd hfinished hgoes, fun hnone => by cases hnone⟩
    · exact ⟨fun hfinished => absurd hfinished hgoes, fun hnone => by cases hnone⟩

/-- So does one that drops a record, or has none to drop. -/
theorem metEnd_skip {p : Parser} (h : p.finished = true → MetEnd s) :
    ((p.skip s).2.1.finished = true → MetEnd (p.skip s).2.2) ∧
      ((p.skip s).1 = .ok false → MetEnd (p.skip s).2.2) := by
  have hlenient : ({ p with grammar := { p.grammar with newlines := .preserve } } : Parser).finished =
      true → MetEnd s := h
  have hend := metEnd_next hlenient
  unfold skip
  dsimp only at hend ⊢
  rcases hnext : Parser.next _ s with ⟨e | _ | record, q, t⟩ <;> rw [hnext] at hend
  · exact ⟨hend.1, fun hfalse => by cases hfalse⟩
  · exact ⟨hend.1, fun _ => hend.2 rfl⟩
  · exact ⟨hend.1, fun hfalse => by cases hfalse⟩

end Parser

namespace RowReader

variable {r : RowReader σ}

/-- The reader **knows the end** of its input: once its parser takes the input for ended, the source
met its end. -/
def KnowsEnd (r : RowReader σ) : Prop :=
  r.parser.finished = true → MetEnd r.source

namespace KnowsEnd

/-- Dropping a row. -/
theorem skipRow (h : r.KnowsEnd) :
    r.skipRow.2.KnowsEnd ∧ (r.skipRow.1 = .ok false → MetEnd r.skipRow.2.source) :=
  Parser.metEnd_skip h

/-- The next record that is not left out. -/
theorem nextRecord (h : r.KnowsEnd) :
    r.nextRecord.2.KnowsEnd ∧ (r.nextRecord.1 = .ok none → MetEnd r.nextRecord.2.source) := by
  fun_induction RowReader.nextRecord r with
  | case1 r e p s hnext =>
    have hend := Parser.metEnd_next h
    rw [hnext] at hend
    exact ⟨hend.1, fun hnone => by cases hnone⟩
  | case2 r p s hnext =>
    have hend := Parser.metEnd_next h
    rw [hnext] at hend
    exact hend
  | case3 r record p s hnext hskip ih =>
    have hend := Parser.metEnd_next h
    rw [hnext] at hend
    exact ih hend.1
  | case4 r record p s hnext hskip =>
    have hend := Parser.metEnd_next h
    rw [hnext] at hend
    exact ⟨hend.1, fun hnone => by cases hnone⟩

/-- Reading a header. -/
theorem readHeader (h : r.KnowsEnd) : r.readHeader.2.KnowsEnd := by
  have hnext := h.nextRecord.1
  unfold RowReader.readHeader
  rcases hr : r.nextRecord with ⟨e | _ | record, t⟩ <;> rw [hr] at hnext <;> exact hnext

/-- Reading a data row. -/
theorem readRow (h : r.KnowsEnd) :
    r.readRow.2.KnowsEnd ∧ (r.readRow.1 = .ok none → MetEnd r.readRow.2.source) := by
  have hnext := h.nextRecord
  unfold RowReader.readRow
  rcases hr : r.nextRecord with ⟨e | _ | record, t⟩
  · rw [hr] at hnext
    exact hnext
  · rw [hr] at hnext
    exact hnext
  · rw [hr] at hnext
    refine ⟨hnext.1, fun hnone => ?_⟩
    dsimp only at hnone
    generalize RowReader.verify _ record _ = checked at hnone
    cases checked <;> cases hnone

end KnowsEnd

end RowReader

end Delimited
