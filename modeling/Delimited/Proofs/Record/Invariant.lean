import Delimited.Proofs.Record.Balance
import Delimited.Proofs.Run.Refusals

set_option autoImplicit false
set_option relaxedAutoImplicit false

/-!
# Properties that reading keeps

A reader uses its source in three ways only: it reads a character, it pushes back the character that
it has just read, and it probes for a delimiter. A property of the source that these keep holds
before and after every call of the reader, and so it does after any number of calls.

## Main definitions

* `Delimited.Delimiters.Keeps` — reading, pushing back and probing keep a property.
* `Delimited.RowReader.Upholds` — a reader with these delimiters, whose source has the property.

## Main results

* `Delimited.Grammar.keeps_scan` — a scan keeps such a property.
* `Delimited.RowReader.Call.Made.upholds` — so does each call of a reader.
* `Delimited.RowReader.Trace.upholds` — so does a sequence of calls.
-/

namespace Delimited

open CharSource

variable {σ : Type} [CharSource σ]

/-- Reading ahead keeps what reading keeps. -/
theorem CharSource.keeps_readUpTo {P : σ → Prop} (hread : ∀ {s : σ}, P s → P (read s).2) {s : σ}
    (h : P s) (n : Nat) : P (readUpTo n s).2 := by
  induction n generalizing s with
  | zero => exact h
  | succ n ih =>
    have hnext := hread h
    rw [readUpTo]
    generalize read s = answer at hnext
    rcases answer with ⟨e | _ | c, t⟩
    · exact hnext
    · exact hnext
    · exact ih hnext

/-- **What a probe does to its source**: nothing, or it reads ahead and keeps what it read, or it
pushes the last characters back that it read. -/
theorem Delimiters.source_probe_cases (d : Delimiters) (first : Char) (s : σ) :
    (d.probe first s).source = s ∨
      (d.probe first s).source = (readUpTo d.lookahead s).2 ∨
      ∃ xs, xs <:+ (readUpTo d.lookahead s).1.1 ∧
        (d.probe first s).source = unread xs (readUpTo d.lookahead s).2 := by
  unfold probe
  split
  · exact Or.inl rfl
  · rcases readUpTo d.lookahead s with ⟨⟨ahead, fault | _⟩, t⟩
    · right
      dsimp only
      split
      · next hit _ =>
        -- a delimiter has at least the first character, which was read before
        obtain ⟨k, hk⟩ : ∃ k, d.hitLength hit = k + 1 :=
          Nat.exists_eq_succ_of_ne_zero (Nat.ne_of_gt (d.hitLength_pos hit))
        refine Or.inr ⟨ahead.drop k, List.drop_suffix k ahead, ?_⟩
        rw [hk, List.drop_succ_cons]
      · split
        · exact Or.inl rfl
        · exact Or.inr ⟨ahead, List.suffix_rfl, rfl⟩
    · exact Or.inr (Or.inl rfl)

/-- The three uses of a source **keep** a property of it. -/
structure Delimiters.Keeps (d : Delimiters) (P : σ → Prop) : Prop where
  read : ∀ {s : σ}, P s → P (read s).2
  putBack : ∀ {s t : σ} {c : Char}, P s → CharSource.read s = (.ok (some c), t) → P (unread [c] t)
  probe : ∀ {s t : σ} {c : Char}, P s → CharSource.read s = (.ok (some c), t) →
    P (d.probe c t).source

variable {d : Delimiters} {P : σ → Prop}

/-- A read of which the answer is known keeps what reading keeps. -/
theorem Delimiters.Keeps.of_read (hk : d.Keeps P) {s t : σ} {answer : Except IoFault (Option Char)}
    (h : P s) (hr : CharSource.read s = (answer, t)) : P t := by
  have hnext := hk.read h
  rwa [hr] at hnext

/-- **A scan keeps** what the uses of the source keep.

**Proof sketch.** Induction along the scan. Every step reads, and then it probes with the character
that it read, or reads once more and may push that character back. -/
theorem Grammar.keeps_scan {g : Grammar} (hk : g.delimiters.Keeps P) {s : σ} (h : P s)
    (fields : List Text) (field : Text) (place : Place) : P (g.scan fields field place s).2 := by
  fun_induction g.scan fields field place s with
  | case1 fields field place s e t hr => exact hk.of_read h hr
  | case2 fields field place s t hr => exact hk.of_read h hr
  | case3 fields field s c t hr hq e u hr2 => exact hk.of_read (hk.of_read h hr) hr2
  | case4 fields field s c t hr hq u hr2 => exact hk.of_read (hk.of_read h hr) hr2
  | case5 fields field s t c u hr2 hr hq ih => exact ih (hk.of_read (hk.of_read h hr) hr2)
  | case6 fields field s c t hr hq x u hr2 hx ih => exact ih (hk.putBack (hk.of_read h hr) hr2)
  | case7 fields field s c t hr hq ih => exact ih (hk.of_read h hr)
  | case8 fields field place s c t hr hplace hopen ih => exact ih (hk.of_read h hr)
  | case9 fields field place s c t hr hplace hopen e he => exact hk.probe h hr
  | case10 fields field place s c t hr hplace hopen he => exact hk.probe h hr
  | case11 fields field place s c t hr hplace hopen he ih => exact ih (hk.probe h hr)
  | case12 fields field place s c t hr hplace hopen he hp => exact hk.probe h hr
  | case13 fields field place s c t hr hplace hopen he next hp ih => exact ih (hk.probe h hr)

/-- The next record of a parser. -/
theorem Parser.keeps_next {p : Parser} (hk : p.grammar.delimiters.Keeps P) {s : σ} (h : P s) :
    P (p.next s).2.2 := by
  have hscan := Grammar.keeps_scan hk h [] [] .start
  unfold Parser.next
  split
  · exact h
  · rcases hs : p.grammar.scan [] [] .start s with ⟨record | (_ | record) | fault | _, t⟩ <;>
      rwa [hs] at hscan

namespace RowReader

/-- The reader **upholds** a property of its source, with these delimiters. -/
structure Upholds (d : Delimiters) (P : σ → Prop) (r : RowReader σ) : Prop where
  delimiters_eq : r.parser.grammar.delimiters = d
  source : P r.source

namespace Upholds

variable {r : RowReader σ}

/-- After the next record of the parser. -/
theorem of_next (h : Upholds d P r) (hk : d.Keeps P) {p : Parser} {s : σ}
    {answer : Except Error (Option Record)} (hnext : r.parser.next r.source = (answer, p, s)) :
    p.grammar.delimiters = d ∧ P s := by
  obtain ⟨rfl, hsource⟩ := h
  have hs := Parser.keeps_next hk hsource
  rw [hnext] at hs
  exact ⟨by rw [Parser.grammar_of_next hnext], hs⟩

/-- Looking for a mark. -/
theorem stripMark (h : Upholds d P r) (hk : d.Keeps P) : Upholds d P r.stripMark.2 := by
  unfold RowReader.stripMark
  rcases hr : CharSource.read r.source with ⟨e | _ | c, s⟩
  · exact ⟨h.delimiters_eq, hk.of_read h.source hr⟩
  · exact ⟨h.delimiters_eq, hk.of_read h.source hr⟩
  · dsimp only
    split
    · exact ⟨h.delimiters_eq, hk.of_read h.source hr⟩
    · exact ⟨h.delimiters_eq, hk.putBack h.source hr⟩

/-- Dropping a row. -/
theorem skipRow (h : Upholds d P r) (hk : d.Keeps P) : Upholds d P r.skipRow.2 := by
  obtain ⟨rfl, hsource⟩ := h
  -- newlines are allowed in a row that is dropped
  exact ⟨rfl, Parser.keeps_next
    (p := { r.parser with grammar := { r.parser.grammar with newlines := .preserve } }) hk hsource⟩

/-- The next record that is not left out. -/
theorem nextRecord (h : Upholds d P r) (hk : d.Keeps P) : Upholds d P r.nextRecord.2 := by
  fun_induction RowReader.nextRecord r with
  | case1 r e p s hnext =>
    obtain ⟨hd, hs⟩ := h.of_next hk hnext
    exact ⟨hd, hs⟩
  | case2 r p s hnext =>
    obtain ⟨hd, hs⟩ := h.of_next hk hnext
    exact ⟨hd, hs⟩
  | case3 r record p s hnext hskip ih =>
    obtain ⟨hd, hs⟩ := h.of_next hk hnext
    exact ih ⟨hd, hs⟩
  | case4 r record p s hnext hskip =>
    obtain ⟨hd, hs⟩ := h.of_next hk hnext
    exact ⟨hd, hs⟩

/-- Reading a header. -/
theorem readHeader (h : Upholds d P r) (hk : d.Keeps P) : Upholds d P r.readHeader.2 := by
  have hnext := h.nextRecord hk
  unfold RowReader.readHeader
  rcases hr : r.nextRecord with ⟨e | _ | record, t⟩ <;> rw [hr] at hnext <;> exact hnext

/-- Reading a data row. -/
theorem readRow (h : Upholds d P r) (hk : d.Keeps P) : Upholds d P r.readRow.2 := by
  have hnext := h.nextRecord hk
  unfold RowReader.readRow
  rcases hr : r.nextRecord with ⟨e | _ | record, t⟩ <;> rw [hr] at hnext
  · exact hnext
  · exact hnext
  · exact ⟨hnext.delimiters_eq, hnext.source⟩

end Upholds

/-- **A call** keeps the property. -/
theorem Call.Made.upholds {call : Call σ} (hmade : call.Made) (hk : d.Keeps P)
    (h : Upholds d P call.before) : Upholds d P call.after := by
  cases hmade with
  | stripMark r => exact h.stripMark hk
  | skipRow r => exact h.skipRow hk
  | readHeader r => exact h.readHeader hk
  | readRow r => exact h.readRow hk

/-- **A sequence of calls** keeps the property. -/
theorem Trace.upholds {r t : RowReader σ} {calls : List (Call σ)} (htrace : Trace r calls t)
    (hk : d.Keeps P) (h : Upholds d P r) : Upholds d P t := by
  induction htrace with
  | nil r => exact h
  | cons hmade rest ih => exact ih (hmade.upholds hk h)

end RowReader

end Delimited
