import Delimited.Proofs.Record.Records
import Delimited.Record.RowReader

set_option autoImplicit false
set_option relaxedAutoImplicit false

/-!
# Reading from sources that may fail

A row reader before a source does what it does before the text that the source offers, step by step,
up to the first read that fails. That read is reported as an error.

## Main definitions

* `Delimited.InStep` — two answers that are the same, unless the first one is an error.
* `Delimited.RowReader.Mirrors` — a reader before a source, and the same one before a text.

## Main results

* `Delimited.Offers.next` — the next record of a parser.
* `Delimited.RowReader.Mirrors.readRow` — the next row of a reader, and likewise for the other steps
  of reading.
-/

namespace Delimited

open CharSource

/-- Two answers are **in step**: they are the same, and what they leave behind is in one relation;
or the first one is an error, and what they leave behind is in the other relation. -/
def InStep {ε α A B : Type} (same fails : A → B → Prop) (a : Except ε α × A) (b : Except ε α × B) :
    Prop :=
  (∃ answer x y, a = (answer, x) ∧ b = (answer, y) ∧ same x y) ∨
    ∃ e x answer y, a = (.error e, x) ∧ b = (answer, y) ∧ fails x y

/-- Answers of which the first one is an error are in step. -/
theorem InStep.of_error {ε α A B : Type} {same fails : A → B → Prop} {a : Except ε α × A}
    {b : Except ε α × B} {e : ε} {x : A} (ha : a = (.error e, x)) (h : fails x b.2) :
    InStep same fails a b :=
  Or.inr ⟨e, x, b.1, b.2, ha, rfl, h⟩

/-- Where the first answer is no error, the second one is the same. -/
theorem InStep.of_ok {ε α A B : Type} {same fails : A → B → Prop} {a : Except ε α × A}
    {b : Except ε α × B} {found : α} {x : A} (h : InStep same fails a b)
    (ha : a = (.ok found, x)) : ∃ y, b = (.ok found, y) ∧ same x y := by
  rcases h with ⟨answer, x', y, rfl, hb, hsame⟩ | ⟨e, x', answer, y, rfl, -, -⟩
  · cases ha
    exact ⟨y, hb, hsame⟩
  · cases ha

variable {σ : Type} [CharSource σ] {sound : Prop}

/-! ## Parsers -/

namespace Offers

variable {s : σ} {text : Text}

/-- **The next record** is that of the text, unless a read fails. -/
theorem next (h : Offers sound s text) (p : Parser) :
    InStep (fun x y => x.1 = y.1 ∧ Offers sound x.2 y.2) (fun _ _ => ¬sound)
      (p.next s) (p.next text) := by
  unfold Parser.next
  split
  · exact Or.inl ⟨_, _, _, rfl, rfl, rfl, h⟩
  · have hscan := h.scan p.grammar [] [] .start
    rcases hs : p.grammar.scan [] [] .start s with ⟨o, t⟩
    rcases htext : p.grammar.scan [] [] .start text with ⟨o', rest⟩
    rw [hs, htext] at hscan
    rcases hscan with ⟨e, rfl, hfails⟩ | ⟨rfl, hrest⟩
    · exact Or.inr ⟨_, _, _, _, rfl, rfl, hfails⟩
    · rcases o with r | (_ | r) | e | _ <;> exact Or.inl ⟨_, _, _, rfl, rfl, rfl, hrest⟩

/-- **Dropping a record** goes as it does with the text, unless a read fails. -/
theorem skip (h : Offers sound s text) (p : Parser) :
    InStep (fun x y => x.1 = y.1 ∧ Offers sound x.2 y.2) (fun _ _ => ¬sound)
      (p.skip s) (p.skip text) := by
  unfold Parser.skip
  dsimp only
  rcases h.next { p with grammar := { p.grammar with newlines := .preserve } } with
    ⟨answer, ⟨q, t⟩, ⟨-, rest⟩, hs, htext, rfl, hrest⟩ | ⟨e, x, answer, y, hs, htext, hfails⟩
  · rw [hs, htext]
    exact Or.inl ⟨_, _, _, rfl, rfl, rfl, hrest⟩
  · rw [hs, htext]
    exact Or.inr ⟨_, _, _, _, rfl, rfl, hfails⟩

end Offers

/-! ## Row readers -/

namespace RowReader

/-- A reader before a source **mirrors** one before the text that the source offers: apart from
these they are the same. -/
inductive Mirrors (sound : Prop) : RowReader σ → RowReader Text → Prop
  | mk {s : σ} {text : Text} (h : Offers sound s text) (parser : Parser)
      (columnCheck : Option ColumnCheck) (skipEmptyRows : Bool) (rowCount emptyRows : Nat) :
      Mirrors sound ⟨s, parser, columnCheck, skipEmptyRows, rowCount, emptyRows⟩
        ⟨text, parser, columnCheck, skipEmptyRows, rowCount, emptyRows⟩

variable {r : RowReader σ} {t : RowReader Text}

/-- Looking for a mark. -/
theorem Mirrors.stripMark (h : r.Mirrors sound t) :
    InStep (Mirrors sound) (fun _ _ => ¬sound) r.stripMark t.stripMark := by
  obtain ⟨h, parser, columnCheck, skipEmptyRows, rowCount, emptyRows⟩ := h
  rename_i s text
  unfold RowReader.stripMark
  dsimp only
  rcases hr : read s with ⟨e | _ | c, u⟩
  · exact Or.inr ⟨_, _, _, _, rfl, rfl, h.not_sound hr⟩
  · obtain ⟨rfl, hu⟩ := h.of_read_none hr
    exact Or.inl ⟨_, _, _, rfl, rfl, hu, _, _, _, _, _⟩
  · obtain ⟨cs, rfl, hu⟩ := h.of_read_some hr
    left
    by_cases hc : c = byteOrderMark
    · exact ⟨_, _, _, if_pos hc, if_pos hc, hu, _, _, _, _, _⟩
    · exact ⟨_, _, _, if_neg hc, if_neg hc, hu.unread [c], _, _, _, _, _⟩

/-- Dropping a row. -/
theorem Mirrors.skipRow (h : r.Mirrors sound t) :
    InStep (Mirrors sound) (fun _ _ => ¬sound) r.skipRow t.skipRow := by
  obtain ⟨h, parser, columnCheck, skipEmptyRows, rowCount, emptyRows⟩ := h
  unfold RowReader.skipRow
  dsimp only
  rcases h.skip parser with
    ⟨answer, ⟨q, u⟩, ⟨-, rest⟩, hs, htext, rfl, hrest⟩ | ⟨e, x, answer, y, hs, htext, hfails⟩
  · rw [hs, htext]
    exact Or.inl ⟨_, _, _, rfl, rfl, hrest, _, _, _, _, _⟩
  · rw [hs, htext]
    exact Or.inr ⟨_, _, _, _, rfl, rfl, hfails⟩

/-- The next record that is not left out.

**Proof sketch.** Induction on what is left of the text. A record that is left out is left out by
both readers, and less of the text is left after it. -/
theorem Mirrors.nextRecord (h : r.Mirrors sound t) :
    InStep (Mirrors sound) (fun _ _ => ¬sound) r.nextRecord t.nextRecord := by
  induction hn : remaining t.source using Nat.strongRecOn generalizing r t with
  | _ n ih =>
    obtain ⟨h, parser, columnCheck, skipEmptyRows, rowCount, emptyRows⟩ := h
    rw [nextRecord_eq, nextRecord_eq]
    dsimp only at hn ⊢
    rcases h.next parser with
      ⟨answer, ⟨q, u⟩, ⟨-, rest⟩, hs, htext, rfl, hrest⟩ | ⟨e, x, answer, y, hs, htext, hfails⟩
    · rw [hs, htext]
      rcases answer with e | _ | record
      · exact Or.inl ⟨_, _, _, rfl, rfl, hrest, _, _, _, _, _⟩
      · exact Or.inl ⟨_, _, _, rfl, rfl, hrest, _, _, _, _, _⟩
      · dsimp only
        split
        · exact ih _ (hn ▸ Parser.remaining_lt_of_next htext) ⟨hrest, _, _, _, _, _⟩ rfl
        · exact Or.inl ⟨_, _, _, rfl, rfl, hrest, _, _, _, _, _⟩
    · rw [hs]
      exact Or.inr ⟨_, _, _, _, rfl, rfl, hfails⟩

/-- Reading a header. -/
theorem Mirrors.readHeader (h : r.Mirrors sound t) :
    InStep (Mirrors sound) (fun _ _ => ¬sound) r.readHeader t.readHeader := by
  unfold RowReader.readHeader
  rcases h.nextRecord with
    ⟨answer, x, y, hr, ht, hsame⟩ | ⟨e, x, answer, y, hr, ht, hfails⟩
  · rw [hr, ht]
    rcases answer with e | _ | record
    · exact Or.inl ⟨_, _, _, rfl, rfl, hsame⟩
    · exact Or.inl ⟨_, _, _, rfl, rfl, hsame⟩
    · obtain ⟨h, parser, columnCheck, skipEmptyRows, rowCount, emptyRows⟩ := hsame
      exact Or.inl ⟨_, _, _, rfl, rfl, h, _, _, _, _, _⟩
  · rw [hr]
    exact Or.inr ⟨_, _, _, _, rfl, rfl, hfails⟩

/-- Reading a data row. -/
theorem Mirrors.readRow (h : r.Mirrors sound t) :
    InStep (Mirrors sound) (fun _ _ => ¬sound) r.readRow t.readRow := by
  unfold RowReader.readRow
  rcases h.nextRecord with
    ⟨answer, x, y, hr, ht, hsame⟩ | ⟨e, x, answer, y, hr, ht, hfails⟩
  · rw [hr, ht]
    rcases answer with e | _ | record
    · exact Or.inl ⟨_, _, _, rfl, rfl, hsame⟩
    · exact Or.inl ⟨_, _, _, rfl, rfl, hsame⟩
    · obtain ⟨h, parser, columnCheck, skipEmptyRows, rowCount, emptyRows⟩ := hsame
      exact Or.inl ⟨_, _, _, rfl, rfl, h, _, _, _, _, _⟩
  · rw [hr]
    exact Or.inr ⟨_, _, _, _, rfl, rfl, hfails⟩

end RowReader

end Delimited
