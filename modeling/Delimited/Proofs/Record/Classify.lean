import Delimited.Delimiters
import Delimited.Proofs.Stream.Offering

set_option autoImplicit false
set_option relaxedAutoImplicit false

/-!
# What a text begins with

Whether a text begins with a delimiter is decided by the text alone. A probe of a source that never
fails decides exactly that, and takes from the source exactly the delimiter. A probe of a source that
may fail does so too, unless a read fails.

## Main definitions

* `Delimited.Delimiters.classify` — what a text begins with, and how long that is.

## Main results

* `Delimited.Delimiters.classify_row`, `Delimited.Delimiters.classify_column`,
  `Delimited.Delimiters.classify_cut`, `Delimited.Delimiters.classify_data` — when a text begins with
  a delimiter, when it is the start of one, and when it begins with data.
* `Delimited.Holds.probe` — a probe classifies the text from its first character on.
* `Delimited.Offers.probe` — a probe does what it does with the text, unless a read fails.
-/

namespace Delimited

open CharSource

namespace Delimiters

variable {d : Delimiters} {text : Text}

/-- What a text begins with, and how many characters that takes: the delimiter that counts, the
start of a row delimiter with which the text ends, or a character of data. -/
def classify (d : Delimiters) (text : Text) : Hit × Nat :=
  match d.leading? text with
  | some hit => (hit, d.hitLength hit)
  | none =>
    if text.length < d.row.length ∧ text.isPrefixOf d.row then (.row, text.length) else (.data, 1)

/-! ## The delimiter that counts -/

/-- A row delimiter counts unless a longer column delimiter stands at the same place. -/
theorem leading?_eq_row (hrow : d.row <+: text)
    (hcol : d.column <+: text → d.column.length ≤ d.row.length) : d.leading? text = some .row := by
  rw [leading?, if_pos]
  refine ⟨List.isPrefixOf_iff_prefix.2 hrow, ?_⟩
  rintro ⟨h, hlt⟩
  have := hcol (List.isPrefixOf_iff_prefix.1 h)
  omega

/-- A column delimiter counts unless a row delimiter that is as long stands at the same place. -/
theorem leading?_eq_column (hcol : d.column <+: text)
    (hrow : d.row <+: text → d.row.length < d.column.length) :
    d.leading? text = some .column := by
  rw [leading?, if_neg, if_pos (List.isPrefixOf_iff_prefix.2 hcol)]
  rintro ⟨h, hn⟩
  exact hn ⟨List.isPrefixOf_iff_prefix.2 hcol, hrow (List.isPrefixOf_iff_prefix.1 h)⟩

/-- No delimiter counts where none stands. -/
theorem leading?_eq_none (hrow : ¬d.row <+: text) (hcol : ¬d.column <+: text) :
    d.leading? text = none := by
  rw [leading?, if_neg, if_neg]
  · rwa [List.isPrefixOf_iff_prefix]
  · rintro ⟨h, -⟩
    exact hrow (List.isPrefixOf_iff_prefix.1 h)

/-- A text is classified as a row delimiter that stands there, unless a longer column delimiter
does. -/
theorem classify_row (hrow : d.row <+: text)
    (hcol : d.column <+: text → d.column.length ≤ d.row.length) :
    d.classify text = (.row, d.row.length) := by
  rw [classify, leading?_eq_row hrow hcol]
  rfl

/-- A text is classified as a column delimiter that stands there, unless a row delimiter that is as
long does. -/
theorem classify_column (hcol : d.column <+: text)
    (hrow : d.row <+: text → d.row.length < d.column.length) :
    d.classify text = (.column, d.column.length) := by
  rw [classify, leading?_eq_column hcol hrow]
  rfl

/-- A text where no delimiter stands, and which does not end inside a row delimiter, is classified
as data. -/
theorem classify_data (hrow : ¬d.row <+: text) (hcol : ¬d.column <+: text)
    (hcut : ¬text <+: d.row) : d.classify text = (.data, 1) := by
  rw [classify, leading?_eq_none hrow hcol]
  dsimp only
  rw [if_neg]
  rintro ⟨-, h⟩
  exact hcut (List.isPrefixOf_iff_prefix.1 h)

/-- A text where no delimiter stands, and which is the start of a row delimiter, is classified as one. -/
theorem classify_cut (hrow : ¬d.row <+: text) (hcol : ¬d.column <+: text) (hcut : text <+: d.row) :
    d.classify text = (.row, text.length) := by
  have hshort : text.length < d.row.length := by
    refine Nat.lt_of_le_of_ne hcut.length_le fun hlength => hrow ?_
    have hwhole : text = d.row := hcut.eq_of_length hlength
    exact hwhole ▸ List.prefix_rfl
  rw [classify, leading?_eq_none hrow hcol]
  exact if_pos ⟨hshort, List.isPrefixOf_iff_prefix.2 hcut⟩

/-- What a text is classified as stands at its front: a whole delimiter, the start of a row
delimiter that is all of the text, or one character. -/
theorem classify_cases (d : Delimiters) (c : Char) (cs : Text) :
    (d.classify (c :: cs) = (.row, d.row.length) ∧ d.row <+: c :: cs) ∨
      (d.classify (c :: cs) = (.column, d.column.length) ∧ d.column <+: c :: cs) ∨
      (d.classify (c :: cs) = (.row, (c :: cs).length) ∧ c :: cs <+: d.row ∧
        (c :: cs).length < d.row.length) ∨
      d.classify (c :: cs) = (.data, 1) := by
  by_cases hrow : d.row <+: c :: cs
  · by_cases hcol : d.column <+: c :: cs ∧ d.row.length < d.column.length
    · exact Or.inr (Or.inl ⟨classify_column hcol.1 fun _ => hcol.2, hcol.1⟩)
    · exact Or.inl ⟨classify_row hrow fun h => Nat.le_of_not_lt fun hlt => hcol ⟨h, hlt⟩, hrow⟩
  · by_cases hcol : d.column <+: c :: cs
    · exact Or.inr (Or.inl ⟨classify_column hcol fun h => absurd h hrow, hcol⟩)
    · refine Or.inr (Or.inr ?_)
      rw [classify, leading?_eq_none hrow hcol]
      dsimp only
      split
      · next h => exact Or.inl ⟨rfl, List.isPrefixOf_iff_prefix.1 h.2, h.1⟩
      · exact Or.inr rfl

/-! ## Probing -/

/-- Reading ahead shows enough of a text to see a delimiter that is not too long. -/
theorem isPrefixOf_take {e : Text} (he : e.length ≤ d.lookahead + 1) (c : Char) (cs : Text) :
    e.isPrefixOf (c :: cs.take d.lookahead) = e.isPrefixOf (c :: cs) := by
  have hshown : c :: cs.take d.lookahead = (c :: cs).take (d.lookahead + 1) := rfl
  rw [hshown, Bool.eq_iff_iff, List.isPrefixOf_iff_prefix, List.isPrefixOf_iff_prefix,
    List.prefix_take_iff, and_iff_left he]

/-- Reading ahead shows enough of a text to see which delimiter counts. -/
theorem leading?_take (d : Delimiters) (c : Char) (cs : Text) :
    d.leading? (c :: cs.take d.lookahead) = d.leading? (c :: cs) := by
  have hrow : d.row.length ≤ d.lookahead + 1 := by
    unfold lookahead
    omega
  have hcol : d.column.length ≤ d.lookahead + 1 := by
    unfold lookahead
    omega
  rw [leading?, leading?, isPrefixOf_take hrow, isPrefixOf_take hcol]

/-- A text with another first character than a text does not begin it. -/
theorem not_isPrefix_of_head {e cs : Text} {c : Char} (hne : e ≠ []) (hhead : e.head? ≠ some c) :
    ¬e <+: c :: cs := by
  rintro ⟨t, ht⟩
  cases e with
  | nil => exact hne rfl
  | cons x xs => exact hhead (by rw [List.head?_cons, (List.cons.inj ht).1])

/-- A character with which no delimiter begins is data. -/
theorem classify_of_head {c : Char} (cs : Text) (hrow : d.row.head? ≠ some c)
    (hcol : d.column.head? ≠ some c) : d.classify (c :: cs) = (.data, 1) := by
  apply classify_data
  · exact not_isPrefix_of_head d.row_ne hrow
  · exact not_isPrefix_of_head d.column_ne hcol
  · rintro ⟨t, ht⟩
    rw [← ht] at hrow
    exact hrow rfl

end Delimiters

/-- **A probe of a source that never fails** classifies the text that begins with the character just
read, and leaves the text without what it took.

**Proof sketch.** A probe that reads ahead sees `lookahead` characters after the first one, or all
if the text is shorter. Neither delimiter is longer than what it sees, so looking at that part
decides which delimiter counts; and a part that is a proper prefix of the row delimiter is all of
the text. -/
theorem Holds.probe {σ : Type} [CharSource σ] {s : σ} {cs : Text} (h : Holds s cs)
    (d : Delimiters) (c : Char) :
    ∃ t, d.probe c s = ⟨.ok (d.classify (c :: cs)).1, (d.classify (c :: cs)).2, t⟩ ∧
      Holds t ((c :: cs).drop (d.classify (c :: cs)).2) := by
  rw [Delimiters.probe]
  split
  · next hhead =>
    rw [Delimiters.classify_of_head cs hhead.1 hhead.2]
    exact ⟨s, rfl, h⟩
  · obtain ⟨t, hread, ht⟩ := h.readUpTo d.lookahead
    have hsplit : cs.take d.lookahead ++ cs.drop d.lookahead = cs := List.take_append_drop _ _
    rw [hread]
    simp only [Delimiters.leading?_take]
    cases hlead : d.leading? (c :: cs) with
    | some hit =>
      have hclass : d.classify (c :: cs) = (hit, d.hitLength hit) := by
        rw [Delimiters.classify, hlead]
      rw [hclass]
      refine ⟨_, rfl, ?_⟩
      have hle : d.hitLength hit ≤ (c :: cs.take d.lookahead).length :=
        Delimiters.hitLength_le_of_leading? (by rw [Delimiters.leading?_take, hlead])
      have := ht.unread ((c :: cs.take d.lookahead).drop (d.hitLength hit))
      rwa [← List.drop_append_of_le_length hle, List.cons_append, hsplit] at this
    | none =>
      rw [Delimiters.classify, hlead]
      dsimp only
      by_cases hshort : cs.length < d.lookahead
      · -- the part that was read ahead is all of the text
        rw [List.take_of_length_le (Nat.le_of_lt hshort),
          List.drop_eq_nil_of_le (Nat.le_of_lt hshort)] at *
        split
        · next hcut =>
          rw [if_pos hcut.2]
          exact ⟨t, rfl, by simpa using ht⟩
        · next hcut =>
          rw [if_neg fun hc => hcut ⟨hshort, hc⟩]
          exact ⟨_, rfl, by simpa using ht.unread cs⟩
      · rw [if_neg, if_neg]
        · refine ⟨_, rfl, ?_⟩
          have := ht.unread (cs.take d.lookahead)
          rwa [hsplit] at this
        · rintro ⟨hlt, -⟩
          simp only [Delimiters.lookahead, List.length_cons] at hshort hlt
          omega
        · rintro ⟨hlt, -⟩
          rw [List.length_take] at hlt
          omega

/-- **A probe of a source** finds what it finds in the text that the source offers, unless a read
fails. -/
theorem Offers.probe {σ : Type} [CharSource σ] {sound : Prop} {s : σ} {cs : Text}
    (h : Offers sound s cs) (d : Delimiters) (c : Char) :
    (∃ e, (d.probe c s).hit = .error e ∧ ¬sound) ∨
      ((d.probe c s).hit = (d.probe c cs).hit ∧
        Offers sound (d.probe c s).source (d.probe c cs).source) := by
  obtain ⟨u, hu, hrest⟩ := (Holds.refl cs).readUpTo d.lookahead
  rw [hrest.eq_text] at hu
  unfold Delimiters.probe
  split
  · exact Or.inr ⟨rfl, h⟩
  · rw [hu]
    rcases h.readUpTo d.lookahead with ⟨seen, e, t, heq, hfails⟩ | ⟨t, heq, ht⟩
    · rw [heq]
      exact Or.inl ⟨e, rfl, hfails⟩
    · rw [heq]
      right
      dsimp only
      cases d.leading? (c :: cs.take d.lookahead) with
      | some hit => exact ⟨rfl, ht.unread _⟩
      | none =>
        dsimp only
        split
        · exact ⟨rfl, ht⟩
        · exact ⟨rfl, ht.unread _⟩

end Delimited
