import Delimited.Stream.Source

set_option autoImplicit false
set_option relaxedAutoImplicit false

/-!
# Delimiters

A column delimiter separates the fields of a record, a row delimiter ends the record. Both may have
several characters, and one may begin like the other, so a reader has to look ahead before it knows
whether a character begins a delimiter.

## Main definitions

* `Delimited.Delimiters` — a row and a column delimiter, neither empty.
* `Delimited.Delimiters.probe` — whether a character just read begins a delimiter.

## Main results

* `Delimited.Delimiters.remaining_probe` — a probe takes exactly the delimiter from the source.
-/

namespace Delimited

open CharSource

/-- A pair of **delimiters**. -/
structure Delimiters where
  row : Text
  column : Text
  row_ne : row ≠ []
  column_ne : column ≠ []

namespace Delimiters

/-- The delimiters, if neither is empty. -/
def ofTexts? (row column : Text) : Option Delimiters :=
  if h : row ≠ [] ∧ column ≠ [] then some ⟨row, column, h.1, h.2⟩ else none

/-- What a character just read turns out to be. -/
inductive Hit where
  /-- Ordinary data. -/
  | data
  /-- The start of a row delimiter. -/
  | row
  /-- The start of a column delimiter. -/
  | column
  deriving DecidableEq, Repr

/-- How many characters after the first one have to be seen. -/
def lookahead (d : Delimiters) : Nat :=
  max d.row.length d.column.length - 1

/-- The delimiter with which a text begins. Of two the longer one counts, and of two equally long
ones the row delimiter. -/
def leading? (d : Delimiters) (text : Text) : Option Hit :=
  if d.row.isPrefixOf text ∧ ¬(d.column.isPrefixOf text ∧ d.row.length < d.column.length) then
    some .row
  else if d.column.isPrefixOf text then some .column
  else none

/-- The length of what was found; ordinary data is one character. -/
def hitLength (d : Delimiters) : Hit → Nat
  | .data => 1
  | .row => d.row.length
  | .column => d.column.length

/-- What was hit is not empty. -/
theorem hitLength_pos (d : Delimiters) (hit : Hit) : 0 < d.hitLength hit := by
  cases hit with
  | data => exact Nat.one_pos
  | row => exact List.length_pos_iff.2 d.row_ne
  | column => exact List.length_pos_iff.2 d.column_ne

/-- The outcome of a probe. -/
structure Probe (σ : Type) where
  /-- What the first character turned out to be, unless reading ahead failed. -/
  hit : Except IoFault Hit
  /-- How many characters were used, the first one included. -/
  consumed : Nat
  /-- The source after them. -/
  source : σ

variable {σ : Type} [CharSource σ]

/-- Probes for a delimiter that begins with `first`, which was just read from `source`. Characters
are read ahead only if `first` begins a delimiter, and those that do not belong to it are pushed
back. At the end of the input, the start of a row delimiter counts as a whole one. -/
def probe (d : Delimiters) (first : Char) (source : σ) : Probe σ :=
  if d.row.head? ≠ some first ∧ d.column.head? ≠ some first then ⟨.ok .data, 1, source⟩
  else
    match readUpTo d.lookahead source with
    | ((_, some fault), rest) => ⟨.error fault, 1, rest⟩
    | ((ahead, none), rest) =>
      match d.leading? (first :: ahead) with
      | some hit =>
        ⟨.ok hit, d.hitLength hit, unread ((first :: ahead).drop (d.hitLength hit)) rest⟩
      | none =>
        if ahead.length < d.lookahead ∧ (first :: ahead).length < d.row.length ∧
            (first :: ahead).isPrefixOf d.row then
          ⟨.ok .row, (first :: ahead).length, rest⟩
        else ⟨.ok .data, 1, unread ahead rest⟩

/-- The delimiter with which a text begins is no longer than the text. -/
theorem hitLength_le_of_leading? {d : Delimiters} {text : Text} {hit : Hit}
    (h : d.leading? text = some hit) : d.hitLength hit ≤ text.length := by
  rw [leading?] at h
  split at h
  · next hrow =>
    cases h
    exact (List.isPrefixOf_iff_prefix.1 hrow.1).length_le
  · split at h
    · next hcol =>
      cases h
      exact (List.isPrefixOf_iff_prefix.1 hcol).length_le
    · cases h

/-- A probe uses at least the first character. -/
theorem consumed_probe_pos (d : Delimiters) (first : Char) (source : σ) :
    0 < (d.probe first source).consumed := by
  rw [probe]
  split
  · exact Nat.one_pos
  · split
    · exact Nat.one_pos
    · split
      · next hit _ => exact d.hitLength_pos hit
      · split
        · exact Nat.succ_pos _
        · exact Nat.one_pos

/-- A probe that succeeds takes exactly the characters it used: the first one, which had been read
before, and the others from the source. -/
theorem remaining_probe {d : Delimiters} {first : Char} {source : σ} {hit : Hit}
    (h : (d.probe first source).hit = .ok hit) :
    remaining (d.probe first source).source + (d.probe first source).consumed =
      remaining source + 1 := by
  rw [probe] at h ⊢
  split
  · rfl
  · next hhead =>
    rw [if_neg hhead] at h
    have hread := remaining_readUpTo d.lookahead source
    split
    · next hfail => simp [hfail] at h
    · next ahead rest hok =>
      simp only [hok, Option.isSome_none, Bool.false_eq_true, if_false, Nat.add_zero] at hread
      split
      · next found hlead =>
        have hle := hitLength_le_of_leading? hlead
        simp only [remaining_unread, List.length_drop]
        simp only [List.length_cons] at hle ⊢
        omega
      · split
        · simp only [List.length_cons]
          omega
        · simp only [remaining_unread]
          omega

/-- A probe never leaves more to read than there was. -/
theorem remaining_probe_le (d : Delimiters) (first : Char) (source : σ) :
    remaining (d.probe first source).source ≤ remaining source := by
  cases h : (d.probe first source).hit with
  | ok hit =>
    have h1 := remaining_probe h
    have h2 := consumed_probe_pos d first source
    omega
  | error e =>
    rw [probe] at h ⊢
    split
    · exact Nat.le_refl _
    · next hhead =>
      rw [if_neg hhead] at h
      have hread := remaining_readUpTo d.lookahead source
      split
      · next hfail =>
        simp only [hfail] at hread
        simp only
        omega
      · next hok =>
        simp only [hok] at h
        split at h
        · simp at h
        · split at h <;> simp at h

end Delimiters

end Delimited
