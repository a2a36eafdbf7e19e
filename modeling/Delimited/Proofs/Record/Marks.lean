import Delimited.Proofs.Record.Records

set_option autoImplicit false
set_option relaxedAutoImplicit false

/-!
# Where the characters of a field come from

The records of a text can be told from its pieces alone: they are the pieces between row delimiters,
and their fields are the pieces between column delimiters. Told this way, each character of a field
can be marked with the place in the text from which it was taken, if it was taken outside quotes.
What becomes of a newline depends on nothing but these marks.

## Main definitions

* `Delimited.Mark` — a character of a field that knows where it was taken outside quotes.
* `Delimited.Grammar.markedRecords` — the records of a text with their marks.
* `Delimited.Mark.spaced` — a field in which newlines outside quotes became spaces.
* `Delimited.NewlinePolicy.shown` — what a policy makes of a field.

## Main results

* `Delimited.Mark.spaced_concat` — what a further character does to such a field.
* `Delimited.Grammar.getElem?_of_mem_markedRecords` — a mark tells where its character stands.
* `Delimited.Grammar.markedRecords_withNewlines` — marks do not depend on the newline policy.
-/

namespace Delimited

open Grammar

/-- A **mark**: a character of a field, and where in the text it was taken, if that was outside
quotes. -/
structure Mark where
  char : Char
  /-- Where in the text the character stands, if it stands outside quotes. -/
  position : Option Nat
  deriving DecidableEq, Repr

/-! ## Newlines outside quotes -/

namespace Mark

/-- Whether this is a newline outside quotes. -/
def isNewline (m : Mark) : Bool :=
  m.char = '\n' && m.position.isSome

/-- Whether this is a carriage return outside quotes. -/
def isReturn (m : Mark) : Bool :=
  m.char = '\r' && m.position.isSome

/-- Whether this is a carriage return and the next character a newline, both outside quotes, and the
newline comes right after the return in the text. -/
def joins (m next : Mark) : Bool :=
  m.isReturn && next.isNewline && next.position = m.position.map (· + 1)

/-- The characters of a field. -/
def plain (ms : List Mark) : Text :=
  ms.map char

/-- What a character becomes before another one where newlines outside quotes become spaces: a
carriage return goes with the newline that it joins. -/
def spacedBefore (m : Mark) (next : Option Mark) : Text :=
  if m.isNewline then [' '] else if next.any m.joins then [] else [m.char]

/-- A field in which each newline outside quotes became a **space**, together with a carriage return
outside quotes right before it. -/
def spaced : List Mark → Text
  | [] => []
  | m :: ms => m.spacedBefore ms.head? ++ spaced ms

/-- A mark that joins the next one is no newline itself. -/
theorem isNewline_eq_false_of_joins {m next : Mark} (h : m.joins next = true) :
    m.isNewline = false := by
  simp only [joins, isReturn, Bool.and_eq_true, decide_eq_true_eq] at h
  simp [isNewline, h.1.1.1]

/-- The last character of a field is never dropped. -/
theorem spacedBefore_none (m : Mark) :
    m.spacedBefore none = [if m.isNewline then ' ' else m.char] := by
  unfold spacedBefore
  split_ifs with hnewline hnext
  · rfl
  · cases hnext
  · rfl

/-- A field with a character is never empty. -/
theorem spaced_ne_nil {ms : List Mark} (h : ms ≠ []) : spaced ms ≠ [] := by
  induction ms with
  | nil => exact absurd rfl h
  | cons m ms ih =>
    rw [spaced]
    cases ms with
    | nil =>
      rw [List.head?_nil, spacedBefore_none]
      exact List.cons_ne_nil _ _
    | cons m' ms => exact List.append_ne_nil_of_right_ne_nil _ (ih (List.cons_ne_nil _ _))

/-- **A further character** comes last, as a space if it is a newline outside quotes; then a carriage
return that joins it is taken back. -/
theorem spaced_concat (ms : List Mark) (x : Mark) :
    spaced (ms ++ [x]) =
      (if ms.getLast?.any (·.joins x) then (spaced ms).dropLast else spaced ms) ++
        [if x.isNewline then ' ' else x.char] := by
  induction ms with
  | nil =>
    show x.spacedBefore none ++ [] = _
    rw [spacedBefore_none]
    rfl
  | cons m ms ih =>
    cases ms with
    | nil =>
      show m.spacedBefore (some x) ++ (x.spacedBefore none ++ []) =
        (if m.joins x then (m.spacedBefore none ++ []).dropLast else m.spacedBefore none ++ []) ++ _
      rw [spacedBefore_none, spacedBefore_none, List.append_nil, List.append_nil, spacedBefore]
      cases hjoins : m.joins x with
      | true =>
        rw [isNewline_eq_false_of_joins hjoins]
        simp [hjoins]
      | false => cases hnewline : m.isNewline <;> simp [hjoins]
    | cons m' ms =>
      have hne : spaced (m' :: ms) ≠ [] := spaced_ne_nil (List.cons_ne_nil _ _)
      have hlast : (m :: m' :: ms).getLast? = (m' :: ms).getLast? := by simp
      show m.spacedBefore (some m') ++ spaced (m' :: ms ++ [x]) =
        (if (m :: m' :: ms).getLast?.any (·.joins x) then
          (m.spacedBefore (some m') ++ spaced (m' :: ms)).dropLast
        else m.spacedBefore (some m') ++ spaced (m' :: ms)) ++ _
      rw [ih, hlast, List.dropLast_append_of_ne_nil hne]
      split_ifs <;> simp only [List.append_assoc]

end Mark

/-- What a newline policy **makes of a field**, as far as it allows the field at all. -/
def NewlinePolicy.shown (policy : NewlinePolicy) (ms : List Mark) : Text :=
  match policy with
  | .space => Mark.spaced ms
  | .preserve | .reject => Mark.plain ms

/-- Whether a record holds a newline outside quotes. -/
def holdsNewline (record : List (List Mark)) : Bool :=
  record.any (·.any Mark.isNewline)

/-! ## Records from pieces -/

namespace Piece

/-- What a piece that stands at a position adds to its field. -/
def marks (keepQuotes : Bool) (n : Nat) : Piece → List Mark
  | opening q | closing q => if keepQuotes then [⟨q, none⟩] else []
  | quoted c => [⟨c, none⟩]
  | doubled q => if keepQuotes then [⟨q, none⟩, ⟨q, none⟩] else [⟨q, none⟩]
  | plain c => [⟨c, some n⟩]
  | column | row | cutRow _ => []

/-- Pieces with their positions, of which the first is `n`. -/
def located (d : Delimiters) : Nat → List Piece → List (Nat × Piece)
  | _, [] => []
  | n, piece :: pieces => (n, piece) :: located d (n + (piece.text d).length) pieces

end Piece

namespace Grammar

variable (g : Grammar)

/-- The fields of a record that consists of these pieces: what stands between column delimiters. -/
def markedFields (pieces : List (Nat × Piece)) : List (List Mark) :=
  (pieces.splitOnP fun piece => piece.2 = .column).map fun field =>
    field.flatMap fun piece => piece.2.marks g.keepQuotes piece.1

/-- What stands between row delimiters, and what comes after the last one. -/
def rowParts (pieces : List (Nat × Piece)) : List (List (Nat × Piece)) :=
  pieces.splitOnP fun piece => piece.2.endsRecord

/-- The pieces of each record: what stands between row delimiters. Where nothing comes after the last
one, there is no record either. -/
def recordPieces (pieces : List (Nat × Piece)) : List (List (Nat × Piece)) :=
  if (rowParts pieces).getLast? = some [] then (rowParts pieces).dropLast else rowParts pieces

/-- The **marked records** of a text that begins at position `n`. -/
def markedRecords (n : Nat) (text : Text) : List (List (List Mark)) :=
  (recordPieces (Piece.located g.delimiters n (g.pieces .start text))).map g.markedFields

/-! ## Positions -/

/-- What stands in a part of a list stands in the list. -/
theorem mem_of_mem_splitOnP {α : Type} {p : α → Bool} {xs part : List α} {x : α}
    (hpart : part ∈ xs.splitOnP p) (hx : x ∈ part) : x ∈ xs := by
  induction xs generalizing part with
  | nil =>
    obtain rfl : part = [] := by simpa [List.splitOnP_nil] using hpart
    exact hx
  | cons y ys ih =>
    rw [List.splitOnP_cons_eq_if_modifyHead] at hpart
    split_ifs at hpart
    · rcases List.mem_cons.1 hpart with rfl | hpart
      · cases hx
      · exact List.mem_cons_of_mem _ (ih hpart hx)
    · obtain ⟨first, others, hparts⟩ := List.exists_cons_of_ne_nil (List.splitOnP_ne_nil p ys)
      rw [hparts] at hpart ih
      rcases List.mem_cons.1 hpart with rfl | hpart
      · rcases List.mem_cons.1 hx with rfl | hx
        · exact List.mem_cons_self
        · exact List.mem_cons_of_mem _ (ih List.mem_cons_self hx)
      · exact List.mem_cons_of_mem _ (ih (List.mem_cons_of_mem _ hpart) hx)

variable {g}

/-- A character that is taken outside quotes at a position stands there in the text. -/
theorem getElem?_of_mem_located {n k : Nat} {place : Place} {text : Text} {c : Char}
    (h : (k, .plain c) ∈ Piece.located g.delimiters n (g.pieces place text)) :
    ∃ i, k = n + i ∧ text[i]? = some c := by
  fun_induction g.pieces place text generalizing n with
  | case1 place => cases h
  | case2 place x xs ih =>
    have happend := g.text_pieceAt_append place x xs
    rw [Piece.located] at h
    rcases List.mem_cons.1 h with hfirst | hrest
    · obtain ⟨rfl, hpiece⟩ := Prod.mk.inj hfirst
      rw [← hpiece] at happend
      exact ⟨0, rfl, by rw [← happend]; rfl⟩
    · obtain ⟨i, rfl, hi⟩ := ih hrest
      refine ⟨((g.pieceAt place x xs).text g.delimiters).length + i, Nat.add_assoc _ _ _, ?_⟩
      rw [← happend, List.getElem?_append_right (Nat.le_add_right _ _), Nat.add_sub_cancel_left]
      exact hi

/-- **Marks are true**: a character that was taken outside quotes stands in the text where its mark
says. -/
theorem getElem?_of_mem_markedRecords {n i : Nat} {text : Text} {record : List (List Mark)}
    {field : List Mark} {m : Mark} (hrecord : record ∈ g.markedRecords n text)
    (hfield : field ∈ record) (hm : m ∈ field) (hi : m.position = some (n + i)) :
    text[i]? = some m.char := by
  obtain ⟨pieces, hpieces, rfl⟩ := List.mem_map.1 hrecord
  obtain ⟨part, hpart, rfl⟩ := List.mem_map.1 hfield
  obtain ⟨⟨k, piece⟩, hpiece, hmarks⟩ := List.mem_flatMap.1 hm
  have hparts : pieces ∈ rowParts (Piece.located g.delimiters n (g.pieces .start text)) := by
    unfold recordPieces at hpieces
    split_ifs at hpieces
    · exact (List.dropLast_sublist _).subset hpieces
    · exact hpieces
  have hmem : (k, piece) ∈ Piece.located g.delimiters n (g.pieces .start text) :=
    mem_of_mem_splitOnP hparts (mem_of_mem_splitOnP hpart hpiece)
  have hplain : piece = .plain m.char ∧ k = n + i := by
    have hquoted : ∀ c : Char, m ≠ ⟨c, none⟩ := by
      rintro c rfl
      cases hi
    dsimp only at hmarks
    unfold Piece.marks at hmarks
    cases piece with
    | plain c =>
      obtain rfl := List.mem_singleton.1 hmarks
      exact ⟨rfl, Option.some.inj hi⟩
    | _ =>
      exfalso
      revert hmarks
      cases g.keepQuotes <;> simp [hquoted]
  obtain ⟨rfl, rfl⟩ := hplain
  obtain ⟨j, hj, hchar⟩ := getElem?_of_mem_located hmem
  obtain rfl : i = j := Nat.add_left_cancel hj
  exact hchar

/-! ## Other policies -/

variable (g)

/-- The grammar with another newline policy. -/
def withNewlines (policy : NewlinePolicy) : Grammar :=
  { g with newlines := policy }

/-- What the pieces of a text are does not depend on the newline policy. -/
theorem pieces_withNewlines (policy : NewlinePolicy) (place : Place) (text : Text) :
    (g.withNewlines policy).pieces place text = g.pieces place text := by
  fun_induction g.pieces place text with
  | case1 place => exact pieces_nil _ place
  | case2 place c cs ih =>
    rw [pieces_cons]
    exact congrArg _ ih

/-- **Marks do not depend on the newline policy.** -/
theorem markedRecords_withNewlines (policy : NewlinePolicy) (n : Nat) (text : Text) :
    (g.withNewlines policy).markedRecords n text = g.markedRecords n text := by
  unfold markedRecords
  rw [pieces_withNewlines]
  rfl

end Grammar

end Delimited
