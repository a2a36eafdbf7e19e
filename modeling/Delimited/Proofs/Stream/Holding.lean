import Delimited.Stream.Source

set_option autoImplicit false
set_option relaxedAutoImplicit false

/-!
# Sources that never fail

A source none of whose reads fails behaves like the text that it still holds: every read gives the
first character of that text, and what is pushed back comes first again. Statements about such
sources are therefore proved about texts.

## Main definitions

* `Delimited.Holds` — a source that holds a text and never fails.

## Main results

* `Delimited.Holds.read_nil`, `Delimited.Holds.read_cons` — one read.
* `Delimited.Holds.readUpTo` — reading ahead takes characters from the front of the text.
* `Delimited.Holds.readAll` — reading everything gives the text.
-/

namespace Delimited

open CharSource

/-- The source **holds** the text: that is what is still to be read, and no read will fail. -/
structure Holds {σ : Type} [CharSource σ] (s : σ) (text : Text) : Prop where
  content_eq : content s = text
  faults_eq : faults s = 0

namespace Holds

variable {σ : Type} [CharSource σ] {s : σ} {text : Text}

/-- A text holds itself. -/
theorem refl (text : Text) : Holds text text := ⟨rfl, rfl⟩

/-- The only text that holds a text is that text. -/
theorem eq_text {s text : Text} (h : Holds s text) : s = text := h.content_eq

/-- What is left of a source is the length of the text. -/
theorem remaining_eq (h : Holds s text) : remaining s = text.length := by
  rw [remaining, h.content_eq, h.faults_eq, Nat.add_zero]

/-- Pushing characters back puts them in front of the text. -/
theorem unread (h : Holds s text) (xs : Text) : Holds (unread xs s) (xs ++ text) := by
  refine ⟨?_, ?_⟩
  · rw [content_unread, h.content_eq]
  · rw [faults_unread, h.faults_eq]

/-! ## One read -/

/-- No read of the source fails. -/
theorem read_ne_error {e : IoFault} {t : σ} (h : Holds s text) : read s ≠ (.error e, t) := by
  intro hr
  have := (read_error hr).2
  rw [h.faults_eq] at this
  omega

/-- The end of the source is met when the text is used up. -/
theorem of_read_none {t : σ} (h : Holds s text) (hr : read s = (.ok none, t)) :
    text = [] ∧ Holds t [] := by
  obtain ⟨hs, ht, hf⟩ := read_none hr
  exact ⟨h.content_eq ▸ hs, ht, hf ▸ h.faults_eq⟩

/-- A character that is read is the first one of the text. -/
theorem of_read_some {c : Char} {t : σ} (h : Holds s text) (hr : read s = (.ok (some c), t)) :
    ∃ cs, text = c :: cs ∧ Holds t cs := by
  obtain ⟨hc, hf⟩ := read_some hr
  exact ⟨content t, h.content_eq ▸ hc, rfl, hf ▸ h.faults_eq⟩

/-- A source that holds nothing is at its end. -/
theorem read_nil (h : Holds s []) : ∃ t, read s = (.ok none, t) ∧ Holds t [] := by
  rcases hr : read s with ⟨e | _ | c, t⟩
  · exact absurd hr h.read_ne_error
  · exact ⟨t, rfl, (h.of_read_none hr).2⟩
  · obtain ⟨cs, hcs, -⟩ := h.of_read_some hr
    cases hcs

/-- A source that holds a character gives it. -/
theorem read_cons {c : Char} (h : Holds s (c :: text)) :
    ∃ t, read s = (.ok (some c), t) ∧ Holds t text := by
  rcases hr : read s with ⟨e | _ | x, t⟩
  · exact absurd hr h.read_ne_error
  · cases (h.of_read_none hr).1
  · obtain ⟨cs, hcs, ht⟩ := h.of_read_some hr
    obtain ⟨rfl, rfl⟩ := List.cons.inj hcs
    exact ⟨t, rfl, ht⟩

/-- Reading ahead takes characters from the front of the text. -/
theorem readUpTo (h : Holds s text) (n : Nat) :
    ∃ t, readUpTo n s = ((text.take n, none), t) ∧ Holds t (text.drop n) := by
  induction n generalizing s text with
  | zero => exact ⟨s, by simp [CharSource.readUpTo], by simpa using h⟩
  | succ n ih =>
    cases text with
    | nil =>
      obtain ⟨t, hr, ht⟩ := h.read_nil
      exact ⟨t, by simp [CharSource.readUpTo, hr], by simpa using ht⟩
    | cons c cs =>
      obtain ⟨t, hr, ht⟩ := h.read_cons
      obtain ⟨u, hu, hd⟩ := ih ht
      exact ⟨u, by simp [CharSource.readUpTo, hr, hu], by simpa using hd⟩

/-! ## Reading everything -/

/-- Reading on to the end gives the text after what was read before. -/
theorem readAllAfter (h : Holds s text) (done : Text) :
    (CharSource.readAllAfter done s).1 = (done.reverse ++ text, none) := by
  fun_induction CharSource.readAllAfter done s generalizing text with
  | case1 done s c t hr ih =>
    obtain ⟨cs, rfl, ht⟩ := h.of_read_some hr
    rw [ih ht, List.reverse_cons, List.append_assoc]
    rfl
  | case2 done s t hr =>
    rw [(h.of_read_none hr).1, List.append_nil]
  | case3 done s e t hr => exact absurd hr h.read_ne_error

/-- **Reading everything** gives the text. -/
theorem readAll (h : Holds s text) : (CharSource.readAll s).1 = (text, none) :=
  h.readAllAfter []

end Holds

end Delimited
