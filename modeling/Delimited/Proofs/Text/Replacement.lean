import Delimited.Escape
import Delimited.Processor
import Mathlib.Tactic.Common

set_option autoImplicit false
set_option relaxedAutoImplicit false

/-!
# Replacing parts of a text

Two functions of the library are replacements of fixed patterns, carried out one after another over
the whole text: control characters become escapes, and newlines become spaces. Both are defined in
one pass over the characters; here they are shown to be those replacements.

## Main definitions

* `Delimited.replaced` — a text in which each occurrence of a pattern is replaced.

## Main results

* `Delimited.Escape.printable_eq_replaced` — three replacements show control characters.
* `Delimited.Processor.spaced_eq_replaced` — two replacements turn newlines into spaces.
-/

namespace Delimited

/-- The text in which each occurrence of the pattern `first :: more`, found from left to right, is
**replaced**. What was put in is not searched again. -/
def replaced (first : Char) (more replacement : Text) : Text → Text
  | [] => []
  | c :: rest =>
    if first = c ∧ more <+: rest then
      replacement ++ replaced first more replacement (rest.drop more.length)
    else c :: replaced first more replacement rest
termination_by text => text.length
decreasing_by
  · simp only [List.length_drop, List.length_cons]
    omega
  · simp only [List.length_cons]
    omega

/-- A single character is replaced wherever it stands. -/
theorem replaced_single (c : Char) (replacement text : Text) :
    replaced c [] replacement text =
      text.flatMap fun x => if c = x then replacement else [x] := by
  induction text with
  | nil => rw [replaced, List.flatMap_nil]
  | cons x xs ih =>
    rw [replaced, List.flatMap_cons, List.length_nil, List.drop_zero, ih]
    by_cases hc : c = x <;> simp [hc]

/-! ## Control characters -/

/-- **Showing control characters** is replacing newlines, carriage returns and tabs by their escapes,
one kind after another. None of the escapes holds a character that is replaced later. -/
theorem Escape.printable_eq_replaced (text : Text) :
    printable text =
      replaced '\t' [] ['\\', 't'] (replaced '\r' [] ['\\', 'r']
        (replaced '\n' [] ['\\', 'n'] text)) := by
  simp only [replaced_single, List.flatMap_assoc, printable]
  congr 1
  funext c
  by_cases hn : c = '\n'
  · subst hn
    decide
  · by_cases hr : c = '\r'
    · subst hr
      decide
    · by_cases ht : c = '\t'
      · subst ht
        decide
      · simp [shown, Ne.symm hn, Ne.symm hr, Ne.symm ht]

/-! ## Newlines -/

namespace Processor

/-- Without a newline there is nothing to replace. -/
theorem spaced_of_not_mem {text : Text} (h : '\n' ∉ text) : spaced text = text := by
  fun_induction spaced text with
  | case1 rest ih => simp at h
  | case2 rest ih => simp at h
  | case3 c rest hpair hnewline ih =>
    rw [ih fun hmem => h (List.mem_cons_of_mem _ hmem)]
  | case4 => rfl

/-- Newlines with a carriage return before them are replaced first, then those that are left. -/
theorem replaced_replaced_eq_spaced (text : Text) :
    replaced '\n' [] [' '] (replaced '\r' ['\n'] [' '] text) = spaced text := by
  fun_induction spaced text with
  | case1 rest ih =>
    rw [replaced, if_pos (by simp), ← ih]
    simp [replaced_single]
  | case2 rest ih =>
    rw [replaced, if_neg (by simp), ← ih]
    simp [replaced_single]
  | case3 c rest hpair hnewline ih =>
    have hc : ¬('\r' = c ∧ ['\n'] <+: rest) := by
      rintro ⟨rfl, more, rfl⟩
      exact hpair more rfl rfl
    have hother : '\n' ≠ c := fun h => hnewline h.symm
    rw [replaced, if_neg hc, ← ih]
    simp [replaced_single, hother]
  | case4 => rw [replaced, replaced]

/-- **Turning newlines into spaces** is replacing them, those after a carriage return first, in a
text that holds one at all. -/
theorem spaced_eq_replaced (text : Text) :
    spaced text =
      if '\n' ∈ text then replaced '\n' [] [' '] (replaced '\r' ['\n'] [' '] text) else text := by
  split_ifs with h
  · exact (replaced_replaced_eq_spaced text).symm
  · exact spaced_of_not_mem h

end Processor

end Delimited
