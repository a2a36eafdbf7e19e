import Delimited.Dialect
import Delimited.Proofs.Escape.Syntax

set_option autoImplicit false
set_option relaxedAutoImplicit false

/-!
# Writing settings

Every text can be written as a setting: its backslashes are doubled, and its line breaks and tabs are
shown as escapes. Each character is then written as one unit of the escape syntax, whatever comes
after it, so that no unit begins in one character and ends in the next.

## Main definitions

* `Delimited.Escape.doubled` — a text with its backslashes doubled.

## Main results

* `Delimited.Escape.takes_printable` — each character is written as one unit.
* `Delimited.Escape.expand_printable_doubled` — what is written is read back.
-/

namespace Delimited.Escape

/-- The text with each backslash **doubled**. -/
def doubled (text : Text) : Text :=
  text.flatMap fun c => if c = '\\' then ['\\', '\\'] else [c]

/-- A text without backslashes is its own doubling. -/
theorem doubled_of_not_mem {text : Text} (h : '\\' ∉ text) : doubled text = text := by
  induction text with
  | nil => rfl
  | cons c cs ih =>
    obtain ⟨hc, hcs⟩ := not_or.1 (List.mem_cons.not.1 h)
    show (if c = '\\' then ['\\', '\\'] else [c]) ++ doubled cs = c :: cs
    rw [if_neg (Ne.symm hc), ih hcs, List.singleton_append]

/-- A text is written character by character. -/
theorem printable_doubled_cons (c : Char) (text : Text) :
    printable (doubled (c :: text)) = printable (doubled [c]) ++ printable (doubled text) := by
  simp [printable, doubled, List.flatMap_append]

variable {names : Naming}

/-- **Each character is written as one unit**, which stands for it before any text. -/
theorem takes_printable (c : Char) (rest : Text) :
    Takes names (printable (doubled [c]) ++ rest) [c] rest := by
  by_cases hcontrol : c = '\n' ∨ c = '\r' ∨ c = '\t' ∨ c = '\\'
  · rcases hcontrol with rfl | rfl | rfl | rfl
    · exact .newline
    · exact .carriageReturn
    · exact .tab
    · exact .other (by decide)
  · have hwritten : printable (doubled [c]) = [c] := by
      simp_all [printable, doubled, shown]
    rw [hwritten]
    exact .plain (by simp_all)

/-- So by the syntax a written text stands for itself, whichever codes there are.

**Proof sketch.** Induction on the text. The unit of the first character ends where what is written
for the others begins. -/
theorem expands_printable (text : Text) : Expands names (printable (doubled text)) text := by
  induction text with
  | nil => exact .nil
  | cons c cs ih =>
    rw [printable_doubled_cons]
    exact .cons (takes_printable c _) ih

/-- **Every text can be written as a setting.** With its backslashes doubled and its control
characters shown, it is expanded to itself; without backslashes it need not be doubled; and unless it
is empty, it can be given as a delimiter this way. -/
theorem expand_printable_doubled (text : Text) (what : String) :
    expand (printable (doubled text)) = text ∧
      ('\\' ∉ text → expand (printable text) = text) ∧
      (text ≠ [] → delimiterOfSetting (printable (doubled text)) what = .ok text) := by
  have hexpand : expand (printable (doubled text)) = text := (expands_printable text).eq_expand.symm
  refine ⟨hexpand, fun hplain => ?_, fun hne => ?_⟩
  · rw [doubled_of_not_mem hplain] at hexpand
    exact hexpand
  · unfold delimiterOfSetting
    rw [hexpand]
    cases text with
    | nil => exact absurd rfl hne
    | cons c cs => rfl

/-- A text that looks like escapes is read back as it is, and so is one of control characters that is
not doubled. -/
theorem expand_printable_doubled_escapes :
    let escapes : Text := ['\\', 'n', '\n', '\\', 'u', '0', '0', '4', '1', '\\']
    let controls : Text := ['\r', 'n', '\t', '\n']
    expand (printable (doubled escapes)) = escapes ∧ escapes ≠ [] ∧
      delimiterOfSetting (printable (doubled escapes)) "row delimiter" = .ok escapes ∧
      '\\' ∉ controls ∧ expand (printable controls) = controls := by
  intro escapes controls
  obtain ⟨hexpand, -, hsetting⟩ := expand_printable_doubled escapes "row delimiter"
  obtain ⟨-, hplain, -⟩ := expand_printable_doubled controls "row delimiter"
  exact ⟨hexpand, by decide, hsetting (by decide), by decide, hplain (by decide)⟩

end Delimited.Escape
