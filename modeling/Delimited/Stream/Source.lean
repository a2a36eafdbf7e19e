import Delimited.Error

set_option autoImplicit false
set_option relaxedAutoImplicit false

/-!
# Character sources

A character source is read one character at a time, and characters may be pushed back to be read
again. What matters about it is its content, the characters that are still to be read: reading takes
one from the front, pushing back puts some in front, and a read that fails loses nothing.

## Main definitions

* `Delimited.CharSource` — sources, with the laws that tie reading to the content.
* `Delimited.CharSource.readUpTo`, `Delimited.CharSource.readAll` — reading several characters.

A text is itself a source, and is its own content.
-/

namespace Delimited

/-- A **character source** with push-back. -/
class CharSource (σ : Type) where
  /-- The next character, or none at the end of the input, and the source after that. -/
  read : σ → Except IoFault (Option Char) × σ
  /-- Pushes characters back so that they are read next, in their order. -/
  unread : Text → σ → σ
  /-- The characters still to be read. -/
  content : σ → Text
  /-- The number of reads that will fail before the end of the input. -/
  faults : σ → Nat
  content_unread : ∀ (xs : Text) (s : σ), content (unread xs s) = xs ++ content s
  faults_unread : ∀ (xs : Text) (s : σ), faults (unread xs s) = faults s
  /-- Reading takes the character at the front. -/
  read_some : ∀ {s t : σ} {c : Char}, read s = (.ok (some c), t) →
    content s = c :: content t ∧ faults s = faults t
  /-- The end of the input is reached when nothing is left. -/
  read_none : ∀ {s t : σ}, read s = (.ok none, t) →
    content s = [] ∧ content t = [] ∧ faults s = faults t
  /-- A failing read loses no character. -/
  read_error : ∀ {s t : σ} {e : IoFault}, read s = (.error e, t) →
    content s = content t ∧ faults s = faults t + 1

namespace CharSource

/-- A text in memory is a source. -/
instance : CharSource Text where
  read
    | [] => (.ok none, [])
    | c :: cs => (.ok (some c), cs)
  unread xs s := xs ++ s
  content s := s
  faults _ := 0
  content_unread _ _ := rfl
  faults_unread _ _ := rfl
  read_some {s t c} h := by
    cases s with
    | nil => simp at h
    | cons x xs =>
      simp only [Prod.mk.injEq, Except.ok.injEq, Option.some.injEq] at h
      simp [h]
  read_none {s t} h := by
    cases s with
    | nil => simpa using h
    | cons x xs => simp at h
  read_error {s t e} h := by
    cases s <;> simp at h

variable {σ : Type} [CharSource σ]

/-! ## What is left -/

/-- A bound for the number of reads that give a character or fail. -/
def remaining (s : σ) : Nat :=
  (content s).length + faults s

/-- Characters that are put back are left again. -/
theorem remaining_unread (xs : Text) (s : σ) :
    remaining (unread xs s) = xs.length + remaining s := by
  simp [remaining, content_unread, faults_unread, Nat.add_assoc]

/-- Reading a character uses it up. -/
theorem remaining_read_some {s t : σ} {c : Char} (h : read s = (.ok (some c), t)) :
    remaining s = remaining t + 1 := by
  have := read_some h
  simp only [remaining, this, List.length_cons]
  omega

/-- The end of the input uses up nothing. -/
theorem remaining_read_none {s t : σ} (h : read s = (.ok none, t)) :
    remaining s = remaining t := by
  simp [remaining, read_none h]

/-- A failure counts as one character. -/
theorem remaining_read_error {s t : σ} {e : IoFault} (h : read s = (.error e, t)) :
    remaining s = remaining t + 1 := by
  have := read_error h
  simp only [remaining, this]
  omega

/-! ## Reading ahead -/

/-- The next `n` characters, or those before the end of the input or a failing read, and that
failure. -/
def readUpTo : Nat → σ → (Text × Option IoFault) × σ
  | 0, s => (([], none), s)
  | n + 1, s =>
    match read s with
    | (.ok (some c), t) =>
      let ((cs, fault), u) := readUpTo n t
      ((c :: cs, fault), u)
    | (.ok none, t) => (([], none), t)
    | (.error e, t) => (([], some e), t)

/-- What is read ahead is the front of the content. -/
theorem content_readUpTo (n : Nat) (s : σ) :
    content s = (readUpTo n s).1.1 ++ content (readUpTo n s).2 := by
  induction n generalizing s with
  | zero => simp [readUpTo]
  | succ n ih =>
    rw [readUpTo]
    split
    · next c t h => simp [(read_some h).1, ← ih t]
    · next t h => simp [read_none h]
    · next e t h => simp [read_error h]

/-- Reading ahead uses up at most the failures it meets. -/
theorem faults_readUpTo (n : Nat) (s : σ) :
    faults s = faults (readUpTo n s).2 + if (readUpTo n s).1.2.isSome then 1 else 0 := by
  induction n generalizing s with
  | zero => simp [readUpTo]
  | succ n ih =>
    rw [readUpTo]
    split
    · next c t h => rw [(read_some h).2, ih t]
    · next t h => simp [read_none h]
    · next e t h => simp [read_error h]

/-- What is left is reduced by the characters read ahead, and by a failure. -/
theorem remaining_readUpTo (n : Nat) (s : σ) :
    remaining s = (readUpTo n s).1.1.length + remaining (readUpTo n s).2 +
      if (readUpTo n s).1.2.isSome then 1 else 0 := by
  simp only [remaining, congrArg List.length (content_readUpTo n s), faults_readUpTo n s,
    List.length_append]
  omega

/-- No more characters are read ahead than asked for. -/
theorem length_readUpTo (n : Nat) (s : σ) : (readUpTo n s).1.1.length ≤ n := by
  induction n generalizing s with
  | zero => simp [readUpTo]
  | succ n ih =>
    rw [readUpTo]
    split
    · next c t h => simpa using ih t
    · next t h => simp
    · next e t h => simp

/-! ## Reading everything -/

/-- The rest of a source after the characters `done`, the latest first, up to the end of the input
or the first failing read, and that failure. -/
def readAllAfter (done : Text) (s : σ) : (Text × Option IoFault) × σ :=
  match _h : read s with
  | (.ok (some c), t) => readAllAfter (c :: done) t
  | (.ok none, t) => ((done.reverse, none), t)
  | (.error e, t) => ((done.reverse, some e), t)
termination_by (content s).length
decreasing_by simp [(read_some _h).1]

/-- The rest of a source up to the end of the input or the first failing read, and that failure. -/
def readAll (s : σ) : (Text × Option IoFault) × σ :=
  readAllAfter [] s

end CharSource

end Delimited
