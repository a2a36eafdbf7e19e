import Delimited.Delimiters

set_option autoImplicit false
set_option relaxedAutoImplicit false

/-!
# Matchers

A matcher probes for one pair of delimiters again and again. It collects the characters at which it
looks in a buffer of its own, and remembers how many of them the latest probe used.

## Main definitions

* `Delimited.Matcher` — delimiters with a buffer.
* `Delimited.Matcher.probe` — one probe.

## Main results

* `Delimited.Matcher.probe_eq` — a probe finds what the delimiters alone decide.
-/

namespace Delimited

open CharSource Delimiters

/-- A **matcher**. -/
structure Matcher where
  delimiters : Delimiters
  /-- The characters at which the latest probe looked, among those probes that looked ahead. -/
  buffer : Text
  /-- How many characters the latest probe used, the first one included. -/
  consumed : Nat

namespace Matcher

/-- A matcher that has probed for nothing. -/
def ofDelimiters (delimiters : Delimiters) : Matcher := ⟨delimiters, [], 0⟩

variable {σ : Type} [CharSource σ]

/-- Probes for a delimiter that begins with `first`, which was just read from `s`. The buffer is
emptied only by a probe that looks ahead; what no longer belongs to the delimiter is pushed back
from it. -/
def probe (m : Matcher) (first : Char) (s : σ) : Except IoFault Hit × Matcher × σ :=
  let m := { m with consumed := 1 }
  if m.delimiters.row.head? ≠ some first ∧ m.delimiters.column.head? ≠ some first then
    (.ok .data, m, s)
  else
    let m := { m with buffer := [first] }
    let (ahead, t) := readUpTo m.delimiters.lookahead s
    let m := { m with buffer := m.buffer ++ ahead.1 }
    match ahead.2 with
    | some fault => (.error fault, m, t)
    | none =>
      match m.delimiters.leading? m.buffer with
      | some hit =>
        (.ok hit, { m with consumed := m.delimiters.hitLength hit },
          unread (m.buffer.drop (m.delimiters.hitLength hit)) t)
      | none =>
        if ahead.1.length < m.delimiters.lookahead ∧
            m.buffer.length < m.delimiters.row.length ∧ m.buffer.isPrefixOf m.delimiters.row then
          (.ok .row, { m with consumed := m.buffer.length }, t)
        else (.ok .data, m, unread (m.buffer.drop 1) t)

/-- **The delimiters decide** what a probe finds, how much it uses and what it leaves; what earlier
probes left in the matcher does not matter. -/
theorem probe_eq (m : Matcher) (first : Char) (s : σ) :
    ∃ buffer, m.probe first s =
      ((m.delimiters.probe first s).hit,
        ⟨m.delimiters, buffer, (m.delimiters.probe first s).consumed⟩,
        (m.delimiters.probe first s).source) := by
  unfold probe Delimiters.probe
  dsimp only
  split
  · exact ⟨m.buffer, rfl⟩
  · rcases readUpTo m.delimiters.lookahead s with ⟨⟨ahead, fault | _⟩, t⟩
    · dsimp only [List.singleton_append]
      cases m.delimiters.leading? (first :: ahead) with
      | some hit => exact ⟨first :: ahead, rfl⟩
      | none =>
        dsimp only
        split
        · exact ⟨first :: ahead, rfl⟩
        · exact ⟨first :: ahead, rfl⟩
    · exact ⟨[first] ++ ahead, rfl⟩

end Matcher

end Delimited
