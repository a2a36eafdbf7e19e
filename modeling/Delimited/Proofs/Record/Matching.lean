import Delimited.Charset.Coding
import Delimited.Matcher
import Delimited.Proofs.Record.Classify

set_option autoImplicit false
set_option relaxedAutoImplicit false

/-!
# What a matcher finds

Which delimiter a matcher finds is told by the text that begins with the character just read: the
longer one of those that begin the text, the row delimiter if they are equally long. Where neither
begins it, but the whole text begins the row delimiter, it counts as one. What is found is taken from
the source, and nothing else.

## Main results

* `Delimited.Matcher.probe_of_holds` — what a probe finds, uses and leaves.
-/

namespace Delimited

open Delimiters

namespace Matcher

variable {σ : Type} [CharSource σ]

/-- **What a matcher finds** in a source that never fails, where `t` is the text that begins with the
character just read. What it finds, how much of the text it uses and what it leaves is the same for
all matchers of these delimiters, whatever earlier probes left in them.

**Proof sketch.** The delimiters alone decide, and they classify the text. In each of the four cases
its class is known. -/
theorem probe_of_holds (d : Delimiters) {s : σ} {rest : Text} (h : Holds s rest) (first : Char) :
    let t := first :: rest
    ∃ (hit : Hit) (used : Nat) (left : σ),
      (∀ m : Matcher, m.delimiters = d →
        ∃ buffer, m.probe first s = (.ok hit, ⟨d, buffer, used⟩, left)) ∧
      Holds left (t.drop used) ∧
      (d.row <+: t → ¬(d.column <+: t ∧ d.row.length < d.column.length) →
        hit = .row ∧ used = d.row.length) ∧
      (d.column <+: t → ¬d.row <+: t ∨ d.row.length < d.column.length →
        hit = .column ∧ used = d.column.length) ∧
      (¬d.row <+: t → ¬d.column <+: t → t <+: d.row → hit = .row ∧ used = t.length) ∧
      (¬d.row <+: t → ¬d.column <+: t → ¬t <+: d.row → hit = .data ∧ used = 1) := by
  intro t
  obtain ⟨left, hprobe, hleft⟩ := h.probe d first
  have hclass : ∀ {hit used}, d.classify t = (hit, used) →
      (d.classify t).1 = hit ∧ (d.classify t).2 = used := by
    intro hit used hclass
    rw [hclass]
    exact ⟨rfl, rfl⟩
  refine ⟨(d.classify t).1, (d.classify t).2, left, ?_, hleft, ?_, ?_, ?_, ?_⟩
  · rintro m rfl
    obtain ⟨buffer, hm⟩ := m.probe_eq first s
    rw [hprobe] at hm
    exact ⟨buffer, hm⟩
  · intro hrow hcol
    exact hclass (classify_row hrow fun h => Nat.le_of_not_lt fun hlt => hcol ⟨h, hlt⟩)
  · intro hcol hrow
    exact hclass (classify_column hcol fun h => hrow.resolve_left (not_not_intro h))
  · intro hrow hcol hcut
    exact hclass (classify_cut hrow hcol hcut)
  · intro hrow hcol hcut
    exact hclass (classify_data hrow hcol hcut)

/-- The column delimiter begins the row delimiter. After a probe that found the column delimiter, the
same matcher finds the longer row delimiter, of which a part comes only after an interruption. -/
theorem probe_of_holds_carets :
    let d : Delimiters := ⟨['^', '|', '\n'], ['^', '|'], by decide, by decide⟩
    let m : Matcher := ((Matcher.ofDelimiters d).probe '^' ['|', 'x']).2.1
    let s : TextReader Charset.utf8.decoder :=
      .ofReader [.chunk [0x7C], .interrupt, .chunk [0x0A, 0x7A]]
    Holds s ['|', '\n', 'z'] ∧ m.buffer = ['^', '|', 'x'] ∧
      ∃ buffer left, m.probe '^' s = (.ok .row, ⟨d, buffer, 3⟩, left) ∧ Holds left ['z'] := by
  intro d m s
  have hs : Holds s ['|', '\n', 'z'] :=
    ByteReader.Delivers.holds (.chunk (by decide) (.interrupt (.chunk (by decide) .nil))) _
  obtain ⟨hit, n, left, hprobe, hleft, hrow, -⟩ := probe_of_holds d hs '^'
  obtain ⟨rfl, rfl⟩ := hrow (by decide) (by decide)
  obtain ⟨buffer, hfound⟩ := hprobe m rfl
  exact ⟨hs, rfl, buffer, left, hfound, hleft⟩

end Matcher

end Delimited
