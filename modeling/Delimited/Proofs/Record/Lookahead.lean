import Delimited.Proofs.Record.Records
import Mathlib.Data.List.Basic

set_option autoImplicit false
set_option relaxedAutoImplicit false

/-!
# How far a parser looks ahead

A parser reads beyond a record to tell a delimiter from the start of a longer one, and a quote from
the first of two. It never looks further than the longer delimiter reaches beyond its first
character, and it pushes back what does not belong to the record. So a record that a whole row
delimiter ends is the same, whatever comes after the characters that could be seen from there.

## Main definitions

* `Delimited.AgreeOn` — two texts that cannot be told apart by looking ahead.
* `Delimited.Grammar.EndsWithRow` — the first record of a text has a whole row delimiter.

## Main results

* `Delimited.Grammar.pieceAt_congr`, `Delimited.Grammar.pieceAt_append_congr` — the first piece of a
  text depends on what can be seen.
* `Delimited.Grammar.scan_append_of_agreeOn` — so does a record, by induction on its pieces.
* `Delimited.Parser.next_of_agreeOn` — the same record is found in front of another rest.
-/

namespace Delimited

open Grammar

/-! ## Texts that agree -/

/-- Two texts **agree on** their first `n` characters, which both of them have. -/
structure AgreeOn (n : Nat) (s t : Text) : Prop where
  le_left : n ≤ s.length
  le_right : n ≤ t.length
  take_eq : s.take n = t.take n

/-- With the same text in front they still agree, even on more characters than that. -/
theorem AgreeOn.append {n : Nat} {s t : Text} (h : AgreeOn n s t) (p : Text) :
    AgreeOn n (p ++ s) (p ++ t) := by
  refine ⟨?_, ?_, ?_⟩
  · rw [List.length_append]
    exact Nat.le_trans h.le_left (Nat.le_add_left _ _)
  · rw [List.length_append]
    exact Nat.le_trans h.le_right (Nat.le_add_left _ _)
  · have hle : n - p.length ≤ n := Nat.sub_le _ _
    have hrest : s.take (n - p.length) = t.take (n - p.length) := by
      rw [← Nat.min_eq_left hle, ← List.take_take, ← List.take_take, h.take_eq]
    rw [List.take_append, List.take_append, hrest]

/-! ## One piece -/

/-- Where a probe sees all that it asks for, there is room for a whole row delimiter. -/
theorem Delimiters.length_row_le {d : Delimiters} {s : Text} (h : d.lookahead ≤ s.length)
    (c : Char) : d.row.length ≤ (c :: s).length := by
  unfold lookahead at h
  rw [List.length_cons]
  omega

/-- Texts that agree on what a probe can see begin with the same delimiter, or with none. -/
theorem Delimiters.classify_congr {d : Delimiters} {s t : Text} (h : AgreeOn d.lookahead s t)
    (c : Char) : d.classify (c :: s) = d.classify (c :: t) := by
  have hlead : d.leading? (c :: s) = d.leading? (c :: t) := by
    rw [← d.leading?_take c s, h.take_eq, d.leading?_take]
  have hleft := length_row_le h.le_left c
  have hright := length_row_le h.le_right c
  unfold classify
  rw [hlead, if_neg fun hcut => Nat.not_lt.2 hleft hcut.1,
    if_neg fun hcut => Nat.not_lt.2 hright hcut.1]

namespace Grammar

variable {g : Grammar} {fields : List Text} {field p s t text rest : Text} {place : Place} {c : Char}
  {r : Record}

/-- **The first piece** of a text depends on what a probe can see. Inside quotes it depends on the
next character, which may be further than that. -/
theorem pieceAt_congr (h : AgreeOn g.delimiters.lookahead s t)
    (hquoted : place = .quoted → s.head? = t.head?) :
    g.pieceAt place c s = g.pieceAt place c t := by
  unfold pieceAt
  by_cases hplace : place = .quoted
  · rw [if_pos hplace, if_pos hplace, hquoted hplace]
  · rw [if_neg hplace, if_neg hplace, ← Delimiters.classify_congr h c]
    rcases g.delimiters.classify_cases c s with ⟨hc, -⟩ | ⟨hc, -⟩ | ⟨-, -, hshort⟩ | hc
    · simp only [hc, if_true]
    · simp only [hc]
    -- there is room for a whole row delimiter, so none is cut short
    · exact absurd hshort (Nat.not_lt.2 (Delimiters.length_row_le h.le_left c))
    · simp only [hc]

/-- **The first piece stays the same** in front of another text, and so does what it leaves of the
text before that, if the two agree on what a probe can see. The piece must not reach into the text,
and inside quotes there must be a character between the two. -/
theorem pieceAt_append_congr (h : AgreeOn g.delimiters.lookahead s t)
    (hquoted : place = .quoted → p ≠ []) (hleft : s.length ≤ (g.restAt place c (p ++ s)).length) :
    g.pieceAt place c (p ++ s) = g.pieceAt place c (p ++ t) ∧
      ∃ u, g.restAt place c (p ++ s) = u ++ s ∧ g.restAt place c (p ++ t) = u ++ t := by
  have hhead : place = .quoted → (p ++ s).head? = (p ++ t).head? := by
    intro hplace
    obtain ⟨x, xs, rfl⟩ := List.exists_cons_of_ne_nil (hquoted hplace)
    rfl
  have hpiece := pieceAt_congr (c := c) (h.append p) hhead
  have happend := g.text_pieceAt_append place c (p ++ s)
  have happend' := g.text_pieceAt_append place c (p ++ t)
  rw [← hpiece] at happend'
  rw [← List.cons_append] at happend happend'
  refine ⟨hpiece, ?_⟩
  rcases List.append_eq_append_iff.1 happend with ⟨u, hp, hrest⟩ | ⟨u, hw, hs⟩
  · rw [hp, List.append_assoc] at happend'
    exact ⟨u, hrest, List.append_cancel_left happend'⟩
  -- the piece does not reach into `s`, so it is all of the text before it
  · have hnil : u = [] := by
      have hlength := congrArg List.length hs
      rw [List.length_append] at hlength
      exact List.length_eq_zero_iff.1 (by omega)
    subst hnil
    rw [List.append_nil] at hw
    rw [hw] at happend'
    exact ⟨[], hs.symm, List.append_cancel_left happend'⟩

/-! ## A record -/

/-- A record uses up some of the text. -/
theorem length_lt_of_scan (h : g.scan fields field place text = (.record r, rest)) :
    rest.length < text.length := by
  have hless := g.remaining_scan fields field place text
  rw [h, (Holds.refl _).remaining_eq, (Holds.refl _).remaining_eq] at hless
  rcases hless with hless | ⟨-, hended⟩
  · exact hless
  · cases hended

/-- **A record depends on what can be seen after it.** A scan that finds a record and leaves the text
after it finds the same record in front of another text, and leaves that text, if the two agree on
what a probe can see.

**Proof sketch.** Induction on the pieces of the text. The last piece is a row delimiter, so each
piece begins within the record and a probe for it sees no more of what follows than the two texts
share; and after a quote there is a further character of the record. -/
theorem scan_append_of_agreeOn (h : AgreeOn g.delimiters.lookahead s t)
    (hscan : g.scan fields field place (p ++ s) = (.record r, s)) :
    g.scan fields field place (p ++ t) = (.record r, t) := by
  generalize htext : p ++ s = text at hscan
  fun_induction g.pieces place text generalizing fields field p with
  | case1 place =>
    rw [g.scan_nil] at hscan
    cases hscan
  | case2 place c cs ih =>
    have hless := length_lt_of_scan hscan
    cases p with
    | nil =>
      rw [← htext, List.nil_append] at hless
      exact absurd hless (Nat.lt_irrefl _)
    | cons c' p =>
      obtain ⟨rfl, hcs⟩ := List.cons.inj htext
      have hcs : p ++ s = cs := hcs
      subst hcs
      rw [g.scan_cons] at hscan
      rw [List.cons_append, g.scan_cons]
      by_cases hends : (g.pieceAt place c' (p ++ s)).endsRecord = true
      · rw [if_pos hends] at hscan
        obtain ⟨hrecord, hrest⟩ := Prod.mk.inj hscan
        have hquoted : place = .quoted → p ≠ [] := fun h => absurd h (ne_quoted_of_endsRecord hends)
        have hleft : s.length ≤ (g.restAt place c' (p ++ s)).length := Nat.le_of_eq (by rw [hrest])
        obtain ⟨hpiece, u, hu, hu'⟩ := pieceAt_append_congr h hquoted hleft
        rw [hrest] at hu
        obtain rfl : u = [] := List.self_eq_append_left.1 hu
        rw [← hpiece, if_pos hends, hrecord, hu']
        rfl
      · rw [if_neg hends] at hscan
        have hmore : s.length < (g.restAt place c' (p ++ s)).length := by
          split at hscan
          · cases hscan
          · exact length_lt_of_scan hscan
        have hquoted : place = .quoted → p ≠ [] := by
          rintro - rfl
          have hless := g.length_restAt_lt place c' s
          rw [List.nil_append] at hmore
          rw [List.length_cons] at hless
          omega
        obtain ⟨hpiece, u, hu, hu'⟩ := pieceAt_append_congr h hquoted (Nat.le_of_lt hmore)
        rw [← hpiece, if_neg hends, hu']
        cases hextend : g.extend? fields field place (g.pieceAt place c' (p ++ s)) with
        | none =>
          rw [hextend] at hscan
          cases hscan
        | some next =>
          rw [hextend] at hscan
          exact ih hu.symm hscan

/-- The first record of a text **ends with a row delimiter**, and with a whole one. -/
def EndsWithRow (g : Grammar) (text : Text) : Prop :=
  (g.pieces .start text).find? Piece.endsRecord = some .row

/-- A record that ends with a piece of the text does not end with the text. -/
theorem scan_ne_ended {piece : Piece} {last : Option Record}
    (h : (g.pieces place text).find? Piece.endsRecord = some piece) :
    g.scan fields field place text ≠ (.ended last, rest) := by
  fun_induction g.pieces place text generalizing fields field with
  | case1 place => cases h
  | case2 place c cs ih =>
    rw [g.scan_cons]
    by_cases hends : (g.pieceAt place c cs).endsRecord = true
    · rw [if_pos hends]
      intro hscan
      cases hscan
    · rw [List.find?_cons_of_neg hends] at h
      rw [if_neg hends]
      cases g.extend? fields field place (g.pieceAt place c cs) with
      | none =>
        intro hscan
        cases hscan
      | some next => exact ih h

end Grammar

/-! ## Parsers -/

namespace Parser

/-- What a new parser gives first, and what it leaves, is what a scan of the text finds. -/
theorem next_start {σ : Type} [CharSource σ] {source : σ} {text : Text} (h : Holds source text)
    (g : Grammar) :
    ∃ left, Holds left (g.scan [] [] .start text).2 ∧
      (ofGrammar g).next source =
        match (g.scan [] [] .start text).1 with
        | .record r => (.ok (some r), ⟨g, 1, false⟩, left)
        | .ended (some r) => (.ok (some r), ⟨g, 1, true⟩, left)
        | .ended none => (.ok none, ⟨g, 0, true⟩, left)
        | .failed e => (.error (.stream e), ⟨g, 0, false⟩, left)
        | .newline => (.error (.unquotedNewline 1), ⟨g, 0, false⟩, left) := by
  obtain ⟨hfound, hleft⟩ := h.scan g [] [] .start
  refine ⟨_, hleft, ?_⟩
  show next ⟨g, 0, false⟩ source = _
  rw [← hfound, next, if_neg Bool.false_ne_true]
  dsimp only
  rcases g.scan [] [] .start source with ⟨r | (_ | r) | e | _, t⟩ <;> rfl

/-- **A record depends on the look-ahead alone.** If a new parser gives a record that a whole row
delimiter ends, and leaves the text `s` after it, then it gives the same record in front of every
text that agrees with `s` on the characters that the longer delimiter has after its first one, and
leaves exactly that text.

**Proof sketch.** The source is scanned like the text that it holds, and the scan of the text finds
the same record in front of the other text. -/
theorem next_of_agreeOn (g : Grammar) {σ τ : Type} [CharSource σ] [CharSource τ] {source left : σ}
    {other : τ} {p s t : Text} {r : Record} {q : Parser}
    (hsource : Holds source (p ++ s)) (hends : g.EndsWithRow (p ++ s))
    (hnext : (ofGrammar g).next source = (.ok (some r), q, left)) (hleft : Holds left s)
    (hagree : AgreeOn (max g.delimiters.row.length g.delimiters.column.length - 1) s t)
    (hother : Holds other (p ++ t)) :
    ∃ rest, (ofGrammar g).next other = (.ok (some r), q, rest) ∧ Holds rest t := by
  obtain ⟨u, hu, heq⟩ := next_start hsource g
  rw [hnext] at heq
  rcases g.scan_text_cases [] [] .start (p ++ s) with ⟨r', s', hscan⟩ | ⟨last, hscan⟩ | ⟨s', hscan⟩
  · rw [hscan] at hu heq
    cases heq
    have hs : Holds left s' := hu
    obtain rfl : s' = s := hs.content_eq.symm.trans hleft.content_eq
    obtain ⟨rest, hrest, hfound⟩ := next_start hother g
    rw [scan_append_of_agreeOn hagree hscan] at hrest hfound
    exact ⟨rest, hfound, hrest⟩
  · exact absurd hscan (scan_ne_ended hends)
  · rw [hscan] at heq
    cases heq

/-- The row delimiter begins the column delimiter, so that two more characters have to be seen. The
record after which they are `x|` is found again where a quotation follows them. -/
theorem next_of_agreeOn_bars :
    let d : Delimiters := ⟨['|', '|'], ['|', '|', '|'], by decide, by decide⟩
    let g : Grammar := ⟨d, some '"', false, .reject⟩
    let p : Text := ['"', 'a', '"', '"', '|', '"', '|', '|', '|', 'b', '|', '|']
    let s : Text := ['x', '|']
    let t : Text := ['x', '|', '|', '"', '\n']
    let answer : Except Error (Option Record) := .ok (some [['a', '"', '|'], ['b']])
    g.EndsWithRow (p ++ s) ∧ (ofGrammar g).next (p ++ s) = (answer, ⟨g, 1, false⟩, s) ∧
      AgreeOn (max d.row.length d.column.length - 1) s t ∧
      ∃ rest, (ofGrammar g).next (p ++ t) = (answer, ⟨g, 1, false⟩, rest) ∧ Holds rest t := by
  intro d g p s t answer
  have hends : g.EndsWithRow (p ++ s) := by cbv
  have hnext : (ofGrammar g).next (p ++ s) = (answer, ⟨g, 1, false⟩, s) := by cbv
  have hagree : AgreeOn (max d.row.length d.column.length - 1) s t :=
    ⟨by decide, by decide, by decide⟩
  exact ⟨hends, hnext, hagree,
    next_of_agreeOn g (.refl (p ++ s)) hends hnext (.refl s) hagree (.refl (p ++ t))⟩

end Parser

end Delimited
