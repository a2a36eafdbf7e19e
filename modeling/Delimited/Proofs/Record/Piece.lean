import Delimited.Proofs.Record.Classify
import Delimited.Record.Parser
import Mathlib.Tactic.Common

set_option autoImplicit false
set_option relaxedAutoImplicit false

/-!
# The pieces of a text

A scan takes a text piece by piece: a quote, a character, a delimiter. Which piece comes next is
decided by the delimiters, the quote and the place in the field; whether quotes are kept and what
becomes of newlines only decides what a piece adds to the record.

## Main definitions

* `Delimited.Piece` — what is taken in one step, and `Delimited.Piece.text`, its characters.
* `Delimited.Grammar.pieceAt`, `Delimited.Grammar.pieces` — the first piece of a text, and all.
* `Delimited.Grammar.extend?` — what a piece adds to a record.

## Main results

* `Delimited.Grammar.flatMap_pieces` — the pieces are the text, cut into parts.
* `Delimited.Grammar.scan_cons` — one step of a scan, for every kind of piece.
* `Delimited.Offers.scan`, `Delimited.Holds.scan` — a source is scanned like the text that it offers
  or holds.
-/

namespace Delimited

open CharSource Grammar

/-- A **piece** of a text: what a scan takes in one step. -/
inductive Piece where
  /-- A quote that opens a quotation. -/
  | opening (q : Char)
  /-- A character inside quotes. -/
  | quoted (c : Char)
  /-- A doubled quote inside quotes. -/
  | doubled (q : Char)
  /-- A quote that closes a quotation. -/
  | closing (q : Char)
  /-- A character outside quotes with which no delimiter begins. -/
  | plain (c : Char)
  /-- A column delimiter. -/
  | column
  /-- A whole row delimiter. -/
  | row
  /-- The start of a row delimiter, where the text ends. -/
  | cutRow (part : Text)
  deriving DecidableEq, Repr

namespace Piece

/-- The characters of a piece. -/
def text (d : Delimiters) : Piece → Text
  | opening q => [q]
  | quoted c => [c]
  | doubled q => [q, q]
  | closing q => [q]
  | plain c => [c]
  | column => d.column
  | row => d.row
  | cutRow part => part

/-- Where the character after a piece stands. -/
def place : Piece → Place
  | opening _ | quoted _ | doubled _ => .quoted
  | closing _ => .plain false
  | plain c => .plain (c = '\r')
  | column | row | cutRow _ => .start

/-- Whether a piece ends a record. -/
def endsRecord : Piece → Bool
  | row | cutRow _ => true
  | _ => false

end Piece

namespace Grammar

variable (g : Grammar)

/-- The **first piece** of the text `c :: cs`, of which `c` stands at the given place. -/
def pieceAt (place : Place) (c : Char) (cs : Text) : Piece :=
  if place = .quoted then
    if g.quote = some c then if cs.head? = some c then .doubled c else .closing c
    else .quoted c
  else if place = .start ∧ g.quote = some c then .opening c
  else
    match g.delimiters.classify (c :: cs) with
    | (.data, _) => .plain c
    | (.column, _) => .column
    | (.row, n) => if n = g.delimiters.row.length then .row else .cutRow (c :: cs)

/-- The text after its first piece. -/
def restAt (place : Place) (c : Char) (cs : Text) : Text :=
  (c :: cs).drop ((g.pieceAt place c cs).text g.delimiters).length

/-- What a piece makes of the complete fields and the characters of the next one, both with the
latest first, unless it is a newline that is not allowed. -/
def extend? (fields : List Text) (field : Text) (place : Place) : Piece → Option (List Text × Text)
  | .opening q | .closing q => some (fields, g.pushQuote field q)
  | .quoted c => some (fields, c :: field)
  | .doubled q => some (fields, g.pushQuote (q :: field) q)
  | .plain c => (g.pushPlain? field c (place = .plain true)).map (fields, ·)
  | .column => some (pushField fields field, [])
  | .row | .cutRow _ => some (fields, field)

/-! ## Which piece is the first -/

variable {g} {c : Char} {cs : Text}

/-- Inside quotes, a character other than the quote stands for itself. -/
theorem pieceAt_quoted (hq : g.quote ≠ some c) : g.pieceAt .quoted c cs = .quoted c := by
  rw [pieceAt, if_pos rfl, if_neg hq]

/-- Inside quotes, a quote before another one stands with it for one quote. -/
theorem pieceAt_doubled (hq : g.quote = some c) : g.pieceAt .quoted c (c :: cs) = .doubled c := by
  rw [pieceAt, if_pos rfl, if_pos hq, if_pos List.head?_cons]

/-- Inside quotes, a quote before anything else closes the quotation. -/
theorem pieceAt_closing (hq : g.quote = some c) (hcs : cs.head? ≠ some c) :
    g.pieceAt .quoted c cs = .closing c := by
  rw [pieceAt, if_pos rfl, if_pos hq, if_neg hcs]

/-- At the start of a field, a quote opens a quotation. -/
theorem pieceAt_opening (hq : g.quote = some c) : g.pieceAt .start c cs = .opening c := by
  rw [pieceAt, if_neg (by decide), if_pos ⟨rfl, hq⟩]

/-- Outside quotes, and where no quotation begins, the delimiters decide which piece is the first:
a whole delimiter, the start of a row delimiter that is all of the text, or a character. -/
theorem pieceAt_unquoted (cs : Text) {place : Place} (hplace : place ≠ .quoted)
    (hopen : ¬(place = .start ∧ g.quote = some c)) :
    (g.pieceAt place c cs = .row ∧
        g.delimiters.classify (c :: cs) = (.row, g.delimiters.row.length) ∧
        g.delimiters.row <+: c :: cs) ∨
      (g.pieceAt place c cs = .column ∧
        g.delimiters.classify (c :: cs) = (.column, g.delimiters.column.length) ∧
        g.delimiters.column <+: c :: cs) ∨
      (g.pieceAt place c cs = .cutRow (c :: cs) ∧
        g.delimiters.classify (c :: cs) = (.row, (c :: cs).length) ∧
        c :: cs <+: g.delimiters.row) ∨
      (g.pieceAt place c cs = .plain c ∧ g.delimiters.classify (c :: cs) = (.data, 1)) := by
  unfold pieceAt
  rw [if_neg hplace, if_neg hopen]
  rcases g.delimiters.classify_cases c cs with ⟨hc, h⟩ | ⟨hc, h⟩ | ⟨hc, h, hlt⟩ | hc
  · exact Or.inl ⟨by simp [hc], hc, h⟩
  · exact Or.inr (Or.inl ⟨by simp [hc], hc, h⟩)
  · refine Or.inr (Or.inr (Or.inl ⟨?_, hc, h⟩))
    rw [hc]
    exact if_neg (Nat.ne_of_lt hlt)
  · exact Or.inr (Or.inr (Or.inr ⟨by simp [hc], hc⟩))

/-- The first piece is not empty and stands at the front of the text.

**Proof sketch.** One case for each kind of piece. A piece of one character is the first character;
a doubled quote was seen to be two; and a delimiter was found at the front of the text. -/
theorem text_pieceAt (g : Grammar) (place : Place) (c : Char) (cs : Text) :
    (g.pieceAt place c cs).text g.delimiters ≠ [] ∧
      (g.pieceAt place c cs).text g.delimiters <+: c :: cs := by
  have hone : [c] ≠ [] ∧ [c] <+: c :: cs := ⟨List.cons_ne_nil _ _, cs, rfl⟩
  by_cases hplace : place = .quoted
  · subst hplace
    by_cases hq : g.quote = some c
    · by_cases hd : cs.head? = some c
      · obtain ⟨xs, rfl⟩ := List.head?_eq_some_iff.1 hd
        rw [pieceAt_doubled hq]
        exact ⟨List.cons_ne_nil _ _, xs, rfl⟩
      · rw [pieceAt_closing hq hd]
        exact hone
    · rw [pieceAt_quoted hq]
      exact hone
  · by_cases hopen : place = .start ∧ g.quote = some c
    · obtain ⟨rfl, hq⟩ := hopen
      rw [pieceAt_opening hq]
      exact hone
    · rcases pieceAt_unquoted cs hplace hopen with
        ⟨hp, -, h⟩ | ⟨hp, -, h⟩ | ⟨hp, -, -⟩ | ⟨hp, -⟩
      · rw [hp]
        exact ⟨g.delimiters.row_ne, h⟩
      · rw [hp]
        exact ⟨g.delimiters.column_ne, h⟩
      · rw [hp]
        exact ⟨List.cons_ne_nil _ _, List.prefix_refl _⟩
      · rw [hp]
        exact hone

/-- Inside quotes no piece ends a record. -/
theorem ne_quoted_of_endsRecord {place : Place} (h : (g.pieceAt place c cs).endsRecord = true) :
    place ≠ .quoted := by
  rintro rfl
  unfold pieceAt at h
  rw [if_pos rfl] at h
  split_ifs at h <;> cases h

variable (g)

/-- The first piece and the text after it are the text. -/
theorem text_pieceAt_append (place : Place) (c : Char) (cs : Text) :
    (g.pieceAt place c cs).text g.delimiters ++ g.restAt place c cs = c :: cs := by
  obtain ⟨t, ht⟩ := (g.text_pieceAt place c cs).2
  rw [restAt, ← ht, List.drop_left]

/-- The text after the first piece is shorter. -/
theorem length_restAt_lt (place : Place) (c : Char) (cs : Text) :
    (g.restAt place c cs).length < (c :: cs).length := by
  have h := List.length_pos_iff.2 (g.text_pieceAt place c cs).1
  rw [restAt, List.length_drop, List.length_cons]
  omega

/-- The **pieces** of a text, the first character of which stands at the given place. -/
def pieces (place : Place) : Text → List Piece
  | [] => []
  | c :: cs => g.pieceAt place c cs :: pieces (g.pieceAt place c cs).place (g.restAt place c cs)
termination_by text => text.length
decreasing_by exact g.length_restAt_lt place c cs

/-- An empty text has no pieces. -/
theorem pieces_nil (place : Place) : g.pieces place [] = [] := by
  rw [pieces]

/-- The pieces of a text are its first one and those of the rest. -/
theorem pieces_cons (place : Place) (c : Char) (cs : Text) :
    g.pieces place (c :: cs) =
      g.pieceAt place c cs :: g.pieces (g.pieceAt place c cs).place (g.restAt place c cs) := by
  rw [pieces]

/-- **Pieces lose nothing**: put together again, they are the text. -/
theorem flatMap_pieces (place : Place) (text : Text) :
    (g.pieces place text).flatMap (Piece.text g.delimiters) = text := by
  fun_induction g.pieces place text with
  | case1 place => rfl
  | case2 place c cs ih =>
    rw [List.flatMap_cons, ih, g.text_pieceAt_append]

/-! ## Scanning by pieces -/

variable {g} in
/-- A grammar that keeps newlines keeps every character outside quotes. -/
theorem pushPlain?_of_preserve (h : g.newlines = .preserve) (field : Text) (c : Char)
    (afterReturn : Bool) : g.pushPlain? field c afterReturn = some (c :: field) := by
  rw [pushPlain?, h]
  exact ite_self _

variable {g} in
/-- A grammar that does not refuse newlines takes every character outside quotes. -/
theorem pushPlain?_ne_none (h : g.newlines ≠ .reject) (field : Text) (c : Char)
    (afterReturn : Bool) : g.pushPlain? field c afterReturn ≠ none := by
  unfold pushPlain?
  split
  · exact Option.some_ne_none _
  · cases hpolicy : g.newlines with
    | preserve => exact Option.some_ne_none _
    | space => exact Option.some_ne_none _
    | reject => exact absurd hpolicy h

/-- A text that is used up ends the record. -/
theorem scan_nil (fields : List Text) (field : Text) (place : Place) :
    g.scan fields field place ([] : Text) = (.ended (last? fields field place), []) := by
  rw [scan]
  rfl

/-- **One step of a scan**: the first piece ends the record, or it extends it and the scan goes on
after it.

**Proof sketch.** One case for each kind of piece. A closing quote with which the text ends is taken
by the scan together with the end; that is the same as going on with nothing left. -/
theorem scan_cons (fields : List Text) (field : Text) (place : Place) (c : Char) (cs : Text) :
    g.scan fields field place (c :: cs) =
      if (g.pieceAt place c cs).endsRecord then
        (.record (complete fields field), g.restAt place c cs)
      else
        match g.extend? fields field place (g.pieceAt place c cs) with
        | none => (.newline, g.restAt place c cs)
        | some (fields, field) =>
          g.scan fields field (g.pieceAt place c cs).place (g.restAt place c cs) := by
  rw [scan]
  split
  · next h => cases h
  · next h => cases h
  · next x t h =>
    obtain ⟨rfl, rfl⟩ : c = x ∧ cs = t := by
      cases h
      exact ⟨rfl, rfl⟩
    by_cases hplace : place = .quoted
    · subst hplace
      rw [if_pos rfl]
      by_cases hq : g.quote = some c
      · rw [if_pos hq]
        cases cs with
        | nil =>
          rw [restAt, pieceAt_closing hq (by simp)]
          exact (g.scan_nil fields (g.pushQuote field c) (.plain false)).symm
        | cons y ys =>
          by_cases hy : y = c
          · subst hy
            rw [restAt, pieceAt_doubled hq]
            exact if_pos rfl
          · rw [restAt, pieceAt_closing hq (by simpa using hy)]
            exact if_neg hy
      · rw [if_neg hq, restAt, pieceAt_quoted hq]
        rfl
    · rw [if_neg hplace]
      by_cases hopen : place = .start ∧ g.quote = some c
      · obtain ⟨rfl, hq⟩ := hopen
        rw [if_pos ⟨rfl, hq⟩, restAt, pieceAt_opening hq]
        rfl
      · obtain ⟨u, hprobe, hu⟩ := (Holds.refl cs).probe g.delimiters c
        rw [if_neg hopen, hprobe, hu.eq_text, restAt]
        rcases pieceAt_unquoted cs hplace hopen with
          ⟨hp, hc, -⟩ | ⟨hp, hc, -⟩ | ⟨hp, hc, -⟩ | ⟨hp, hc⟩
        · rw [hp, hc]
          rfl
        · rw [hp, hc]
          rfl
        · rw [hp, hc]
          rfl
        · rw [hp, hc]
          dsimp only [Piece.endsRecord, extend?, Bool.false_eq_true, if_false, Piece.place,
            Piece.text]
          cases g.pushPlain? field c (place = .plain true) <;> rfl

/-- A probe of a text finds what its first piece is, and leaves the text after it. -/
theorem probe_pieceAt {place : Place} {c : Char} (cs : Text) (hplace : place ≠ .quoted)
    (hopen : ¬(place = .start ∧ g.quote = some c)) :
    (g.delimiters.probe c cs).source = g.restAt place c cs ∧
      (((g.delimiters.probe c cs).hit = .ok .row ∧ (g.pieceAt place c cs).endsRecord = true) ∨
        ((g.delimiters.probe c cs).hit = .ok .column ∧ g.pieceAt place c cs = .column) ∨
        ((g.delimiters.probe c cs).hit = .ok .data ∧ g.pieceAt place c cs = .plain c)) := by
  obtain ⟨t, hprobe, ht⟩ := (Holds.refl cs).probe g.delimiters c
  rw [hprobe, ht.eq_text, restAt]
  rcases pieceAt_unquoted cs hplace hopen with
    ⟨hp, hc, -⟩ | ⟨hp, hc, -⟩ | ⟨hp, hc, -⟩ | ⟨hp, hc⟩
  · rw [hc, hp]
    exact ⟨rfl, Or.inl ⟨rfl, rfl⟩⟩
  · rw [hc, hp]
    exact ⟨rfl, Or.inr (Or.inl ⟨rfl, rfl⟩)⟩
  · rw [hc, hp]
    exact ⟨rfl, Or.inl ⟨rfl, rfl⟩⟩
  · rw [hc, hp]
    exact ⟨rfl, Or.inr (Or.inr ⟨rfl, rfl⟩)⟩

end Grammar

section Sources

variable {σ : Type} [CharSource σ] {sound : Prop} {s : σ} {text : Text}

/-- A probe of a source finds what the first piece of the text is, and leaves the text after it,
unless a read fails. -/
theorem Offers.probe_pieceAt (h : Offers sound s text) {g : Grammar} {place : Place} {c : Char}
    (hplace : place ≠ .quoted) (hopen : ¬(place = .start ∧ g.quote = some c)) :
    (∃ e, (g.delimiters.probe c s).hit = .error e ∧ ¬sound) ∨
      (Offers sound (g.delimiters.probe c s).source (g.restAt place c text) ∧
        (((g.delimiters.probe c s).hit = .ok .row ∧ (g.pieceAt place c text).endsRecord = true) ∨
          ((g.delimiters.probe c s).hit = .ok .column ∧ g.pieceAt place c text = .column) ∨
          ((g.delimiters.probe c s).hit = .ok .data ∧ g.pieceAt place c text = .plain c))) := by
  obtain ⟨hsource, hp⟩ := g.probe_pieceAt text hplace hopen
  rcases h.probe g.delimiters c with hfails | ⟨hhit, hs⟩
  · exact Or.inl hfails
  · rw [hsource] at hs
    rw [← hhit] at hp
    exact Or.inr ⟨hs, hp⟩

/-- **A source is scanned like the text that it offers**, unless a read fails.

**Proof sketch.** Induction along the scan of the source. Each read gives the next character of the
text, and each probe finds the piece that comes next, so the scan of the text takes the same
step. -/
theorem Offers.scan (h : Offers sound s text) (g : Grammar) (fields : List Text) (field : Text)
    (place : Place) :
    (∃ e, (g.scan fields field place s).1 = .failed e ∧ ¬sound) ∨
      ((g.scan fields field place s).1 = (g.scan fields field place text).1 ∧
        Offers sound (g.scan fields field place s).2 (g.scan fields field place text).2) := by
  fun_induction g.scan fields field place s generalizing text with
  | case1 fields field place s e t hr => exact Or.inl ⟨e, rfl, h.not_sound hr⟩
  | case2 fields field place s t hr =>
    obtain ⟨rfl, ht⟩ := h.of_read_none hr
    rw [g.scan_nil]
    exact Or.inr ⟨rfl, ht⟩
  | case3 fields field s c t hr hq e u hr2 =>
    obtain ⟨cs, rfl, ht⟩ := h.of_read_some hr
    exact Or.inl ⟨e, rfl, ht.not_sound hr2⟩
  | case4 fields field s c t hr hq u hr2 =>
    obtain ⟨cs, rfl, ht⟩ := h.of_read_some hr
    obtain ⟨rfl, hu⟩ := ht.of_read_none hr2
    have hstep : g.scan fields field .quoted [c] =
        g.scan fields (g.pushQuote field c) (.plain false) ([] : Text) := by
      rw [g.scan_cons, restAt, pieceAt_closing hq (by simp)]
      rfl
    rw [hstep, g.scan_nil]
    exact Or.inr ⟨rfl, hu⟩
  | case5 fields field s t c u hr2 hr hq ih =>
    obtain ⟨cs, rfl, ht⟩ := h.of_read_some hr
    obtain ⟨xs, rfl, hu⟩ := ht.of_read_some hr2
    rw [g.scan_cons, restAt, pieceAt_doubled hq]
    exact ih hu
  | case6 fields field s c t hr hq x u hr2 hx ih =>
    obtain ⟨cs, rfl, ht⟩ := h.of_read_some hr
    obtain ⟨xs, rfl, hu⟩ := ht.of_read_some hr2
    rw [g.scan_cons, restAt, pieceAt_closing hq (by simpa using hx)]
    exact ih (hu.unread [x])
  | case7 fields field s c t hr hq ih =>
    obtain ⟨cs, rfl, ht⟩ := h.of_read_some hr
    rw [g.scan_cons, restAt, pieceAt_quoted hq]
    exact ih ht
  | case8 fields field place s c t hr hplace hopen ih =>
    obtain ⟨cs, rfl, ht⟩ := h.of_read_some hr
    obtain ⟨rfl, hq⟩ := hopen
    rw [g.scan_cons, restAt, pieceAt_opening hq]
    exact ih ht
  | case9 fields field place s c t hr hplace hopen e he =>
    obtain ⟨cs, rfl, ht⟩ := h.of_read_some hr
    rcases ht.probe_pieceAt hplace hopen with ⟨-, -, hfails⟩ | ⟨-, hp⟩
    · exact Or.inl ⟨e, rfl, hfails⟩
    · simp [he] at hp
  | case10 fields field place s c t hr hplace hopen he =>
    obtain ⟨cs, rfl, ht⟩ := h.of_read_some hr
    obtain ⟨hrest, hp⟩ := (ht.probe_pieceAt hplace hopen).resolve_left (by simp [he])
    have hend : (g.pieceAt place c cs).endsRecord = true := by simpa [he] using hp
    rw [g.scan_cons, if_pos hend]
    exact Or.inr ⟨rfl, hrest⟩
  | case11 fields field place s c t hr hplace hopen he ih =>
    obtain ⟨cs, rfl, ht⟩ := h.of_read_some hr
    obtain ⟨hrest, hp⟩ := (ht.probe_pieceAt hplace hopen).resolve_left (by simp [he])
    have hcolumn : g.pieceAt place c cs = .column := by simpa [he] using hp
    rw [g.scan_cons, hcolumn]
    exact ih hrest
  | case12 fields field place s c t hr hplace hopen he hpush =>
    obtain ⟨cs, rfl, ht⟩ := h.of_read_some hr
    obtain ⟨hrest, hp⟩ := (ht.probe_pieceAt hplace hopen).resolve_left (by simp [he])
    have hplain : g.pieceAt place c cs = .plain c := by simpa [he] using hp
    rw [g.scan_cons, hplain]
    simp only [Piece.endsRecord, extend?, hpush, Option.map_none, Bool.false_eq_true, if_false]
    exact Or.inr ⟨trivial, hrest⟩
  | case13 fields field place s c t hr hplace hopen he next hpush ih =>
    obtain ⟨cs, rfl, ht⟩ := h.of_read_some hr
    obtain ⟨hrest, hp⟩ := (ht.probe_pieceAt hplace hopen).resolve_left (by simp [he])
    have hplain : g.pieceAt place c cs = .plain c := by simpa [he] using hp
    rw [g.scan_cons, hplain]
    simp only [Piece.endsRecord, extend?, hpush, Option.map_some, Bool.false_eq_true, if_false]
    exact ih hrest

/-- A source that never fails is scanned like the text that it holds. -/
theorem Holds.scan (h : Holds s text) (g : Grammar) (fields : List Text) (field : Text)
    (place : Place) :
    (g.scan fields field place s).1 = (g.scan fields field place text).1 ∧
      Holds (g.scan fields field place s).2 (g.scan fields field place text).2 := by
  rcases h.offers.scan g fields field place with ⟨e, -, hfails⟩ | ⟨hscan, hrest⟩
  · exact absurd trivial hfails
  · exact ⟨hscan, hrest.holds trivial⟩

end Sources

end Delimited
