import Delimited.Proofs.Record.Marks

set_option autoImplicit false
set_option relaxedAutoImplicit false

/-!
# Newline policies

The records that a parser gives are the marked records of the text, as the newline policy shows
them. A policy that refuses newlines outside quotes shows the records before the first one that holds
such a newline.

## Main definitions

* `Delimited.Grammar.Follows` — the field in the making shows the marks that were made.
* `Delimited.Parser.answers` — what several calls for the next record give.

## Main results

* `Delimited.Grammar.Follows.step` — one piece of a field.
* `Delimited.Grammar.scan_marked` — a scan finds the first marked record.
* `Delimited.Grammar.records_eq_marked` — the records of a text are its marked records.
* `Delimited.Parser.newlines_outside_quotes` — what the three policies give for one text.
-/

namespace Delimited

open Grammar

/-! ## Fields in the making -/

/-- Of no marks nothing is shown. -/
theorem NewlinePolicy.shown_nil (policy : NewlinePolicy) : policy.shown [] = [] := by
  cases policy <;> rfl

/-- A character other than a newline outside quotes comes last. -/
theorem NewlinePolicy.shown_concat (policy : NewlinePolicy) (ms : List Mark) {m : Mark}
    (h : m.isNewline = false) : policy.shown (ms ++ [m]) = policy.shown ms ++ [m.char] := by
  have hplain : Mark.plain (ms ++ [m]) = Mark.plain ms ++ [m.char] := by simp [Mark.plain]
  cases policy with
  | preserve => exact hplain
  | reject => exact hplain
  | space =>
    have hjoins : ms.getLast?.any (·.joins m) = false := by
      cases ms.getLast? <;> simp [Mark.joins, h]
    show Mark.spaced (ms ++ [m]) = Mark.spaced ms ++ [m.char]
    rw [Mark.spaced_concat, hjoins, h]
    rfl

/-- Characters inside quotes come last as they are. -/
theorem NewlinePolicy.shown_append (policy : NewlinePolicy) (ms : List Mark) (cs : Text) :
    policy.shown (ms ++ cs.map fun c => ⟨c, none⟩) = policy.shown ms ++ cs := by
  induction cs generalizing ms with
  | nil => simp
  | cons c cs ih =>
    have hquoted : (⟨c, none⟩ : Mark).isNewline = false := by simp [Mark.isNewline]
    rw [List.map_cons, List.append_cons, ih, policy.shown_concat ms hquoted, List.append_assoc,
      List.singleton_append]

namespace Grammar

variable {g : Grammar} {ms : List Mark} {n : Nat} {place : Place} {field : Text}

/-- The field in the making **follows** the marks, where the next character stands at position `n`:
it is what the policy shows of them, and the place tells whether a carriage return outside quotes
comes right before. -/
structure Follows (g : Grammar) (ms : List Mark) (n : Nat) (place : Place) (field : Text) :
    Prop where
  field_eq : field.reverse = g.newlines.shown ms
  start : place = .start → ms = []
  afterReturn : place = .plain true → ∃ i, ms.getLast? = some ⟨'\r', some i⟩ ∧ i + 1 = n
  otherwise : place ≠ .plain true → ms.getLast?.any Mark.isReturn = false

/-- At the start of a field there are no marks. -/
theorem Follows.nil (g : Grammar) (n : Nat) : g.Follows [] n .start [] where
  field_eq := g.newlines.shown_nil.symm
  start _ := rfl
  afterReturn h := by cases h
  otherwise _ := rfl

/-- A carriage return joins a newline exactly at the place after it. -/
theorem Follows.any_joins (h : g.Follows ms n place field) :
    ms.getLast?.any (·.joins ⟨'\n', some n⟩) = decide (place = .plain true) := by
  by_cases hplace : place = .plain true
  · obtain ⟨i, hlast, rfl⟩ := h.afterReturn hplace
    rw [hlast]
    simp [hplace, Mark.joins, Mark.isReturn, Mark.isNewline]
  · have hnone := h.otherwise hplace
    cases hlast : ms.getLast? with
    | none => simp [hplace]
    | some m =>
      rw [hlast] at hnone
      have hm : m.isReturn = false := hnone
      simp [hplace, Mark.joins, hm]

/-- Characters inside quotes, and quotes that are kept, come last as they are. The next character
stands anywhere but after a carriage return outside quotes. -/
theorem Follows.push (h : g.Follows ms n place field) (hplace : place ≠ .plain true) {k : Nat}
    {place' : Place} (hplace' : place' ≠ .plain true ∧ place' ≠ .start) (cs : Text) :
    g.Follows (ms ++ cs.map fun c => ⟨c, none⟩) k place' (cs.reverse ++ field) := by
  refine ⟨?_, fun hstart => absurd hstart hplace'.2, fun h => absurd h hplace'.1, fun _ => ?_⟩
  · rw [List.reverse_append, List.reverse_reverse, h.field_eq, g.newlines.shown_append]
  · rw [List.getLast?_append]
    cases hlast : (cs.map fun c => (⟨c, none⟩ : Mark)).getLast? with
    | none => exact h.otherwise hplace
    | some m =>
      have hmem : m ∈ cs.map fun c => (⟨c, none⟩ : Mark) := List.mem_of_getLast? hlast
      obtain ⟨c, -, rfl⟩ := List.mem_map.1 hmem
      simp [Mark.isReturn]

/-- A character outside quotes comes last as the policy shows it, unless it is refused. -/
theorem Follows.pushPlain? (h : g.Follows ms n place field) (c : Char) :
    match g.pushPlain? field c (place = .plain true) with
    | some field' => g.Follows (ms ++ [⟨c, some n⟩]) (n + 1) (.plain (c = '\r')) field'
    | none => g.newlines = .reject ∧ c = '\n' := by
  have hfollows : ∀ field' : Text, field'.reverse = g.newlines.shown (ms ++ [⟨c, some n⟩]) →
      g.Follows (ms ++ [⟨c, some n⟩]) (n + 1) (.plain (c = '\r')) field' := by
    intro field' hfield
    refine ⟨hfield, fun hstart => ?_, fun hreturn => ⟨n, ?_, rfl⟩, fun hother => ?_⟩
    · cases hstart
    · have hc : c = '\r' := by simpa using hreturn
      rw [hc, List.getLast?_concat]
    · have hc : c ≠ '\r' := by simpa using hother
      rw [List.getLast?_concat]
      simp [Mark.isReturn, hc]
  unfold Grammar.pushPlain?
  by_cases hc : c = '\n'
  · subst hc
    rw [if_neg (not_not_intro rfl)]
    have hnewlines := h.field_eq
    cases hpolicy : g.newlines with
    | preserve =>
      rw [hpolicy] at hnewlines hfollows
      apply hfollows
      rw [List.reverse_cons, hnewlines]
      simp [NewlinePolicy.shown, Mark.plain]
    | space =>
      rw [hpolicy] at hnewlines hfollows
      apply hfollows
      have hspaced : NewlinePolicy.space.shown ms = Mark.spaced ms := rfl
      show _ = Mark.spaced (ms ++ [⟨'\n', some n⟩])
      rw [Mark.spaced_concat, h.any_joins, ← hspaced, ← hnewlines, List.reverse_cons]
      by_cases hplace : place = .plain true <;> simp [hplace, Mark.isNewline]
    | reject => exact ⟨rfl, rfl⟩
  · rw [if_pos hc]
    apply hfollows
    have hother : (⟨c, some n⟩ : Mark).isNewline = false := by simp [Mark.isNewline, hc]
    rw [List.reverse_cons, h.field_eq, g.newlines.shown_concat ms hother]

/-- Whether the policy refuses these characters. -/
def refuses (g : Grammar) (ms : List Mark) : Bool :=
  g.newlines = .reject && ms.any Mark.isNewline

/-- **One piece of a field** makes its marks, unless there is a newline among them that is refused.

**Proof sketch.** One case for each kind of piece. Quotes and characters inside quotes make marks
without a position, whatever the policy; only a character outside quotes can be a newline that is
shown as a space or refused. -/
theorem Follows.step (h : g.Follows ms n place field) (fields : List Text) (c : Char) (cs : Text)
    (hend : (g.pieceAt place c cs).endsRecord = false) (hcolumn : g.pieceAt place c cs ≠ .column) :
    (∃ field', g.extend? fields field place (g.pieceAt place c cs) = some (fields, field') ∧
        g.refuses ((g.pieceAt place c cs).marks g.keepQuotes n) = false ∧
        g.Follows (ms ++ (g.pieceAt place c cs).marks g.keepQuotes n)
          (n + ((g.pieceAt place c cs).text g.delimiters).length) (g.pieceAt place c cs).place
          field') ∨
      (g.extend? fields field place (g.pieceAt place c cs) = none ∧
        g.refuses ((g.pieceAt place c cs).marks g.keepQuotes n) = true) := by
  have hquoting : ∀ (piece : Piece) (xs : Text), place ≠ .plain true →
      piece.place ≠ .plain true ∧ piece.place ≠ .start →
      piece.marks g.keepQuotes n = xs.map (fun c => ⟨c, none⟩) →
      g.extend? fields field place piece = some (fields, xs.reverse ++ field) →
      ∃ field', g.extend? fields field place piece = some (fields, field') ∧
        g.refuses (piece.marks g.keepQuotes n) = false ∧
        g.Follows (ms ++ piece.marks g.keepQuotes n) (n + (piece.text g.delimiters).length)
          piece.place field' := by
    intro piece xs hplace hplace' hmarks hextend
    refine ⟨_, hextend, ?_, ?_⟩
    · simp [hmarks, refuses, Mark.isNewline, Function.comp_def]
    · rw [hmarks]
      exact h.push hplace hplace' xs
  by_cases hplace : place = .quoted
  · subst hplace
    left
    by_cases hq : g.quote = some c
    · by_cases hd : cs.head? = some c
      · obtain ⟨xs, rfl⟩ := List.head?_eq_some_iff.1 hd
        rw [pieceAt_doubled hq]
        refine hquoting _ (if g.keepQuotes then [c, c] else [c]) (by decide) (by simp [Piece.place])
          ?_ ?_ <;> cases hkeep : g.keepQuotes <;> simp [Piece.marks, extend?, pushQuote, hkeep]
      · rw [pieceAt_closing hq hd]
        refine hquoting _ (if g.keepQuotes then [c] else []) (by decide) (by simp [Piece.place])
          ?_ ?_ <;> cases hkeep : g.keepQuotes <;> simp [Piece.marks, extend?, pushQuote, hkeep]
    · rw [pieceAt_quoted hq]
      exact hquoting _ [c] (by decide) (by simp [Piece.place]) rfl rfl
  · by_cases hopen : place = .start ∧ g.quote = some c
    · obtain ⟨rfl, hq⟩ := hopen
      left
      rw [pieceAt_opening hq]
      refine hquoting _ (if g.keepQuotes then [c] else []) (by decide) (by simp [Piece.place])
        ?_ ?_ <;> cases hkeep : g.keepQuotes <;> simp [Piece.marks, extend?, pushQuote, hkeep]
    · rcases pieceAt_unquoted cs hplace hopen with ⟨hp, -⟩ | ⟨hp, -⟩ | ⟨hp, -⟩ | ⟨hp, -⟩
      · rw [hp] at hend
        cases hend
      · exact absurd hp hcolumn
      · rw [hp] at hend
        cases hend
      · have hplain := h.pushPlain? c
        rw [hp]
        cases hpushed : g.pushPlain? field c (place = .plain true) with
        | none =>
          rw [hpushed] at hplain
          obtain ⟨hreject, rfl⟩ := hplain
          refine Or.inr ⟨?_, ?_⟩
          · rw [extend?, hpushed]
            rfl
          · simp [refuses, hreject, Piece.marks, Mark.isNewline]
        | some field' =>
          rw [hpushed] at hplain
          left
          refine ⟨field', by rw [extend?, hpushed]; rfl, ?_, hplain⟩
          -- a newline that is refused is not pushed
          have hkept : ¬(g.newlines = .reject ∧ c = '\n') := by
            rintro ⟨hreject, rfl⟩
            simp [Grammar.pushPlain?, hreject] at hpushed
          simpa [refuses, Piece.marks, Mark.isNewline] using hkept

/-! ## Records in the making -/

/-- The record that is made of complete fields, the latest first, the marks of the next one, and
further pieces. -/
def draftRecord (g : Grammar) (fields : List Text) (ms : List Mark)
    (pieces : List (Nat × Piece)) : Record :=
  fields.reverse ++ ((g.markedFields pieces).modifyHead (ms ++ ·)).map g.newlines.shown

variable {fields : List Text} {piece : Piece} {pieces : List (Nat × Piece)}

/-- Without pieces there is one empty field. -/
theorem markedFields_nil (g : Grammar) : g.markedFields [] = [[]] := rfl

/-- A column delimiter starts a new field. -/
theorem markedFields_column :
    g.markedFields ((n, .column) :: pieces) = [] :: g.markedFields pieces := by
  unfold markedFields
  rw [List.splitOnP_cons_eq_if_modifyHead, if_pos (decide_eq_true rfl)]
  rfl

/-- Any other piece adds to the first field. -/
theorem markedFields_cons (h : piece ≠ .column) :
    g.markedFields ((n, piece) :: pieces) =
      (g.markedFields pieces).modifyHead (piece.marks g.keepQuotes n ++ ·) := by
  unfold markedFields
  rw [List.splitOnP_cons_eq_if_modifyHead, if_neg (by simpa using h)]
  cases hparts : pieces.splitOnP fun piece => piece.2 = .column with
  | nil => exact absurd hparts (List.splitOnP_ne_nil _ _)
  | cons part parts => rfl

/-- Without further pieces, the record is complete. -/
theorem draftRecord_nil (h : field.reverse = g.newlines.shown ms) :
    g.draftRecord fields ms [] = complete fields field := by
  simp [draftRecord, markedFields_nil, complete, pushField, h]

/-- A column delimiter completes a field. -/
theorem draftRecord_column (h : field.reverse = g.newlines.shown ms) :
    g.draftRecord fields ms ((n, .column) :: pieces) =
      g.draftRecord (pushField fields field) [] pieces := by
  have hid : (g.markedFields pieces).modifyHead ([] ++ ·) = g.markedFields pieces := by
    cases g.markedFields pieces <;> rfl
  unfold draftRecord
  rw [markedFields_column, hid]
  simp [pushField, h]

/-- Any other piece adds its marks. -/
theorem draftRecord_cons (h : piece ≠ .column) :
    g.draftRecord fields ms ((n, piece) :: pieces) =
      g.draftRecord fields (ms ++ piece.marks g.keepQuotes n) pieces := by
  unfold draftRecord
  rw [markedFields_cons h]
  cases g.markedFields pieces with
  | nil => rfl
  | cons f fs => simp

/-- Whether the policy refuses one of these pieces. -/
def refusesPieces (g : Grammar) (pieces : List (Nat × Piece)) : Bool :=
  pieces.any fun piece => g.refuses (piece.2.marks g.keepQuotes piece.1)

/-- The policy refuses a piece of a record exactly if it refuses one of the fields. -/
theorem any_refuses_markedFields (g : Grammar) (pieces : List (Nat × Piece)) :
    (g.markedFields pieces).any g.refuses = g.refusesPieces pieces := by
  have happend : ∀ xs ys, g.refuses (xs ++ ys) = (g.refuses xs || g.refuses ys) := by
    intro xs ys
    simp [refuses, Bool.and_or_distrib_left]
  induction pieces with
  | nil => simp [markedFields_nil, refuses, refusesPieces]
  | cons piece pieces ih =>
    obtain ⟨n, piece⟩ := piece
    have hcons : g.refusesPieces ((n, piece) :: pieces) =
        (g.refuses (piece.marks g.keepQuotes n) || g.refusesPieces pieces) := rfl
    rw [hcons, ← ih]
    by_cases hcolumn : piece = .column
    · subst hcolumn
      rw [markedFields_column]
      rfl
    · rw [markedFields_cons hcolumn]
      cases hfields : g.markedFields pieces with
      | nil =>
        have hne : g.markedFields pieces ≠ [] := by
          simp [markedFields, List.splitOnP_ne_nil]
        exact absurd hfields hne
      | cons f fs => simp [happend, Bool.or_assoc]

/-- The place after a piece that ends a record is the start of a field. -/
theorem place_of_endsRecord (h : piece.endsRecord = true) : piece.place = .start := by
  cases piece <;> first | rfl | cases h

/-- After a piece inside a record, the next character stands at the start of a field only if that piece
is a column delimiter. -/
theorem place_ne_start (h : piece.endsRecord = false) (hcolumn : piece ≠ .column) :
    piece.place ≠ .start := by
  cases piece with
  | column => exact absurd rfl hcolumn
  | row => cases h
  | cutRow part => cases h
  | _ => simp [Piece.place]

/-- **A scan finds the first marked record**: the record in the making with the pieces up to the next
row delimiter, unless the policy refuses one of these.

**Proof sketch.** Induction on the pieces of the text. A row delimiter ends the record; a column
delimiter completes the field in the making; any other piece adds its marks to that field, or is a
newline that is refused. -/
theorem scan_marked (h : g.Follows ms n place field) (fields : List Text) (text : Text) :
    ∃ first others,
      rowParts (Piece.located g.delimiters n (g.pieces place text)) = first :: others ∧
        if g.refusesPieces first then ∃ rest, g.scan fields field place text = (.newline, rest)
        else if others = [] then
          g.scan fields field place text =
            (.ended (if place = .start ∧ fields = [] ∧ first = [] then none
              else some (g.draftRecord fields ms first)), [])
        else ∃ k rest, others = rowParts (Piece.located g.delimiters k (g.pieces .start rest)) ∧
          g.scan fields field place text = (.record (g.draftRecord fields ms first), rest) := by
  fun_induction g.pieces place text generalizing n ms fields field with
  | case1 place =>
    refine ⟨[], [], rfl, ?_⟩
    rw [g.scan_nil, last?, draftRecord_nil h.field_eq]
    simp [refusesPieces]
  | case2 place c cs ih =>
    rw [g.scan_cons]
    have hparts : ∀ ps, rowParts ((n, g.pieceAt place c cs) :: ps) =
        if (g.pieceAt place c cs).endsRecord then [] :: rowParts ps
        else (rowParts ps).modifyHead ((n, g.pieceAt place c cs) :: ·) :=
      fun ps => List.splitOnP_cons_eq_if_modifyHead _ ps
    rw [Piece.located, hparts]
    by_cases hend : (g.pieceAt place c cs).endsRecord = true
    · rw [if_pos hend, if_pos hend]
      refine ⟨[], _, rfl, ?_⟩
      rw [draftRecord_nil h.field_eq, place_of_endsRecord hend]
      have hne : rowParts (Piece.located g.delimiters
          (n + ((g.pieceAt place c cs).text g.delimiters).length)
          (g.pieces .start (g.restAt place c cs))) ≠ [] := List.splitOnP_ne_nil _ _
      rw [if_neg (by simp [refusesPieces]), if_neg hne]
      exact ⟨_, _, rfl, rfl⟩
    · rw [if_neg hend, if_neg hend]
      have hlast : ∀ (first : List (Nat × Piece)) (r : Record),
          (if place = .start ∧ fields = [] ∧ (n, g.pieceAt place c cs) :: first = [] then none
            else some r) = some r := fun first r => if_neg (by simp)
      by_cases hcolumn : g.pieceAt place c cs = .column
      · rw [hcolumn] at ih hlast ⊢
        obtain ⟨first, others, hsplit, hscan⟩ := ih (Follows.nil g _) (pushField fields field)
        refine ⟨(n, .column) :: first, others, by rw [hsplit]; rfl, ?_⟩
        have hrefuses : g.refusesPieces ((n, .column) :: first) = g.refusesPieces first := by
          simp [refusesPieces, Piece.marks, refuses]
        have hfields : ¬(Piece.column.place = .start ∧ pushField fields field = [] ∧ first = []) :=
          fun hnil => List.cons_ne_nil _ _ hnil.2.1
        rw [hrefuses, draftRecord_column h.field_eq, hlast]
        rwa [if_neg hfields] at hscan
      · rcases h.step fields c cs (Bool.eq_false_iff.2 hend) hcolumn with
          ⟨field', hextend, hallowed, hfollows⟩ | ⟨hextend, hrefused⟩
        · obtain ⟨first, others, hsplit, hscan⟩ := ih hfollows fields
          refine ⟨(n, g.pieceAt place c cs) :: first, others, by rw [hsplit]; rfl, ?_⟩
          have hrefuses : g.refusesPieces ((n, g.pieceAt place c cs) :: first) =
              g.refusesPieces first := by
            simp [refusesPieces, hallowed]
          have hplace : ¬((g.pieceAt place c cs).place = .start ∧ fields = [] ∧ first = []) :=
            fun hnil => place_ne_start (Bool.eq_false_iff.2 hend) hcolumn hnil.1
          rw [hrefuses, draftRecord_cons hcolumn, hextend, hlast]
          rwa [if_neg hplace] at hscan
        · have hne : rowParts (Piece.located g.delimiters
              (n + ((g.pieceAt place c cs).text g.delimiters).length)
              (g.pieces (g.pieceAt place c cs).place (g.restAt place c cs))) ≠ [] :=
            List.splitOnP_ne_nil _ _
          obtain ⟨first, others, hsplit⟩ := List.exists_cons_of_ne_nil hne
          refine ⟨(n, g.pieceAt place c cs) :: first, others, by rw [hsplit]; rfl, ?_⟩
          rw [if_pos (by simp [refusesPieces, hrefused]), hextend]
          exact ⟨_, rfl⟩

/-! ## All records -/

/-- Without a row delimiter, the pieces are those of one record, if there are any. -/
theorem recordPieces_of_single {first : List (Nat × Piece)} (h : rowParts pieces = [first]) :
    recordPieces pieces = if first = [] then [] else [first] := by
  unfold recordPieces
  rw [h]
  simp

/-- The pieces up to the first row delimiter are those of the first record. -/
theorem recordPieces_of_cons {first : List (Nat × Piece)} {rest : List (Nat × Piece)}
    (h : rowParts pieces = first :: rowParts rest) :
    recordPieces pieces = first :: recordPieces rest := by
  have hne : rowParts rest ≠ [] := List.splitOnP_ne_nil _ _
  have hlast : (first :: rowParts rest).getLast? = (rowParts rest).getLast? := by
    rw [List.getLast?_cons]
    cases hrest : (rowParts rest).getLast? with
    | none => exact absurd (List.getLast?_eq_none_iff.1 hrest) hne
    | some last => rfl
  unfold recordPieces
  rw [h, hlast, List.dropLast_cons_of_ne_nil hne]
  split_ifs <;> rfl

/-- **The first record** of a text is its first marked record, as the policy shows it, unless the
policy refuses that. -/
theorem front_marked (g : Grammar) (n : Nat) (text : Text) :
    (g.front text = .newline ∧ ∃ first others, g.markedRecords n text = first :: others ∧
        first.any g.refuses = true) ∨
      (g.front text = .nothing ∧ g.markedRecords n text = []) ∨
      ∃ first k rest, g.front text = .record (first.map g.newlines.shown) rest ∧
        g.markedRecords n text = first :: g.markedRecords k rest ∧ first.any g.refuses = false := by
  obtain ⟨first, others, hparts, hscan⟩ := scan_marked (Follows.nil g n) [] text
  have hdraft : g.draftRecord [] [] first = (g.markedFields first).map g.newlines.shown := by
    unfold draftRecord
    cases g.markedFields first <;> rfl
  rw [hdraft] at hscan
  have hrefuses := any_refuses_markedFields g first
  unfold front
  split_ifs at hscan with hrefused hothers hfirst
  · obtain ⟨rest, hscan⟩ := hscan
    have hne : first ≠ [] := by
      rintro rfl
      cases hrefused
    rw [hscan]
    refine Or.inl ⟨rfl, g.markedFields first, ?_⟩
    unfold markedRecords recordPieces
    rw [hparts]
    cases others with
    | nil => exact ⟨[], by simp [hne], hrefuses.trans hrefused⟩
    | cons o os =>
      rw [List.dropLast_cons_of_ne_nil (List.cons_ne_nil o os)]
      split_ifs
      · exact ⟨_, rfl, hrefuses.trans hrefused⟩
      · exact ⟨_, rfl, hrefuses.trans hrefused⟩
  · obtain ⟨-, -, rfl⟩ := hfirst
    refine Or.inr (Or.inl ⟨by rw [hscan], ?_⟩)
    unfold markedRecords
    rw [recordPieces_of_single (hothers ▸ hparts)]
    rfl
  · have hne : first ≠ [] := fun hnil => hfirst ⟨rfl, rfl, hnil⟩
    refine Or.inr (Or.inr ⟨g.markedFields first, 0, [], by rw [hscan], ?_, ?_⟩)
    · unfold markedRecords
      rw [recordPieces_of_single (hothers ▸ hparts), if_neg hne, pieces_nil]
      rfl
    · exact hrefuses.trans (Bool.eq_false_iff.2 hrefused)
  · obtain ⟨k, rest, hrest, hscan⟩ := hscan
    rw [hscan]
    refine Or.inr (Or.inr ⟨g.markedFields first, k, rest, rfl, ?_, ?_⟩)
    · rw [hrest] at hparts
      unfold markedRecords
      rw [recordPieces_of_cons hparts]
      rfl
    · exact hrefuses.trans (Bool.eq_false_iff.2 hrefused)

/-- **The records of a text are its marked records**, as the policy shows them, up to the first one
that the policy refuses. -/
theorem records_eq_marked (g : Grammar) (n : Nat) (text : Text) :
    g.records text =
      (((g.markedRecords n text).takeWhile fun r => !r.any g.refuses).map
        (·.map g.newlines.shown), (g.markedRecords n text).any (·.any g.refuses)) := by
  fun_induction g.records text generalizing n with
  | case1 text r rest hfront ih =>
    rcases g.front_marked n text with ⟨hnewline, -⟩ | ⟨hnothing, -⟩ |
      ⟨first, k, rest', hrecord, hmarked, hallowed⟩
    · rw [hfront] at hnewline
      cases hnewline
    · rw [hfront] at hnothing
      cases hnothing
    · rw [hfront] at hrecord
      cases hrecord
      rw [hmarked, ih k]
      simp [hallowed]
  | case2 text hfront =>
    rcases g.front_marked n text with ⟨hnewline, -⟩ | ⟨-, hmarked⟩ | ⟨first, k, rest', hrecord, -⟩
    · rw [hfront] at hnewline
      cases hnewline
    · rw [hmarked]
      rfl
    · rw [hfront] at hrecord
      cases hrecord
  | case3 text hfront =>
    rcases g.front_marked n text with ⟨-, first, others, hmarked, hrefused⟩ | ⟨hnothing, -⟩ |
      ⟨first, k, rest', hrecord, -⟩
    · rw [hmarked]
      simp [hrefused]
    · rw [hfront] at hnothing
      cases hnothing
    · rw [hfront] at hrecord
      cases hrecord

/-- A policy that refuses nothing shows all marked records. -/
theorem records_of_ne_reject (h : g.newlines ≠ .reject) (text : Text) :
    g.records text = ((g.markedRecords 0 text).map (·.map g.newlines.shown), false) := by
  have hallowed : ∀ r : List (List Mark), r.any g.refuses = false := by
    intro r
    simp [refuses, h]
  have hall : (g.markedRecords 0 text).takeWhile (fun r => !r.any g.refuses) =
      g.markedRecords 0 text := by
    rw [List.takeWhile_eq_take_findIdx_not, List.findIdx_eq_length_of_false, List.take_length]
    simp [hallowed]
  rw [g.records_eq_marked 0, hall]
  simp [hallowed]

/-- A policy that refuses newlines outside quotes shows the marked records before the first one that
holds such a newline. -/
theorem records_of_reject (h : g.newlines = .reject) (text : Text) :
    g.records text =
      (((g.markedRecords 0 text).take ((g.markedRecords 0 text).findIdx holdsNewline)).map
        (·.map Mark.plain), (g.markedRecords 0 text).any holdsNewline) := by
  have hrefuses : g.refuses = fun ms => ms.any Mark.isNewline := by
    funext ms
    simp [refuses, h]
  rw [g.records_eq_marked 0, hrefuses, h, List.takeWhile_eq_take_findIdx_not]
  simp only [Bool.not_not]
  rfl

/-- If newlines outside quotes are refused and no marked record holds one, all of them are shown. -/
theorem records_of_reject_none (h : g.newlines = .reject) {text : Text}
    (hfind : (g.markedRecords 0 text).findIdx? holdsNewline = none) :
    g.records text = ((g.markedRecords 0 text).map (·.map Mark.plain), false) := by
  have hnone : (g.markedRecords 0 text).any holdsNewline = false := by
    rw [← List.findIdx?_isSome, hfind]
    rfl
  rw [records_of_reject h, hnone, List.findIdx?_eq_none_iff_findIdx_eq.1 hfind, List.take_length]

/-- If newlines outside quotes are refused, the marked records before the first one that holds such a
newline are shown. -/
theorem records_of_reject_some (h : g.newlines = .reject) {text : Text} {k : Nat}
    (hfind : (g.markedRecords 0 text).findIdx? holdsNewline = some k) :
    g.records text = (((g.markedRecords 0 text).map (·.map Mark.plain)).take k, true) ∧
      (g.records text).1.length = k := by
  obtain ⟨hlt, hk⟩ := List.findIdx?_eq_some_iff_findIdx_eq.1 hfind
  have hsome : (g.markedRecords 0 text).any holdsNewline = true := by
    rw [← List.findIdx?_isSome, hfind]
    rfl
  have hrecords : g.records text =
      (((g.markedRecords 0 text).map (·.map Mark.plain)).take k, true) := by
    rw [records_of_reject h, hsome, hk, List.map_take]
  refine ⟨hrecords, ?_⟩
  rw [hrecords, List.length_take, List.length_map]
  exact Nat.min_eq_left (Nat.le_of_lt hlt)

end Grammar

/-! ## Parsers -/

namespace Parser

variable {σ : Type} [CharSource σ]

/-- What `n` calls for the next record give, one after another. An error does not end them. -/
def answers : Nat → Parser → σ → List (Except Error (Option Record))
  | 0, _, _ => []
  | n + 1, p, s => (p.next s).1 :: answers n (p.next s).2.1 (p.next s).2.2

/-- A parser that comes to a newline which is refused gives the records before it, and then the
error. -/
theorem At.answers_eq {p : Parser} {s : σ} {text : Text} (h : p.At s text)
    (hnewline : (p.grammar.records text).2 = true) :
    p.answers ((p.grammar.records text).1.length + 1) s =
      (p.grammar.records text).1.map (fun r => .ok (some r)) ++
        [.error (.unquotedNewline (p.records + (p.grammar.records text).1.length + 1))] := by
  generalize hg : p.grammar = g at hnewline ⊢
  fun_induction g.records text generalizing p s with
  | case1 text r rest hfront ih =>
    have hnext := h.next
    rw [hg, hfront] at hnext
    obtain ⟨b, t, heq, hat⟩ := hnext
    have hrest := ih hat rfl hnewline
    have hcount : p.records + 1 + (g.records rest).1.length + 1 =
        p.records + (r :: (g.records rest).1).length + 1 := by
      rw [List.length_cons]
      omega
    rw [List.length_cons, answers, heq]
    dsimp only
    rw [hrest, hcount]
    rfl
  | case2 text hfront => cases hnewline
  | case3 text hfront =>
    have hnext := h.next
    rw [hg, hfront] at hnext
    obtain ⟨t, heq⟩ := hnext
    show (p.next s).1 :: [] = _
    rw [heq]
    rfl

/-- A parser that refuses newlines outside quotes reports the first marked record that holds one,
after the records before it. -/
theorem reject_first {g : Grammar} (h : g.newlines = .reject) {text : Text} {k : Nat}
    (hfind : (g.markedRecords 0 text).findIdx? holdsNewline = some k) :
    ((ofGrammar g).parse text).1 = .error (.unquotedNewline (k + 1)) ∧
      (ofGrammar g).answers (k + 1) text =
        (((g.markedRecords 0 text).map (·.map Mark.plain)).take k).map (fun r => .ok (some r)) ++
          [.error (.unquotedNewline (k + 1))] := by
  obtain ⟨hrecords, hlength⟩ := records_of_reject_some h hfind
  have hanswers := (At.start (g := g) (Holds.refl text)).answers_eq
    (congrArg Prod.snd hrecords)
  rw [show (ofGrammar g).grammar = g from rfl, hlength, hrecords] at hanswers
  refine ⟨?_, ?_⟩
  · rw [parse_eq, hlength, hrecords]
    rfl
  · rw [hanswers]
    simp [ofGrammar]

/-- **What the newline policies give for one text.** The records that keep all newlines are the
marked records of the text. With spaces, the records are the same but for newlines outside quotes,
each of which became a space together with a carriage return outside quotes right before it. If
newlines outside quotes are refused, the records are the same unless one holds such a newline; the
first one that does is reported, after the records before it.

**Proof sketch.** The three grammars have the same marked records, and each parser gives these as its
policy shows them. No policy but the last one refuses any of them, and that one stops at the first
record that holds a newline outside quotes. -/
theorem newlines_outside_quotes (d : Delimiters) (quote : Option Char) (keepQuotes : Bool)
    (text : Text) :
    let parser (policy : NewlinePolicy) : Parser := .ofGrammar ⟨d, quote, keepQuotes, policy⟩
    let marked := (Grammar.mk d quote keepQuotes .preserve).markedRecords 0 text
    let records : List Record := marked.map (·.map Mark.plain)
    (∀ record ∈ marked, ∀ field ∈ record, ∀ m ∈ field, ∀ i,
        m.position = some i → text[i]? = some m.char) ∧
      ((parser .preserve).parse text).1 = .ok records ∧
      ((parser .space).parse text).1 = .ok (marked.map (·.map Mark.spaced)) ∧
      match marked.findIdx? holdsNewline with
      | none => ((parser .reject).parse text).1 = .ok records
      | some k =>
        ((parser .reject).parse text).1 = .error (.unquotedNewline (k + 1)) ∧
          (parser .reject).answers (k + 1) text =
            (records.take k).map (fun r => .ok (some r)) ++
              [.error (.unquotedNewline (k + 1))] := by
  intro parser marked records
  have hmarked : ∀ policy, (Grammar.mk d quote keepQuotes policy).markedRecords 0 text = marked :=
    fun policy => markedRecords_withNewlines (.mk d quote keepQuotes .preserve) policy 0 text
  refine ⟨?_, ?_, ?_, ?_⟩
  · intro record hrecord field hfield m hm i hi
    exact getElem?_of_mem_markedRecords hrecord hfield hm (by rw [hi, Nat.zero_add])
  · rw [parse_eq, records_of_ne_reject (g := .mk d quote keepQuotes .preserve)
      NewlinePolicy.noConfusion]
    rfl
  · rw [parse_eq, records_of_ne_reject (g := .mk d quote keepQuotes .space)
      NewlinePolicy.noConfusion, hmarked]
    rfl
  · have hreject := hmarked .reject
    cases hfind : marked.findIdx? holdsNewline with
    | none =>
      rw [← hreject] at hfind
      dsimp only
      rw [parse_eq, records_of_reject_none rfl hfind, hreject]
      rfl
    | some k =>
      rw [← hreject] at hfind
      have hfirst := reject_first rfl hfind
      rw [hreject] at hfirst
      exact hfirst

end Parser

end Delimited
