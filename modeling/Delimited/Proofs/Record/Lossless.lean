import Delimited.Proofs.Record.Written

set_option autoImplicit false
set_option relaxedAutoImplicit false

/-!
# Nothing is lost

A grammar that keeps quotes and newlines loses nothing: the records of a text, joined by the
delimiters again, are the text, but for what its last row delimiter lacks. Every piece of a text
goes to the end of the record in the making or is the delimiter that ends it.

## Main definitions

* `Delimited.Grammar.Verbatim` — quotes and newlines are kept.
* `Delimited.Grammar.missing` — what a text lacks of the row delimiter of its last record.

## Main results

* `Delimited.Grammar.Verbatim.scan` — what a scan makes of a text, by induction on its pieces.
* `Delimited.Grammar.Verbatim.renderRows_records` — the written form of the records of a text.
-/

namespace Delimited

/-- What a record lacks of its row delimiter if this is its last piece. -/
def Piece.lacks (d : Delimiters) : Piece → Text
  | row => []
  | cutRow part => d.row.drop part.length
  | _ => d.row

namespace Grammar

variable {g : Grammar} {fields : List Text} {field : Text} {place : Place} {text : Text} {c : Char}
  {cs : Text}

/-- A grammar is **verbatim** if it keeps quotes and newlines. -/
structure Verbatim (g : Grammar) : Prop where
  keepQuotes : g.keepQuotes = true
  newlines : g.newlines = .preserve

/-- What a text **lacks** of the row delimiter of its last record: nothing if there is no record or
if it ends with a whole row delimiter; the rest of the delimiter if it ends inside one; and else all
of it. -/
def missing (g : Grammar) (text : Text) : Text :=
  ((g.pieces .start text).getLast?.map (Piece.lacks g.delimiters)).getD []

/-! ## Records in the making -/

/-- The characters of a record in the making, its column delimiters among them. -/
def draft (g : Grammar) (fields : List Text) (field : Text) : Text :=
  Record.joined g.delimiters.column (complete fields field)

/-- Characters outside all fields come between those of the fields. -/
theorem draft_eq (g : Grammar) (fields : List Text) (field : Text) :
    g.draft fields field =
      (if fields = [] then [] else
        Record.joined g.delimiters.column fields.reverse ++ g.delimiters.column) ++
          field.reverse := by
  unfold draft complete pushField
  rw [List.reverse_cons]
  split_ifs with h
  · subst h
    simp [Record.joined]
  · rw [Record.joined_append _ (by simpa using h) (by simp), List.append_assoc]
    simp [Record.joined]

/-- A further character comes last. -/
theorem draft_cons (x : Char) : g.draft fields (x :: field) = g.draft fields field ++ [x] := by
  rw [draft_eq, draft_eq, List.reverse_cons, List.append_assoc]

/-- After a field that is complete comes a column delimiter. -/
theorem draft_pushField :
    g.draft (pushField fields field) [] = g.draft fields field ++ g.delimiters.column := by
  have hne : pushField fields field ≠ [] := List.cons_ne_nil _ _
  rw [draft_eq, if_neg hne, List.reverse_nil, List.append_nil]
  rfl

/-- What a record in the making lacks of its row delimiter where the text ends. -/
def owed (g : Grammar) (fields : List Text) (place : Place) : Text :=
  if place = .start ∧ fields = [] then [] else g.delimiters.row

/-- Where a field is begun, all of the row delimiter is lacking. -/
theorem owed_of_ne (h : place ≠ .start) : g.owed fields place = g.delimiters.row :=
  if_neg fun hstart => h hstart.1

/-- What a record in the making lacks of its row delimiter after a text. -/
def lacking (g : Grammar) (fields : List Text) (place : Place) (text : Text) : Text :=
  ((g.pieces place text).getLast?.map (Piece.lacks g.delimiters)).getD (g.owed fields place)

/-- A piece that ends a record is a whole row delimiter, or the start of one that is all of the
text. -/
theorem ends_pieceAt (h : (g.pieceAt place c cs).endsRecord = true) :
    g.pieceAt place c cs = .row ∨
      (g.pieceAt place c cs = .cutRow (c :: cs) ∧ c :: cs <+: g.delimiters.row) := by
  have hplace := ne_quoted_of_endsRecord h
  have hopen : ¬(place = .start ∧ g.quote = some c) := by
    intro hstart
    unfold pieceAt at h
    rw [if_neg hplace, if_pos hstart] at h
    cases h
  rcases pieceAt_unquoted cs hplace hopen with ⟨hp, -, -⟩ | ⟨hp, -, -⟩ | ⟨hp, -, hpart⟩ | ⟨hp, -⟩
  · exact Or.inl hp
  · rw [hp] at h
    cases h
  · exact Or.inr ⟨hp, hpart⟩
  · rw [hp] at h
    cases h

/-- A piece that does not end a record goes to the end of the record in the making, which then
lacks all of its row delimiter. -/
theorem Verbatim.extend? (h : g.Verbatim) {piece : Piece} (hpiece : piece.endsRecord = false)
    (fields : List Text) (field : Text) (place : Place) :
    ∃ fields' field', g.extend? fields field place piece = some (fields', field') ∧
      g.draft fields' field' = g.draft fields field ++ piece.text g.delimiters ∧
      g.owed fields' piece.place = g.delimiters.row ∧
      piece.lacks g.delimiters = g.delimiters.row := by
  have hquote : ∀ field q, g.pushQuote field q = q :: field := by
    intro field q
    exact if_pos h.keepQuotes
  have hplain := fun x => pushPlain?_of_preserve h.newlines field x (place = .plain true)
  cases piece with
  | opening q =>
    refine ⟨fields, q :: field, ?_, draft_cons q, owed_of_ne (by simp [Piece.place]), rfl⟩
    rw [Grammar.extend?, hquote]
  | quoted x =>
    exact ⟨fields, x :: field, rfl, draft_cons x, owed_of_ne (by simp [Piece.place]), rfl⟩
  | doubled q =>
    refine ⟨fields, q :: q :: field, ?_, ?_, owed_of_ne (by simp [Piece.place]), rfl⟩
    · rw [Grammar.extend?, hquote]
    · rw [draft_cons, draft_cons, List.append_assoc]
      rfl
  | closing q =>
    refine ⟨fields, q :: field, ?_, draft_cons q, owed_of_ne (by simp [Piece.place]), rfl⟩
    rw [Grammar.extend?, hquote]
  | plain x =>
    refine ⟨fields, x :: field, ?_, draft_cons x, owed_of_ne (by simp [Piece.place]), rfl⟩
    rw [Grammar.extend?, hplain]
    rfl
  | column =>
    refine ⟨pushField fields field, [], rfl, draft_pushField, if_neg ?_, rfl⟩
    exact fun hfields => List.cons_ne_nil _ _ hfields.2
  | row => cases hpiece
  | cutRow part => cases hpiece

/-- What is lacking after a text of which the first piece is known. -/
theorem lacking_cons :
    g.lacking fields place (c :: cs) =
      (((g.pieces (g.pieceAt place c cs).place (g.restAt place c cs)).getLast?.map
        (Piece.lacks g.delimiters)).getD ((g.pieceAt place c cs).lacks g.delimiters)) := by
  unfold lacking
  rw [pieces_cons, List.getLast?_cons]
  cases (g.pieces (g.pieceAt place c cs).place (g.restAt place c cs)).getLast? <;> rfl

/-- **A verbatim scan loses nothing**: the record that it finds, with its row delimiter and with
what comes after that, is the record in the making with the text after it; and each of the two lacks
what its text lacks.

**Proof sketch.** Induction on the pieces of the text. A piece goes to the end of the record in the
making, or it is the row delimiter that ends the record, or the start of it; in the last case the
text is used up, and what is lacking is the rest of the delimiter. -/
theorem Verbatim.scan (h : g.Verbatim) (fields : List Text) (field : Text) (place : Place)
    (text : Text) :
    match g.scan fields field place text with
    | (.record r, rest) =>
      Record.joined g.delimiters.column r ++ (g.delimiters.row ++ (rest ++ g.missing rest)) =
        g.draft fields field ++ (text ++ g.lacking fields place text)
    | (.ended (some r), _) =>
      Record.joined g.delimiters.column r ++ g.delimiters.row =
        g.draft fields field ++ (text ++ g.lacking fields place text)
    | (.ended none, _) => g.owed fields place = [] ∧ text = []
    | _ => False := by
  fun_induction g.pieces place text generalizing fields field with
  | case1 place =>
    rw [g.scan_nil, last?]
    unfold lacking owed
    rw [pieces_nil]
    split_ifs
    · exact ⟨rfl, rfl⟩
    · rfl
  | case2 place c cs ih =>
    have happend := g.text_pieceAt_append place c cs
    rw [g.scan_cons, lacking_cons]
    by_cases hend : (g.pieceAt place c cs).endsRecord = true
    · rw [if_pos hend]
      rcases ends_pieceAt hend with hrow | ⟨hcut, rest, hrest⟩
      · rw [hrow] at happend ⊢
        rw [← happend, List.append_assoc]
        rfl
      · have hnil : g.restAt place c cs = [] := by
          rw [hcut] at happend
          exact List.append_right_eq_self.1 happend
        have hlacks : Piece.lacks g.delimiters (.cutRow (c :: cs)) = rest := by
          rw [Piece.lacks, ← hrest, List.drop_left]
        rw [hnil, hcut, pieces_nil, ← hrest]
        dsimp only [missing]
        rw [pieces_nil]
        show _ ++ (_ ++ ([] ++ [])) = _ ++ (_ ++ Piece.lacks g.delimiters (.cutRow (c :: cs)))
        rw [hlacks, List.append_nil, List.append_nil]
        rfl
    · rw [if_neg hend]
      obtain ⟨fields', field', hextend, hdraft, howed, hlacks⟩ :=
        h.extend? (Bool.eq_false_iff.2 hend) fields field place
      rw [hextend]
      have hnext := ih fields' field'
      unfold lacking at hnext
      rw [hdraft, howed] at hnext
      rw [hlacks, ← happend]
      dsimp only
      rcases hscan : g.scan fields' field' (g.pieceAt place c cs).place (g.restAt place c cs) with
        ⟨r | (_ | r) | fault | _, rest⟩
      · rw [hscan] at hnext
        dsimp only at hnext ⊢
        rw [hnext, List.append_assoc, List.append_assoc]
      · rw [hscan] at hnext
        exact absurd hnext.1 g.delimiters.row_ne
      · rw [hscan] at hnext
        dsimp only at hnext ⊢
        rw [hnext, List.append_assoc, List.append_assoc]
      · rw [hscan] at hnext
        exact hnext
      · rw [hscan] at hnext
        exact hnext

/-- The first record of a text, with its row delimiter and with the text after it, is the text, and
each of the two texts lacks the same. -/
theorem Verbatim.front (h : g.Verbatim) (text : Text) :
    match g.front text with
    | .record r rest =>
      Record.joined g.delimiters.column r ++ (g.delimiters.row ++ (rest ++ g.missing rest)) =
        text ++ g.missing text
    | .nothing => text = []
    | .newline => False := by
  have hscan := h.scan [] [] .start text
  unfold Grammar.front
  rcases g.scan_text_cases [] [] .start text with ⟨r, rest, heq⟩ | ⟨last, heq⟩ | ⟨rest, heq⟩
  · rw [heq] at hscan ⊢
    exact hscan
  · rw [heq] at hscan ⊢
    cases last with
    | none => exact hscan.2
    | some r =>
      dsimp only [missing]
      rw [pieces_nil]
      exact (congrArg _ (List.append_nil _)).trans hscan
  · rw [heq] at hscan
    exact False.elim hscan

/-- **Nothing is lost**: the records of a text, written with the same delimiters and without quotes,
are the text with what it lacks of its last row delimiter.

**Proof sketch.** Induction along the records. -/
theorem Verbatim.renderRows_records (h : g.Verbatim) (quote : Option Char) (text : Text) :
    (Layout.mk g.delimiters.column g.delimiters.row quote .never).renderRows (g.records text).1 =
      text ++ g.missing text := by
  have hfield : ∀ f,
      (Layout.mk g.delimiters.column g.delimiters.row quote .never).renderField f = f := by
    intro f
    cases quote <;> rfl
  have hrender : ∀ r, (Layout.mk g.delimiters.column g.delimiters.row quote .never).render r =
      Record.joined g.delimiters.column r := by
    intro r
    rw [Layout.render, List.map_congr_left fun f _ => hfield f, List.map_id']
  fun_induction g.records text with
  | case1 text r rest hfront ih =>
    have hfirst := h.front text
    rw [hfront] at hfirst
    rw [Layout.renderRows_cons, ih, hrender]
    exact hfirst
  | case2 text hfront =>
    have hfirst := h.front text
    rw [hfront] at hfirst
    subst hfirst
    dsimp only [missing]
    rw [pieces_nil]
    rfl
  | case3 text hfront =>
    have hfirst := h.front text
    rw [hfront] at hfirst
    exact hfirst.elim

/-- What is missing is an end of the row delimiter. -/
theorem missing_isSuffix (g : Grammar) (text : Text) : g.missing text <:+ g.delimiters.row := by
  unfold missing
  cases (g.pieces .start text).getLast? with
  | none => exact List.nil_suffix
  | some piece =>
    show piece.lacks g.delimiters <:+ g.delimiters.row
    unfold Piece.lacks
    split
    · exact List.nil_suffix
    · exact List.drop_suffix _ _
    · exact List.suffix_refl _

end Grammar

end Delimited
