import Delimited.Proofs.Record.Records
import Delimited.Record.Layout

set_option autoImplicit false
set_option relaxedAutoImplicit false

/-!
# Reading what was written

Records that were written one after another are read back if every written field, together with the
delimiter after it, is scanned as that field and that delimiter. What may follow a delimiter
matters, because a scan looks ahead.

## Main definitions

* `Delimited.Layout.renderRows` — the written form of several records.
* `Delimited.Layout.Readable` — fields and delimiters are scanned as they were written.

## Main results

* `Delimited.Layout.Readable.records_renderRows_append`,
  `Delimited.Layout.Readable.records_renderRows` — then the records are those that were written.
* `Delimited.Grammar.scan_quotation`, `Delimited.Grammar.scan_data` — scanning the content of a
  quoted and of an unquoted field.
* `Delimited.Grammar.scan_row`, `Delimited.Grammar.scan_column` — scanning a delimiter.
-/

namespace Delimited

open Grammar

/-- Two records in one row are joined with a separator between them. -/
theorem Record.joined_append (separator : Text) {r r' : Record} (hr : r ≠ []) (hr' : r' ≠ []) :
    Record.joined separator (r ++ r') =
      Record.joined separator r ++ (separator ++ Record.joined separator r') := by
  unfold Record.joined
  induction r with
  | nil => exact absurd rfl hr
  | cons f fs ih =>
    by_cases hfs : fs = []
    · subst hfs
      rw [List.singleton_append, List.intercalate_cons_of_ne_nil hr', List.intercalate_singleton,
        List.append_assoc]
    · have hne : fs ++ r' ≠ [] := by simp [hr']
      rw [List.cons_append, List.intercalate_cons_of_ne_nil hne, ih hfs,
        List.intercalate_cons_of_ne_nil hfs, List.append_assoc, List.append_assoc,
        List.append_assoc]

namespace Layout

/-- The **written form** of records, one after another. -/
def renderRows (layout : Layout) (records : List Record) : Text :=
  records.flatMap layout.renderRow

/-- A part occurs in a text if the text holds it as one piece. -/
theorem occursIn_iff {part text : Text} : occursIn part text = true ↔ part <:+: text := by
  induction text with
  | nil => simp [occursIn]
  | cons c cs ih =>
    rw [occursIn, Bool.or_eq_true, ih, List.isPrefixOf_iff_prefix, List.infix_cons_iff]

variable {layout : Layout}

/-- The written form of the first of several fields comes first. -/
theorem render_cons_cons (f f' : Text) (fs : Record) :
    layout.render (f :: f' :: fs) =
      layout.renderField f ++ (layout.column ++ layout.render (f' :: fs)) := by
  simp [render, Record.joined, List.intercalate_cons_cons]

/-- A record of one field is that field. -/
theorem render_singleton (f : Text) : layout.render [f] = layout.renderField f := by
  simp [render, Record.joined]

/-- Two records in one row are written with a column delimiter between them. -/
theorem render_append (layout : Layout) {r r' : Record} (hr : r ≠ []) (hr' : r' ≠ []) :
    layout.render (r ++ r') = layout.render r ++ (layout.column ++ layout.render r') := by
  unfold render
  rw [List.map_append, Record.joined_append _ (by simpa using hr) (by simpa using hr')]

/-- No records have no text. -/
theorem renderRows_nil : layout.renderRows [] = [] := rfl

/-- Records are written one after another, each with a row delimiter. -/
theorem renderRows_cons (r : Record) (rs : List Record) :
    layout.renderRows (r :: rs) = layout.render r ++ (layout.row ++ layout.renderRows rs) := by
  simp [renderRows, renderRow]

/-- The text of records that follow others comes after theirs. -/
theorem renderRows_append (rs rs' : List Record) :
    layout.renderRows (rs ++ rs') = layout.renderRows rs ++ layout.renderRows rs' :=
  List.flatMap_append

/-- A written record begins with its first field. -/
theorem exists_render_cons (layout : Layout) (f : Text) (fs : Record) :
    ∃ rest, layout.render (f :: fs) = layout.renderField f ++ rest := by
  cases fs with
  | nil => exact ⟨[], by rw [render_singleton, List.append_nil]⟩
  | cons f' fs => exact ⟨_, render_cons_cons f f' fs⟩

/-- A layout is **readable** by a grammar, where only certain texts follow a delimiter: an empty
text, and every text that begins with a written field, are among them; and a written field with a
delimiter after it is scanned as that field and that delimiter. -/
structure Readable (layout : Layout) (g : Grammar) (follows : Text → Prop) : Prop where
  nil : follows []
  field : ∀ f rest, follows (layout.renderField f ++ rest)
  scan_row : ∀ fields f rest, follows rest →
    g.scan fields [] .start (layout.renderField f ++ (layout.row ++ rest)) =
      (.record (complete fields f.reverse), rest)
  scan_column : ∀ fields f rest, follows rest →
    g.scan fields [] .start (layout.renderField f ++ (layout.column ++ rest)) =
      g.scan (pushField fields f.reverse) [] .start rest

namespace Readable

variable {g : Grammar} {follows : Text → Prop}

/-- A written record may follow a delimiter. -/
theorem follows_render (h : layout.Readable g follows) {r : Record} (hr : r ≠ []) (rest : Text) :
    follows (layout.render r ++ rest) := by
  obtain ⟨f, fs, rfl⟩ := List.exists_cons_of_ne_nil hr
  obtain ⟨more, hmore⟩ := exists_render_cons layout f fs
  rw [hmore, List.append_assoc]
  exact h.field f _

/-- A written record is scanned field by field up to its last one. -/
theorem scan_render_append (h : layout.Readable g follows) (r : Record) (f : Text)
    (fields : List Text) (rest : Text) :
    g.scan fields [] .start (layout.render (r ++ [f]) ++ rest) =
      g.scan (r.reverse ++ fields) [] .start (layout.renderField f ++ rest) := by
  induction r generalizing fields with
  | nil =>
    rw [List.nil_append, render_singleton]
    rfl
  | cons f' r ih =>
    have hr : r ++ [f] ≠ [] := List.concat_ne_nil f r
    rw [List.cons_append, ← List.singleton_append, render_append layout (List.cons_ne_nil _ _) hr,
      render_singleton, List.append_assoc, List.append_assoc,
      h.scan_column fields f' _ (h.follows_render hr rest), ih (pushField fields f'.reverse)]
    simp [pushField]

/-- A written record is scanned as the record that was written. -/
theorem scan_render (h : layout.Readable g follows) {r : Record} (hr : r ≠ []) {rest : Text}
    (hrest : follows rest) (fields : List Text) :
    g.scan fields [] .start (layout.render r ++ (layout.row ++ rest)) =
      (.record (fields.reverse ++ r), rest) := by
  obtain ⟨init, last, rfl⟩ : ∃ init last, r = init ++ [last] :=
    ⟨_, _, (List.dropLast_concat_getLast hr).symm⟩
  rw [h.scan_render_append, h.scan_row _ last rest hrest]
  simp [complete, pushField]

/-- Written records, before what may follow a delimiter, may follow one. -/
theorem follows_renderRows_append (h : layout.Readable g follows) {records : List Record}
    (hne : ∀ r ∈ records, r ≠ []) {tail : Text} (htail : follows tail) :
    follows (layout.renderRows records ++ tail) := by
  cases records with
  | nil => exact htail
  | cons r rs =>
    rw [renderRows_cons, List.append_assoc]
    exact h.follows_render (hne r List.mem_cons_self) _

/-- **Written records are read back**, and after them the records of what follows. -/
theorem records_renderRows_append (h : layout.Readable g follows) (records : List Record)
    (hne : ∀ r ∈ records, r ≠ []) {tail : Text} (htail : follows tail) :
    g.records (layout.renderRows records ++ tail) =
      (records ++ (g.records tail).1, (g.records tail).2) := by
  induction records with
  | nil => rfl
  | cons r rs ih =>
    have hrs : ∀ r ∈ rs, r ≠ [] := fun r hr => hne r (List.mem_cons_of_mem _ hr)
    have hfront : g.front (layout.renderRows (r :: rs) ++ tail) =
        .record r (layout.renderRows rs ++ tail) := by
      rw [front, renderRows_cons, List.append_assoc, List.append_assoc,
        h.scan_render (hne r List.mem_cons_self) (h.follows_renderRows_append hrs htail) []]
      rfl
    rw [records_of_record hfront, ih hrs]
    rfl

/-- **Written records are read back.** -/
theorem records_renderRows (h : layout.Readable g follows) (records : List Record)
    (hne : ∀ r ∈ records, r ≠ []) : g.records (layout.renderRows records) = (records, false) := by
  have hall := h.records_renderRows_append records hne h.nil
  rwa [records_nil, List.append_nil, List.append_nil] at hall

/-- A parser of the grammar gives the records that were written. -/
theorem parse_renderRows_of_readable (h : layout.Readable g follows) (records : List Record)
    (hne : ∀ r ∈ records, r ≠ []) :
    ((Parser.ofGrammar g).parse (layout.renderRows records)).1 = .ok records := by
  rw [Parser.parse_eq, h.records_renderRows records hne]
  rfl

end Readable

end Layout

/-! ## Scanning written fields and delimiters -/

namespace Grammar

variable {g : Grammar} {q : Char}

/-- The content of a quotation, with its quotes doubled, is scanned as that content. A further quote
must not come right after the closing one. -/
theorem scan_quotation (hquote : g.quote = some q) (hkeep : g.keepQuotes = false)
    (fields : List Text) (field content : Text) {rest : Text} (hrest : rest.head? ≠ some q) :
    g.scan fields field .quoted (Layout.doubled q content ++ q :: rest) =
      g.scan fields (content.reverse ++ field) (.plain false) rest := by
  induction content generalizing field with
  | nil =>
    show g.scan fields field .quoted (q :: rest) = _
    rw [g.scan_cons, restAt, pieceAt_closing hquote hrest]
    simp [Piece.endsRecord, extend?, pushQuote, hkeep, Piece.place, Piece.text]
  | cons c cs ih =>
    by_cases hc : c = q
    · subst hc
      have hd : Layout.doubled c (c :: cs) = c :: c :: Layout.doubled c cs := by
        simp [Layout.doubled]
      rw [hd, List.cons_append, List.cons_append, g.scan_cons, restAt, pieceAt_doubled hquote]
      simpa [Piece.endsRecord, extend?, pushQuote, hkeep, Piece.place, Piece.text]
        using ih (c :: field)
    · have hd : Layout.doubled q (c :: cs) = c :: Layout.doubled q cs := by
        simp [Layout.doubled, hc]
      rw [hd, List.cons_append, g.scan_cons, restAt,
        pieceAt_quoted (by rw [hquote]; simpa using Ne.symm hc)]
      simpa [Piece.endsRecord, extend?, Piece.place, Piece.text] using ih (c :: field)

/-- A delimiter that does not have the quote begins with a character that opens no quotation. -/
theorem exists_head_of_quote_ne {e : Text} (he : e ≠ []) (hquote : ∀ c ∈ e, g.quote ≠ some c)
    (place : Place) : ∃ c cs, e = c :: cs ∧ ¬(place = .start ∧ g.quote = some c) := by
  obtain ⟨c, cs, rfl⟩ := List.exists_cons_of_ne_nil he
  refine ⟨c, cs, rfl, ?_⟩
  rintro ⟨-, hq⟩
  exact hquote c List.mem_cons_self hq

/-- Outside quotes, a row delimiter that counts and does not begin with the quote ends the
record. -/
theorem scan_row (fields : List Text) (field : Text) {place : Place} {rest : Text}
    (hplace : place ≠ .quoted) (hquote : ∀ c ∈ g.delimiters.row, g.quote ≠ some c)
    (hclass : g.delimiters.classify (g.delimiters.row ++ rest) =
      (.row, g.delimiters.row.length)) :
    g.scan fields field place (g.delimiters.row ++ rest) =
      (.record (complete fields field), rest) := by
  obtain ⟨c, cs, hrow, hopen⟩ := exists_head_of_quote_ne g.delimiters.row_ne hquote place
  have hpiece : g.pieceAt place c (cs ++ rest) = .row := by
    rw [pieceAt, if_neg hplace, if_neg hopen, ← List.cons_append, ← hrow, hclass]
    exact if_pos rfl
  have hrest : g.restAt place c (cs ++ rest) = rest := by
    rw [restAt, hpiece, ← List.cons_append, ← hrow]
    exact List.drop_left
  rw [hrow, List.cons_append, g.scan_cons, hpiece, hrest]
  rfl

/-- Outside quotes, a column delimiter that counts and does not begin with the quote ends the
field. -/
theorem scan_column (fields : List Text) (field : Text) {place : Place} {rest : Text}
    (hplace : place ≠ .quoted) (hquote : ∀ c ∈ g.delimiters.column, g.quote ≠ some c)
    (hclass : g.delimiters.classify (g.delimiters.column ++ rest) =
      (.column, g.delimiters.column.length)) :
    g.scan fields field place (g.delimiters.column ++ rest) =
      g.scan (pushField fields field) [] .start rest := by
  obtain ⟨c, cs, hcolumn, hopen⟩ := exists_head_of_quote_ne g.delimiters.column_ne hquote place
  have hpiece : g.pieceAt place c (cs ++ rest) = .column := by
    rw [pieceAt, if_neg hplace, if_neg hopen, ← List.cons_append, ← hcolumn, hclass]
  have hrest : g.restAt place c (cs ++ rest) = rest := by
    rw [restAt, hpiece, ← List.cons_append, ← hcolumn]
    exact List.drop_left
  rw [hcolumn, List.cons_append, g.scan_cons, hpiece, hrest]
  rfl

/-- Outside quotes, content without the quote in which no delimiter begins is scanned as that
content, if newlines are kept. -/
theorem scan_data (hnewlines : g.newlines = .preserve) (fields : List Text) (field content : Text)
    (place : Place) {rest : Text} (hplace : place ≠ .quoted)
    (hquote : ∀ c ∈ content, g.quote ≠ some c)
    (hdata : ∀ u v, content = u ++ v → v ≠ [] → g.delimiters.classify (v ++ rest) = (.data, 1)) :
    ∃ place', place' ≠ .quoted ∧ g.scan fields field place (content ++ rest) =
      g.scan fields (content.reverse ++ field) place' rest := by
  induction content generalizing field place with
  | nil => exact ⟨place, hplace, rfl⟩
  | cons c cs ih =>
    have hopen : ¬(place = .start ∧ g.quote = some c) := by
      rintro ⟨-, hq⟩
      exact hquote c List.mem_cons_self hq
    have hpiece : g.pieceAt place c (cs ++ rest) = .plain c := by
      rw [pieceAt, if_neg hplace, if_neg hopen, ← List.cons_append,
        hdata [] (c :: cs) rfl (List.cons_ne_nil _ _)]
    have hpush := pushPlain?_of_preserve hnewlines field c (place = .plain true)
    obtain ⟨place', hplace', ih⟩ := ih (c :: field) (.plain (c = '\r')) (by simp)
      (fun x hx => hquote x (List.mem_cons_of_mem _ hx))
      (fun u v huv hv => hdata (c :: u) v (by rw [huv]; rfl) hv)
    refine ⟨place', hplace', ?_⟩
    rw [List.cons_append, g.scan_cons, restAt, hpiece]
    simpa [Piece.endsRecord, extend?, hpush, Piece.place, Piece.text] using ih

end Grammar

end Delimited
