import Delimited.Proofs.Record.Written

set_option autoImplicit false
set_option relaxedAutoImplicit false

/-!
# Records with all fields in quotes

If all fields are written in quotes, records are read back whatever they contain, as long as the
delimiters differ and do not contain the quote. The delimiters may overlap in any way, and one may
begin with the other: after a delimiter comes a quote or the end of the text, so no longer delimiter
can be seen there.

## Main definitions

* `Delimited.Delimiters.layout`, `Delimited.Delimiters.grammar` — writing and reading with a quote.

## Main results

* `Delimited.Delimiters.parse_renderRows_always` — what is written in quotes is read back.
-/

namespace Delimited

open Grammar

namespace Delimiters

variable {d : Delimiters} {q : Char}

/-- Writing with these delimiters and a quote. -/
def layout (d : Delimiters) (q : Char) (mode : QuoteMode) : Layout :=
  ⟨d.column, d.row, some q, mode⟩

/-- Records are laid out with the row delimiter. -/
@[simp] theorem layout_row (mode : QuoteMode) : (d.layout q mode).row = d.row := rfl

/-- So are they with the column delimiter. -/
@[simp] theorem layout_column (mode : QuoteMode) : (d.layout q mode).column = d.column := rfl

/-- Reading with these delimiters and a quote, which is not kept. -/
def grammar (d : Delimiters) (q : Char) (newlines : NewlinePolicy) : Grammar :=
  ⟨d, some q, false, newlines⟩

/-- The quote occurs in neither delimiter. -/
def Avoids (d : Delimiters) (q : Char) : Prop :=
  q ∉ d.row ∧ q ∉ d.column

/-- Whether delimiters avoid a character can be computed. -/
instance (d : Delimiters) (q : Char) : Decidable (d.Avoids q) :=
  inferInstanceAs (Decidable (_ ∧ _))

/-- A field in quotes is scanned as its content, whatever follows that is not a quote. -/
theorem scan_quoted_field (newlines : NewlinePolicy) (fields : List Text) (content : Text)
    {rest : Text} (hrest : rest.head? ≠ some q) :
    (d.grammar q newlines).scan fields [] .start
        (q :: Layout.doubled q content ++ [q] ++ rest) =
      (d.grammar q newlines).scan fields content.reverse (.plain false) rest := by
  have hquote : (d.grammar q newlines).quote = some q := rfl
  have hopening : (d.grammar q newlines).scan fields [] .start
        (q :: Layout.doubled q content ++ [q] ++ rest) =
      (d.grammar q newlines).scan fields [] .quoted (Layout.doubled q content ++ q :: rest) := by
    rw [List.append_assoc, List.cons_append, scan_cons, restAt, pieceAt_opening hquote]
    rfl
  rw [hopening, scan_quotation hquote rfl fields [] content hrest, List.append_nil]

/-- A delimiter does not begin with a quote that occurs in neither. -/
theorem head?_append_ne {e rest : Text} (hne : e ≠ []) (hq : q ∉ e) :
    (e ++ rest).head? ≠ some q := by
  cases e with
  | nil => exact absurd rfl hne
  | cons c cs =>
    intro h
    obtain rfl : c = q := by simpa using h
    exact hq List.mem_cons_self

/-- A text that begins with a text before a quote, and has no quote, is no longer than that. -/
theorem length_le_of_isPrefix {e e' rest : Text} (hq : q ∉ e')
    (hrest : rest = [] ∨ rest.head? = some q) (h : e' <+: e ++ rest) : e'.length ≤ e.length := by
  rcases hrest with rfl | hrest
  · rw [List.append_nil] at h
    exact h.length_le
  · obtain ⟨xs, rfl⟩ := List.head?_eq_some_iff.1 hrest
    rcases List.prefix_or_prefix_of_prefix h (List.prefix_append e (q :: xs)) with hle | ⟨w, rfl⟩
    · exact hle.length_le
    · cases w with
      | nil => simp
      | cons x w =>
        have hw := (List.prefix_append_right_inj e).1 h
        obtain rfl : x = q := (List.cons_prefix_cons.1 hw).1
        exact absurd (List.mem_append_right _ List.mem_cons_self) hq

/-- No character of a text without the quote is the quote of the grammar. -/
theorem quote_ne {e : Text} (newlines : NewlinePolicy) (hq : q ∉ e) :
    ∀ c ∈ e, (d.grammar q newlines).quote ≠ some c := by
  intro c hc h
  obtain rfl : q = c := by simpa [grammar] using h
  exact hq hc

/-- **All fields in quotes are readable**, where a quote or nothing follows each delimiter.

**Proof sketch.** After the closing quote stands a delimiter, and after that a quote or nothing. The
other delimiter counts there only if it is longer, but then it would contain the quote or go on
after the end of the text. -/
theorem readable_always (hq : d.Avoids q) (hne : d.row ≠ d.column) (newlines : NewlinePolicy) :
    (d.layout q .always).Readable (d.grammar q newlines)
      fun rest => rest = [] ∨ rest.head? = some q where
  nil := Or.inl rfl
  field f rest := Or.inr rfl
  scan_row fields f rest hrest := by
    have hclass : d.classify (d.row ++ rest) = (.row, d.row.length) :=
      classify_row (List.prefix_append _ _) fun h => length_le_of_isPrefix hq.2 hrest h
    show (d.grammar q newlines).scan fields [] .start
      (q :: Layout.doubled q f ++ [q] ++ (d.row ++ rest)) = _
    rw [scan_quoted_field newlines fields f (head?_append_ne d.row_ne hq.1)]
    exact scan_row (g := d.grammar q newlines) fields f.reverse (by decide)
      (quote_ne newlines hq.1) hclass
  scan_column fields f rest hrest := by
    have hclass : d.classify (d.column ++ rest) = (.column, d.column.length) := by
      refine classify_column (List.prefix_append _ _) fun h => ?_
      refine Nat.lt_of_le_of_ne (length_le_of_isPrefix hq.1 hrest h) fun hlen => hne ?_
      have hle := List.prefix_of_prefix_length_le h (List.prefix_append _ _) (Nat.le_of_eq hlen)
      exact hle.eq_of_length hlen
    show (d.grammar q newlines).scan fields [] .start
      (q :: Layout.doubled q f ++ [q] ++ (d.column ++ rest)) = _
    rw [scan_quoted_field newlines fields f (head?_append_ne d.column_ne hq.2)]
    exact scan_column (g := d.grammar q newlines) fields f.reverse (by decide)
      (quote_ne newlines hq.2) hclass

/-- **What is written with all fields in quotes is read back**, whatever the fields contain and
whatever becomes of newlines outside quotes, if the delimiters differ and do not contain the
quote. -/
theorem parse_renderRows_always (d : Delimiters) (q : Char) (newlines : NewlinePolicy)
    (hq : d.Avoids q) (hne : d.row ≠ d.column) (records : List Record)
    (hrecords : ∀ r ∈ records, r ≠ []) :
    ((Parser.ofGrammar (d.grammar q newlines)).parse
      ((d.layout q .always).renderRows records)).1 = .ok records :=
  (readable_always hq hne newlines).parse_renderRows_of_readable records hrecords

/-- Fields that hold a delimiter, a quote, a newline and nothing are read back, although the column
delimiter begins the row delimiter and newlines outside quotes are not allowed. -/
theorem parse_renderRows_bars :
    let d : Delimiters := ⟨['|', '|'], ['|'], by decide, by decide⟩
    let records : List Record := [[['|', '|'], ['"', '\n'], []], [[]]]
    d.Avoids '"' ∧ d.row ≠ d.column ∧ (∀ r ∈ records, r ≠ []) ∧
      ((Parser.ofGrammar (d.grammar '"' .reject)).parse
        ((d.layout '"' .always).renderRows records)).1 = .ok records :=
  ⟨by decide, by decide, by decide,
    parse_renderRows_always _ '"' .reject (by decide) (by decide) _ (by decide)⟩

end Delimiters

end Delimited
