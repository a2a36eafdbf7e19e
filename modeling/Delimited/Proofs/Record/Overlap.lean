import Delimited.Proofs.Record.AlwaysQuoted

set_option autoImplicit false
set_option relaxedAutoImplicit false

/-!
# Overlapping delimiters

If only fields that contain the quote or a delimiter are written in quotes, a delimiter may still be
seen where none was written: across the end of a field and the delimiter after it. This happens
exactly if the delimiters overlap.

## Main definitions

* `Delimited.Delimiters.NonOverlapping` — no delimiter begins where another one has not ended.
* `Delimited.Delimiters.Safe` — records are always read back.

## Main results

* `Delimited.Delimiters.readable_asNeeded` — delimiters that do not overlap are read back.
* `Delimited.Delimiters.exists_records_renderRows` — every text without the quote is written for
  some records, so delimiters that overlap give two lists of records with one written form.
* `Delimited.Delimiters.safe_iff_nonOverlapping` — the two properties agree.
-/

namespace Delimited

open Grammar

/-- Two texts are **comparable** if one begins with the other. -/
def Comparable (s t : Text) : Prop :=
  s <+: t ∨ t <+: s

/-- Whether two texts are comparable can be computed. -/
instance (s t : Text) : Decidable (Comparable s t) :=
  inferInstanceAs (Decidable (_ ∨ _))

/-- Texts with which one text begins are comparable. -/
theorem comparable_of_isPrefix {s t text : Text} (hs : s <+: text) (ht : t <+: text) :
    Comparable s t :=
  List.prefix_or_prefix_of_prefix hs ht

namespace Delimiters

variable {d : Delimiters} {q : Char}

/-- The delimiters **do not overlap** if neither begins with the other, and no proper end of one is
comparable to the other or to itself. -/
structure NonOverlapping (d : Delimiters) : Prop where
  incomparable : ¬Comparable d.row d.column
  apart : ∀ x ∈ [d.row, d.column], ∀ e ∈ [d.row, d.column], ∀ u v,
    x = u ++ v → u ≠ [] → v ≠ [] → ¬Comparable v e

/-- The proper ends of a delimiter are what is left after some of its characters, but not all. -/
theorem nonOverlapping_iff : d.NonOverlapping ↔ ¬Comparable d.row d.column ∧
    ∀ x ∈ [d.row, d.column], ∀ e ∈ [d.row, d.column], ∀ k < x.length,
      0 < k → ¬Comparable (x.drop k) e := by
  constructor
  · rintro ⟨hne, h⟩
    refine ⟨hne, fun x hx e he k hk hpos => ?_⟩
    refine h x hx e he (x.take k) (x.drop k) (List.take_append_drop k x).symm ?_ ?_
    · rw [ne_eq, List.take_eq_nil_iff, not_or]
      exact ⟨Nat.ne_of_gt hpos, List.ne_nil_of_length_pos (Nat.lt_of_le_of_lt (Nat.zero_le k) hk)⟩
    · rw [ne_eq, List.drop_eq_nil_iff]
      exact Nat.not_le_of_gt hk
  · rintro ⟨hne, h⟩
    refine ⟨hne, fun x hx e he u v hxuv hu hv => ?_⟩
    have hk := h x hx e he u.length
    rw [hxuv, List.length_append, List.drop_left] at hk
    exact hk (Nat.lt_add_of_pos_right (List.length_pos_iff.2 hv)) (List.length_pos_iff.2 hu)

/-- Whether delimiters do not overlap can be computed. -/
instance (d : Delimiters) : Decidable d.NonOverlapping :=
  decidable_of_iff' _ d.nonOverlapping_iff

/-- There are two delimiters. -/
theorem eq_or_eq_of_mem {x : Text} (h : x ∈ [d.row, d.column]) : x = d.row ∨ x = d.column := by
  simpa using h

/-- The delimiters are **safe** with a quote if all records are read back that are written with
quotes only around fields that need them. -/
def Safe (d : Delimiters) (q : Char) : Prop :=
  ∀ records : List Record, (∀ r ∈ records, r ≠ []) →
    ((Parser.ofGrammar (d.grammar q .preserve)).parse
      ((d.layout q .asNeeded).renderRows records)).1 = .ok records

/-- A text is **plain** if it is written without quotes. -/
structure Plain (d : Delimiters) (q : Char) (text : Text) : Prop where
  quote : q ∉ text
  row : ¬d.row <:+: text
  column : ¬d.column <:+: text

/-- A field needs quotes unless it is plain. -/
theorem needsQuotes_iff {f : Text} :
    (d.layout q .asNeeded).needsQuotes q f = true ↔ ¬d.Plain q f := by
  have hneeds : (d.layout q .asNeeded).needsQuotes q f =
      (f.contains q || Layout.occursIn d.column f || Layout.occursIn d.row f) := rfl
  rw [hneeds, Bool.or_eq_true, Bool.or_eq_true, List.contains_iff_mem, Layout.occursIn_iff,
    Layout.occursIn_iff]
  constructor
  · rintro ((h | h) | h) hplain
    · exact hplain.quote h
    · exact hplain.column h
    · exact hplain.row h
  · intro h
    by_contra hnot
    simp only [not_or] at hnot
    exact h ⟨hnot.1.1, hnot.2, hnot.1.2⟩

/-- A plain field is written as it is. -/
theorem Plain.renderField {f : Text} (h : d.Plain q f) :
    (d.layout q .asNeeded).renderField f = f :=
  if_neg fun hneeds => needsQuotes_iff.1 hneeds h

/-- Other fields are written in quotes. -/
theorem renderField_of_not_plain {f : Text} (h : ¬d.Plain q f) :
    (d.layout q .asNeeded).renderField f = q :: Layout.doubled q f ++ [q] :=
  if_pos (needsQuotes_iff.2 h)

/-- An empty field is plain. -/
theorem plain_nil (d : Delimiters) (q : Char) : d.Plain q [] where
  quote := List.not_mem_nil
  row h := d.row_ne (List.infix_nil.1 h)
  column h := d.column_ne (List.infix_nil.1 h)

/-! ## Delimiters that do not overlap -/

/-- After a plain field, no delimiter is seen before the one that was written.

**Proof sketch.** A delimiter that is seen earlier begins in the field. It does not end there, since
the field is plain; so a proper end of it stands where a delimiter was written, and is comparable to
that one. The start of a row delimiter with which the text ends would contain the delimiter that was
written. -/
theorem NonOverlapping.classify_field (h : d.NonOverlapping) {u v e rest : Text}
    (hplain : d.Plain q (u ++ v)) (hv : v ≠ []) (he : e ∈ [d.row, d.column]) :
    d.classify (v ++ (e ++ rest)) = (.data, 1) := by
  have hbefore : ∀ x ∈ [d.row, d.column], ¬x <:+: u ++ v → ¬x <+: v ++ (e ++ rest) := by
    intro x hx hin hseen
    rcases comparable_of_isPrefix hseen (List.prefix_append v (e ++ rest)) with hle | ⟨w, rfl⟩
    · exact hin (hle.isInfix.trans (List.suffix_append u v).isInfix)
    · cases w with
      | nil =>
        rw [List.append_nil] at hin
        exact hin (List.suffix_append u v).isInfix
      | cons c w =>
        have hw := (List.prefix_append_right_inj v).1 hseen
        exact h.apart _ hx e he v (c :: w) rfl hv (List.cons_ne_nil _ _)
          (comparable_of_isPrefix hw (List.prefix_append e rest))
  apply classify_data
  · exact hbefore d.row List.mem_cons_self hplain.row
  · exact hbefore d.column (List.mem_cons_of_mem _ List.mem_cons_self) hplain.column
  · rintro ⟨w, hw⟩
    have hne : e ++ rest ++ w ≠ [] := by
      have : e ≠ [] := by
        rcases eq_or_eq_of_mem he with rfl | rfl
        · exact d.row_ne
        · exact d.column_ne
      simp [this]
    refine h.apart d.row List.mem_cons_self e he v (e ++ rest ++ w) ?_ hv hne ?_
    · rw [← hw]
      simp
    · rw [List.append_assoc]
      exact Or.inr (List.prefix_append _ _)

/-- A delimiter after which another text begins is the one that is seen. -/
theorem NonOverlapping.classify_row (h : d.NonOverlapping) (rest : Text) :
    d.classify (d.row ++ rest) = (.row, d.row.length) :=
  Delimiters.classify_row (List.prefix_append _ _) fun hc =>
    absurd (comparable_of_isPrefix (List.prefix_append _ _) hc) h.incomparable

/-- Where delimiters do not overlap, a column delimiter is taken for one. -/
theorem NonOverlapping.classify_column (h : d.NonOverlapping) (rest : Text) :
    d.classify (d.column ++ rest) = (.column, d.column.length) :=
  Delimiters.classify_column (List.prefix_append _ _) fun hr =>
    absurd (comparable_of_isPrefix hr (List.prefix_append _ _)) h.incomparable

/-- A written field is scanned as that field, up to a delimiter after it. -/
theorem NonOverlapping.scan_field (h : d.NonOverlapping) (hq : d.Avoids q) (fields : List Text)
    (f rest : Text) {e : Text} (he : e ∈ [d.row, d.column]) :
    ∃ place, place ≠ .quoted ∧
      (d.grammar q .preserve).scan fields [] .start
          ((d.layout q .asNeeded).renderField f ++ (e ++ rest)) =
        (d.grammar q .preserve).scan fields f.reverse place (e ++ rest) := by
  by_cases hplain : d.Plain q f
  · rw [hplain.renderField]
    have hdata : ∀ u v, f = u ++ v → v ≠ [] → d.classify (v ++ (e ++ rest)) = (.data, 1) :=
      fun u v huv hv => h.classify_field (huv ▸ hplain) hv he
    obtain ⟨place, hplace, hscan⟩ := scan_data (g := d.grammar q .preserve) rfl fields [] f .start
      (by decide) (quote_ne .preserve hplain.quote) hdata
    refine ⟨place, hplace, ?_⟩
    rw [hscan, List.append_nil]
  · rw [renderField_of_not_plain hplain]
    refine ⟨.plain false, by decide, ?_⟩
    apply scan_quoted_field
    rcases eq_or_eq_of_mem he with rfl | rfl
    · exact head?_append_ne d.row_ne hq.1
    · exact head?_append_ne d.column_ne hq.2

/-- **Delimiters that do not overlap are readable**, whatever follows them. -/
theorem readable_asNeeded (h : d.NonOverlapping) (hq : d.Avoids q) :
    (d.layout q .asNeeded).Readable (d.grammar q .preserve) fun _ => True where
  nil := trivial
  field _ _ := trivial
  scan_row fields f rest _ := by
    obtain ⟨place, hplace, hscan⟩ := h.scan_field hq fields f rest (e := d.row) List.mem_cons_self
    show (d.grammar q .preserve).scan fields [] .start
      ((d.layout q .asNeeded).renderField f ++ (d.row ++ rest)) = _
    rw [hscan]
    exact scan_row (g := d.grammar q .preserve) fields f.reverse hplace (quote_ne .preserve hq.1)
      (h.classify_row rest)
  scan_column fields f rest _ := by
    obtain ⟨place, hplace, hscan⟩ := h.scan_field hq fields f rest (e := d.column)
      (List.mem_cons_of_mem _ List.mem_cons_self)
    show (d.grammar q .preserve).scan fields [] .start
      ((d.layout q .asNeeded).renderField f ++ (d.column ++ rest)) = _
    rw [hscan]
    exact scan_column (g := d.grammar q .preserve) fields f.reverse hplace
      (quote_ne .preserve hq.2) (h.classify_column rest)

/-! ## Delimiters that overlap -/

/-- Delimiters are not safe if two lists of records have one written form. -/
theorem not_safe_of_renderRows_eq (records records' : List Record) (h : ∀ r ∈ records, r ≠ [])
    (h' : ∀ r ∈ records', r ≠ []) (hne : records ≠ records')
    (heq : (d.layout q .asNeeded).renderRows records = (d.layout q .asNeeded).renderRows records') :
    ¬d.Safe q := by
  intro hsafe
  have hread := hsafe records h
  rw [heq, hsafe records' h'] at hread
  exact hne (Except.ok.inj hread).symm

/-- A text in which a part occurs is cut there into two shorter ones. -/
theorem exists_cut {part text : Text} (hpart : part ≠ []) (h : part <:+: text) :
    ∃ x y, x ++ (part ++ y) = text ∧ x.length < text.length ∧ y.length < text.length ∧
      x <:+: text ∧ y <:+: text := by
  obtain ⟨x, y, hxy⟩ := h
  have hlen := List.length_pos_iff.2 hpart
  refine ⟨x, y, by rw [← hxy, List.append_assoc], ?_, ?_, ?_, ?_⟩
  · rw [← hxy, List.length_append, List.length_append]
    omega
  · rw [← hxy, List.length_append, List.length_append]
    omega
  · exact ⟨[], part ++ y, by rw [← hxy, List.nil_append, List.append_assoc]⟩
  · exact ⟨x ++ part, [], by rw [← hxy, List.append_nil]⟩

/-- A text with neither the quote nor a row delimiter is written for some record.

**Proof sketch.** Induction on the length. A text with a column delimiter is cut there; any other is
one plain field. -/
theorem exists_record_render (d : Delimiters) (q : Char) (text : Text) (hq : q ∉ text)
    (hrow : ¬d.row <:+: text) :
    ∃ r, r ≠ [] ∧ (d.layout q .asNeeded).render r = text := by
  by_cases hcol : d.column <:+: text
  · obtain ⟨x, y, hxy, hx, hy, hxin, hyin⟩ := exists_cut d.column_ne hcol
    obtain ⟨r, hr, hrx⟩ := exists_record_render d q x (fun h => hq (hxin.subset h))
      fun h => hrow (h.trans hxin)
    obtain ⟨r', hr', hry⟩ := exists_record_render d q y (fun h => hq (hyin.subset h))
      fun h => hrow (h.trans hyin)
    refine ⟨r ++ r', by simp [hr], ?_⟩
    rw [Layout.render_append _ hr hr', hrx, hry, layout_column, hxy]
  · refine ⟨[text], List.cons_ne_nil _ _, ?_⟩
    rw [Layout.render_singleton]
    exact Plain.renderField ⟨hq, hrow, hcol⟩
termination_by text.length

/-- **A text without the quote is written for some records**, up to the row delimiter at its end.

**Proof sketch.** Induction on the length. A text with a row delimiter is cut there; any other is
written for one record. -/
theorem exists_records_renderRows (d : Delimiters) (q : Char) (text : Text) (hq : q ∉ text) :
    ∃ records, records ≠ [] ∧ (∀ r ∈ records, r ≠ []) ∧
      (d.layout q .asNeeded).renderRows records = text ++ d.row := by
  by_cases hrow : d.row <:+: text
  · obtain ⟨x, y, hxy, hx, hy, hxin, hyin⟩ := exists_cut d.row_ne hrow
    obtain ⟨rs, hrs, hall, hrx⟩ := exists_records_renderRows d q x fun h => hq (hxin.subset h)
    obtain ⟨rs', -, hall', hry⟩ := exists_records_renderRows d q y fun h => hq (hyin.subset h)
    refine ⟨rs ++ rs', by simp [hrs], ?_, ?_⟩
    · intro r hr
      exact (List.mem_append.1 hr).elim (hall r) (hall' r)
    · rw [Layout.renderRows_append, hrx, hry, ← hxy, List.append_assoc, List.append_assoc,
        List.append_assoc]
  · obtain ⟨r, hr, hrt⟩ := exists_record_render d q text hq hrow
    refine ⟨[r], List.cons_ne_nil _ _, by simpa using hr, ?_⟩
    rw [Layout.renderRows_cons, Layout.renderRows_nil, hrt, layout_row, List.append_nil]
termination_by text.length

/-- A part of a delimiter that avoids the quote has no quote. -/
theorem Avoids.of_isInfix (hq : d.Avoids q) {x w : Text} (hx : x ∈ [d.row, d.column])
    (hw : w <:+: x) : q ∉ w := by
  rcases eq_or_eq_of_mem hx with rfl | rfl
  · exact fun h => hq.1 (hw.subset h)
  · exact fun h => hq.2 (hw.subset h)

/-- Delimiters are not safe if the row delimiter occurs in the column delimiter.

**Proof sketch.** The column delimiter between two empty fields is also the written form of at least
two records. -/
theorem not_safe_of_row_isInfix_column (hq : d.Avoids q) (h : d.row <:+: d.column) : ¬d.Safe q := by
  obtain ⟨x, y, hxy, -, -, hxin, hyin⟩ := exists_cut d.row_ne h
  have hin : d.column ∈ [d.row, d.column] := List.mem_cons_of_mem _ List.mem_cons_self
  obtain ⟨rs, hrs, hall, hx⟩ := exists_records_renderRows d q x (hq.of_isInfix hin hxin)
  obtain ⟨rs', hrs', hall', hy⟩ := exists_records_renderRows d q y (hq.of_isInfix hin hyin)
  have hempty := (plain_nil d q).renderField
  refine not_safe_of_renderRows_eq [[[], []]] (rs ++ rs') (by simp) ?_ ?_ ?_
  · intro r hr
    exact (List.mem_append.1 hr).elim (hall r) (hall' r)
  · intro heq
    have hlen := congrArg List.length heq
    have h1 := List.length_pos_iff.2 hrs
    have h2 := List.length_pos_iff.2 hrs'
    simp only [List.length_append, List.length_cons, List.length_nil] at hlen
    omega
  · rw [Layout.renderRows_append, hx, hy, Layout.renderRows_cons, Layout.render_cons_cons,
      Layout.render_singleton, hempty, Layout.renderRows_nil, layout_row, layout_column, ← hxy]
    simp

/-- Delimiters are not safe if the column delimiter occurs in the row delimiter.

**Proof sketch.** The row delimiter after an empty field is also the written form of a record with
at least two fields, up to a further row delimiter. -/
theorem not_safe_of_column_isInfix_row (hq : d.Avoids q) (h : d.column <:+: d.row) : ¬d.Safe q := by
  obtain ⟨x, y, hxy, hxlt, hylt, hxin, hyin⟩ := exists_cut d.column_ne h
  have hin : d.row ∈ [d.row, d.column] := List.mem_cons_self
  obtain ⟨r, hr, hx⟩ := exists_record_render d q x (hq.of_isInfix hin hxin)
    fun hrow => Nat.not_le_of_gt hxlt hrow.length_le
  obtain ⟨r', hr', hy⟩ := exists_record_render d q y (hq.of_isInfix hin hyin)
    fun hrow => Nat.not_le_of_gt hylt hrow.length_le
  have hempty := (plain_nil d q).renderField
  refine not_safe_of_renderRows_eq [[[]], [[]]] [r ++ r'] (by simp) (by simp [hr]) ?_ ?_
  · intro heq
    cases congrArg List.length heq
  · rw [Layout.renderRows_cons, Layout.renderRows_cons, Layout.renderRows_cons,
      Layout.render_append _ hr hr', hx, hy, Layout.render_singleton, hempty, layout_row,
      layout_column, hxy]
    simp [Layout.renderRows_nil]

/-- A proper part of a delimiter is plain if neither delimiter occurs in the other. -/
theorem plain_of_isInfix (hq : d.Avoids q) (hrc : ¬d.row <:+: d.column) (hcr : ¬d.column <:+: d.row)
    {x w : Text} (hx : x ∈ [d.row, d.column]) (hw : w <:+: x) (hlt : w.length < x.length) :
    d.Plain q w := by
  have hquote := hq.of_isInfix hx hw
  rcases eq_or_eq_of_mem hx with rfl | rfl
  · refine ⟨hquote, fun h => ?_, fun h => hcr (h.trans hw)⟩
    have := h.length_le
    omega
  · refine ⟨hquote, fun h => hrc (h.trans hw), fun h => ?_⟩
    have := h.length_le
    omega

/-- Two plain fields are written with either delimiter between them, as two records or as one. -/
theorem exists_renderRows_of_plain {x a b : Text} (hx : x ∈ [d.row, d.column]) (ha : d.Plain q a)
    (hb : d.Plain q b) :
    ∃ fs rs, (∀ r ∈ (a :: fs) :: rs, r ≠ []) ∧
      (d.layout q .asNeeded).renderRows ((a :: fs) :: rs) = a ++ (x ++ (b ++ d.row)) := by
  rcases eq_or_eq_of_mem hx with rfl | rfl
  · refine ⟨[], [[b]], by simp, ?_⟩
    rw [Layout.renderRows_cons, Layout.renderRows_cons, Layout.render_singleton,
      Layout.render_singleton, ha.renderField, hb.renderField, Layout.renderRows_nil, layout_row,
      List.append_nil]
  · refine ⟨[b], [], by simp, ?_⟩
    rw [Layout.renderRows_cons, Layout.render_cons_cons, Layout.render_singleton, ha.renderField,
      hb.renderField, Layout.renderRows_nil, layout_row, layout_column, List.append_nil]
    simp

/-- Delimiters are not safe if a proper end of one begins the other, or begins itself.

**Proof sketch.** Say that `x = u ++ v` and `e = v ++ y`. Then `u ++ e` is `x ++ y`, so a field `u`
before `e` is written like an empty field before `x` and `y`. -/
theorem not_safe_of_overlap (hq : d.Avoids q) (hrc : ¬d.row <:+: d.column)
    (hcr : ¬d.column <:+: d.row) {x e u v y : Text} (hx : x ∈ [d.row, d.column])
    (he : e ∈ [d.row, d.column]) (hxuv : x = u ++ v) (hevy : e = v ++ y) (hu : u ≠ [])
    (hv : v ≠ []) : ¬d.Safe q := by
  have hulen := List.length_pos_iff.2 hu
  have hvlen := List.length_pos_iff.2 hv
  have hplainu : d.Plain q u := by
    refine plain_of_isInfix hq hrc hcr hx ⟨[], v, by rw [hxuv]; simp⟩ ?_
    rw [hxuv, List.length_append]
    omega
  have hplainy : d.Plain q y := by
    refine plain_of_isInfix hq hrc hcr he ⟨v, [], by rw [hevy]; simp⟩ ?_
    rw [hevy, List.length_append]
    omega
  obtain ⟨fs, rs, hall, hwritten⟩ := exists_renderRows_of_plain he hplainu (plain_nil d q)
  obtain ⟨fs', rs', hall', hwritten'⟩ := exists_renderRows_of_plain hx (plain_nil d q) hplainy
  refine not_safe_of_renderRows_eq _ _ hall hall' ?_ ?_
  · intro heq
    obtain ⟨hrecord, -⟩ := List.cons.inj heq
    exact hu (List.cons.inj hrecord).1
  · rw [hwritten, hwritten', hxuv, hevy]
    simp

/-- **Delimiters are safe exactly if they do not overlap**, with any quote that occurs in neither.

**Proof sketch.** Delimiters that do not overlap are readable. If delimiters overlap, either one
occurs in the other or a proper end of one begins one of them, and some text is the written form of
two lists of records. -/
theorem safe_iff_nonOverlapping (d : Delimiters) (q : Char) (hq : d.Avoids q) :
    d.Safe q ↔ d.NonOverlapping := by
  constructor
  · intro hsafe
    have hrc : ¬d.row <:+: d.column := fun h => not_safe_of_row_isInfix_column hq h hsafe
    have hcr : ¬d.column <:+: d.row := fun h => not_safe_of_column_isInfix_row hq h hsafe
    refine ⟨?_, ?_⟩
    · rintro (h | h)
      · exact hrc h.isInfix
      · exact hcr h.isInfix
    · rintro x hx e he u v hxuv hu hv (⟨y, hevy⟩ | hev)
      · exact not_safe_of_overlap hq hrc hcr hx he hxuv hevy.symm hu hv hsafe
      · -- all of `e` lies inside `x`, after its first character
        have hulen := List.length_pos_iff.2 hu
        have hin : e <:+: x := hev.isInfix.trans (hxuv ▸ (List.suffix_append u v).isInfix)
        have hlt : e.length < x.length := by
          have := hev.length_le
          rw [hxuv, List.length_append]
          omega
        rcases eq_or_eq_of_mem hx with rfl | rfl <;> rcases eq_or_eq_of_mem he with rfl | rfl
        · exact Nat.lt_irrefl _ hlt
        · exact hcr hin
        · exact hrc hin
        · exact Nat.lt_irrefl _ hlt
  · intro h records hrecords
    exact (readable_asNeeded h hq).parse_renderRows_of_readable records hrecords

/-- Of two pairs of delimiters that avoid the quote, one is safe, and the other is not, because two
bars overlap themselves. -/
theorem safe_carets_and_not_safe_bars :
    let carets : Delimiters := ⟨['@', '@', '\n'], ['^', '|'], by decide, by decide⟩
    let bars : Delimiters := ⟨['\n'], ['|', '|'], by decide, by decide⟩
    (carets.Avoids '"' ∧ carets.Safe '"') ∧ bars.Avoids '"' ∧ ¬bars.Safe '"' :=
  ⟨⟨by decide, (safe_iff_nonOverlapping _ '"' (by decide)).2 (by decide)⟩, by decide,
    fun h => absurd ((safe_iff_nonOverlapping _ '"' (by decide)).1 h) (by decide)⟩

end Delimiters

end Delimited
