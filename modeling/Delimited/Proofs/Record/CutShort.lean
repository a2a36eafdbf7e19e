import Delimited.Proofs.Record.AlwaysQuoted
import Mathlib.Data.List.DropRight

set_option autoImplicit false
set_option relaxedAutoImplicit false

/-!
# Quoted records of which the last delimiter is cut short

A file may lose its end. If all fields are written in quotes and the end is lost inside the last row
delimiter, no record is lost, and none is added: the end of the text completes the record after a
closing quote, and a row delimiter of which the start stands at the end of the text counts as a
whole one. Only a column delimiter with which the row delimiter begins is in the way, since a cut may
leave exactly that.

## Main results

* `Delimited.Delimiters.scan_cut` — a cut row delimiter ends the record, and the text.
* `Delimited.Delimiters.records_render_append_cut` — a record in quotes before a cut row delimiter is
  the only record.
* `Delimited.Delimiters.parse_rdrop_renderRows` — quoted records are read back without the end of
  the last delimiter.
-/

namespace Delimited

open Grammar

namespace Delimiters

variable {d : Delimiters} {q : Char}

/-- The proper start of a row delimiter is classified as one, unless it begins with a column
delimiter. -/
theorem classify_of_isPrefix_row {part : Text} (hpart : part <+: d.row)
    (hshort : part.length < d.row.length) (hcolumn : ¬d.column <+: d.row) :
    d.classify part = (.row, part.length) := by
  apply classify_cut
  · intro h
    exact absurd h.length_le (Nat.not_le_of_lt hshort)
  · exact fun h => hcolumn (h.trans hpart)
  · exact hpart

/-- After a closing quote, **a cut row delimiter** with which the text ends is taken together with
the record that it ends. -/
theorem scan_cut (newlines : NewlinePolicy) (hq : q ∉ d.row) (hcolumn : ¬d.column <+: d.row)
    (fields : List Text) (field : Text) {c : Char} {cs : Text} (hpart : c :: cs <+: d.row)
    (hshort : (c :: cs).length < d.row.length) :
    (d.grammar q newlines).scan fields field (.plain false) (c :: cs) =
      (.record (complete fields field), []) := by
  have hquote : (d.grammar q newlines).quote ≠ some c :=
    quote_ne newlines hq c (hpart.subset List.mem_cons_self)
  have hpiece : (d.grammar q newlines).pieceAt (.plain false) c cs = .cutRow (c :: cs) := by
    have hclass : (d.grammar q newlines).delimiters.classify (c :: cs) = _ :=
      classify_of_isPrefix_row hpart hshort hcolumn
    rw [pieceAt, if_neg (by decide), if_neg fun h => hquote h.2, hclass]
    exact if_neg (Nat.ne_of_lt hshort)
  have hrest : (d.grammar q newlines).restAt (.plain false) c cs = [] := by
    rw [restAt, hpiece]
    exact List.drop_length
  rw [scan_cons, hpiece, hrest]
  rfl

/-- **A record in quotes before a cut row delimiter** is the only record. If nothing is left of the
delimiter, the end of the text completes the record; otherwise what is left does. -/
theorem records_render_append_cut (newlines : NewlinePolicy) (hq : d.Avoids q)
    (hcolumn : ¬d.column <+: d.row) {r : Record} (hr : r ≠ []) {part : Text}
    (hpart : part <+: d.row) (hshort : part.length < d.row.length) :
    (d.grammar q newlines).records ((d.layout q .always).render r ++ part) = ([r], false) := by
  have hne : d.row ≠ d.column := fun h => hcolumn (h ▸ List.prefix_rfl)
  obtain ⟨init, last, rfl⟩ : ∃ init last, r = init ++ [last] :=
    ⟨_, _, (List.dropLast_concat_getLast hr).symm⟩
  have hhead : part.head? ≠ some q := fun h =>
    hq.1 (hpart.subset (List.mem_of_mem_head? (Option.mem_def.2 h)))
  have hscan : (d.grammar q newlines).scan [] [] .start
        ((d.layout q .always).render (init ++ [last]) ++ part) =
      (d.grammar q newlines).scan init.reverse last.reverse (.plain false) part := by
    rw [(readable_always hq hne newlines).scan_render_append, List.append_nil]
    exact scan_quoted_field newlines init.reverse last hhead
  have hcomplete : complete init.reverse last.reverse = init ++ [last] := by
    simp [complete, pushField]
  have hfront : (d.grammar q newlines).front
      ((d.layout q .always).render (init ++ [last]) ++ part) = .record (init ++ [last]) [] := by
    unfold front
    cases part with
    | nil =>
      rw [hscan, scan_nil, last?, if_neg (by simp), hcomplete]
    | cons c cs =>
      rw [hscan, scan_cut newlines hq.1 hcolumn init.reverse last.reverse hpart hshort, hcomplete]
  rw [records_of_record hfront, records_nil]

/-- Cutting the end of written records inside the last row delimiter leaves that delimiter's
start. -/
theorem rdrop_renderRows_concat (layout : Layout) (records : List Record) (r : Record) {k : Nat}
    (hk : k ≤ layout.row.length) :
    (layout.renderRows (records ++ [r])).rdrop (layout.row.length - k) =
      layout.renderRows records ++ (layout.render r ++ layout.row.take k) := by
  rw [Layout.renderRows_append, Layout.renderRows_cons, Layout.renderRows_nil, List.append_nil,
    ← List.append_assoc, ← List.append_assoc, List.rdrop_append_of_le_length _ (Nat.sub_le _ _),
    List.rdrop, Nat.sub_sub_self hk]

/-- **A cut final row delimiter is harmless for quoted records**: if all fields are written in
quotes, the delimiters do not have the quote, and the row delimiter does not begin with the column
delimiter, exactly the records that were written are read back from what is left after the last row
delimiter is cut down to its first `k` characters.

**Proof sketch.** What is left is the written form of all records but the last one, and after it the
last one with its cut delimiter. The former are read as they were written, since a quote follows;
the latter is the only record of its text. -/
theorem parse_rdrop_renderRows (d : Delimiters) (q : Char) (newlines : NewlinePolicy)
    (hq : d.Avoids q) (hcolumn : ¬d.column <+: d.row) (records : List Record) (hne : records ≠ [])
    (hrecords : ∀ r ∈ records, r ≠ []) {k : Nat} (hk : k < d.row.length) :
    ((Parser.ofGrammar (d.grammar q newlines)).parse
      (((d.layout q .always).renderRows records).rdrop (d.row.length - k))).1 = .ok records := by
  have hdistinct : d.row ≠ d.column := fun h => hcolumn (h ▸ List.prefix_rfl)
  have hreadable := readable_always hq hdistinct newlines
  obtain ⟨init, last, rfl⟩ : ∃ init last, records = init ++ [last] :=
    ⟨_, _, (List.dropLast_concat_getLast hne).symm⟩
  have hlast : last ≠ [] := hrecords last List.mem_concat_self
  have hinit : ∀ r ∈ init, r ≠ [] := fun r hr => hrecords r (List.mem_append_left _ hr)
  have hend := records_render_append_cut newlines hq hcolumn hlast (List.take_prefix k d.row)
    (by rw [List.length_take]; omega)
  have hcut := rdrop_renderRows_concat (d.layout q .always) init last (Nat.le_of_lt hk)
  rw [layout_row] at hcut
  rw [hcut, Parser.parse_eq, hreadable.records_renderRows_append init hinit
    (hreadable.follows_render hlast _), hend]
  rfl

/-- The row delimiter is two newlines, the column delimiter one newline more, and newlines outside
quotes are not allowed: fields of newlines and of quotes are read back before one newline. -/
theorem parse_rdrop_renderRows_newlines :
    let d : Delimiters := ⟨['\n', '\n'], ['\n', '\n', '\n'], by decide, by decide⟩
    let records : List Record := [[['\n', '\n'], ['"'], []], [[], ['\n']]]
    d.Avoids '"' ∧ ¬d.column <+: d.row ∧ records ≠ [] ∧ (∀ r ∈ records, r ≠ []) ∧
      1 < d.row.length ∧
      ((Parser.ofGrammar (d.grammar '"' .reject)).parse
        (((d.layout '"' .always).renderRows records).rdrop (d.row.length - 1))).1 = .ok records :=
  ⟨by decide, by decide, by decide, by decide, by decide,
    parse_rdrop_renderRows _ '"' .reject (by decide) (by decide) _ (by decide) (by decide)
      (by decide)⟩

end Delimiters

end Delimited
