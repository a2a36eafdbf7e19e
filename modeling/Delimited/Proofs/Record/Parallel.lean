import Delimited.Proofs.Record.Records

set_option autoImplicit false
set_option relaxedAutoImplicit false

/-!
# Two grammars side by side

Grammars with the same delimiters and the same quote cut every text into the same pieces. If what they
make of a field can be kept in step, piece by piece, then the records of the one are those of the
other with their fields changed.

## Main definitions

* `Delimited.Grammar.Parallel` — two grammars whose fields are kept in step.

## Main results

* `Delimited.Grammar.Parallel.scan` — their scans find the same, up to the change of the fields.
* `Delimited.Grammar.Parallel.records` — so do all records of a text.
-/

namespace Delimited.Grammar

/-- What a scan found, with other fields. -/
def Scan.mapFields (f : Text → Text) : Scan → Scan
  | .record r => .record (r.map f)
  | .ended last => .ended (last.map (List.map f))
  | .failed fault => .failed fault
  | .newline => .newline

/-- What comes first in a text, with other fields. -/
def Front.mapFields (f : Text → Text) : Front → Front
  | .record r rest => .record (r.map f) rest
  | .nothing => .nothing
  | .newline => .newline

/-- Two grammars read **in parallel**: they take the same pieces, and each piece keeps what they make
of the field alike, where `Alike field field' place text` may also depend on the place and on the text
that is left. A complete field of the second is then `f` of that of the first. -/
structure Parallel (g g' : Grammar) (f : Text → Text)
    (Alike : Text → Text → Place → Text → Prop) : Prop where
  delimiters_eq : g'.delimiters = g.delimiters
  quote_eq : g'.quote = g.quote
  complete : ∀ {field field' : Text} {place : Place} {text : Text}, Alike field field' place text →
    f field.reverse = field'.reverse
  extend : ∀ {field field' : Text} {place : Place} {c : Char} {cs : Text},
    Alike field field' place (c :: cs) → (g.pieceAt place c cs).endsRecord = false →
      ∀ fields, ∃ fields' next next',
        g.extend? fields field place (g.pieceAt place c cs) = some (fields', next) ∧
        g'.extend? (fields.map f) field' place (g.pieceAt place c cs) =
          some (fields'.map f, next') ∧
        Alike next next' (g.pieceAt place c cs).place (g.restAt place c cs)

namespace Parallel

variable {g g' : Grammar} {f : Text → Text} {Alike : Text → Text → Place → Text → Prop}

/-- Both grammars read the same piece. -/
theorem pieceAt_eq (h : g.Parallel g' f Alike) (place : Place) (c : Char) (cs : Text) :
    g'.pieceAt place c cs = g.pieceAt place c cs := by
  rw [pieceAt, pieceAt, h.delimiters_eq, h.quote_eq]

/-- So they leave the same rest. -/
theorem restAt_eq (h : g.Parallel g' f Alike) (place : Place) (c : Char) (cs : Text) :
    g'.restAt place c cs = g.restAt place c cs := by
  rw [restAt, restAt, h.pieceAt_eq, h.delimiters_eq]

/-- The record that ends in both. -/
theorem complete_record (h : g.Parallel g' f Alike) {field field' text : Text} {place : Place}
    (halike : Alike field field' place text) (fields : List Text) :
    Grammar.complete (fields.map f) field' = (Grammar.complete fields field).map f := by
  rw [Grammar.complete, Grammar.complete, pushField, pushField, ← h.complete halike, ← List.map_cons,
    List.map_reverse]

/-- **Scans in parallel** find the same, with the fields changed.

**Proof sketch.** Induction along the pieces of the text. Both scans take the same piece, and the
fields go on or are complete. -/
theorem scan (h : g.Parallel g' f Alike) {field field' text : Text} {place : Place}
    (halike : Alike field field' place text) (fields : List Text) :
    g'.scan (fields.map f) field' place text =
      ((g.scan fields field place text).1.mapFields f, (g.scan fields field place text).2) := by
  fun_induction g.pieces place text generalizing fields field field' with
  | case1 place =>
    rw [scan_nil, scan_nil]
    have hlast : last? (fields.map f) field' place =
        (last? fields field place).map (List.map f) := by
      unfold last?
      simp only [h.complete_record halike, List.map_eq_nil_iff]
      split_ifs <;> rfl
    rw [hlast]
    rfl
  | case2 place c cs ih =>
    rw [scan_cons, scan_cons, h.pieceAt_eq, h.restAt_eq]
    cases hends : (g.pieceAt place c cs).endsRecord with
    | true =>
      rw [if_pos rfl, if_pos rfl, h.complete_record halike]
      rfl
    | false =>
      obtain ⟨fields', next, next', hfirst, hsecond, hnext⟩ := h.extend halike hends fields
      rw [if_neg Bool.false_ne_true, if_neg Bool.false_ne_true, hfirst, hsecond]
      exact ih hnext fields'

/-- So what comes first in a text is the same, with the fields changed. -/
theorem front (h : g.Parallel g' f Alike) {text : Text} (halike : Alike [] [] .start text) :
    g'.front text = (g.front text).mapFields f := by
  have hscan := h.scan halike []
  rw [List.map_nil] at hscan
  rw [Grammar.front, Grammar.front, hscan]
  rcases g.scan [] [] .start text with ⟨r | (_ | r) | fault | _, rest⟩ <;> rfl

/-- And so are **all records**.

**Proof sketch.** Induction along the records. What comes after one of them is an end of the text. -/
theorem records (h : g.Parallel g' f Alike) {text : Text}
    (halike : ∀ rest, rest <:+ text → Alike [] [] .start rest) :
    g'.records text = ((g.records text).1.map (List.map f), (g.records text).2) := by
  have hfirst := h.front (halike text List.suffix_rfl)
  fun_induction g.records text with
  | case1 text r rest hfront ih =>
    have hrest := fun more (hmore : more <:+ rest) =>
      halike more (hmore.trans (isSuffix_of_front hfront))
    rw [hfront] at hfirst
    rw [records_of_record hfirst, ih hrest (h.front (hrest rest List.suffix_rfl))]
    rfl
  | case2 text hfront =>
    rw [hfront] at hfirst
    rw [records_of_nothing hfirst]
    rfl
  | case3 text hfront =>
    rw [hfront] at hfirst
    rw [records_of_newline hfirst]
    rfl

end Parallel

end Delimited.Grammar
