import Delimited.Proofs.Run.Course

set_option autoImplicit false
set_option relaxedAutoImplicit false

/-!
# Runs that drop and check nothing

A run that neither drops nor checks anything, and that leaves rows as they are, writes exactly the
records of its input. The records that any run writes with the identity are records of its input.

## Main definitions

* `Delimited.Config.Direct` — the settings drop nothing, check nothing and keep newlines.

## Main results

* `Delimited.Pipeline.course_direct` — such a run writes all records of a text.
* `Delimited.Pipeline.written_ne_nil` — with the identity, every record that is written has a field.
-/

namespace Delimited

/-- A configuration is **direct** if nothing of the input is dropped or checked, and newlines are
kept. -/
structure Config.Direct (c : Config) : Prop where
  stripMark : c.stripMark = false
  skippedRows : c.skippedRows = 0
  hasHeader : c.hasHeader = false
  skipEmptyRows : c.skipEmptyRows = false
  expectedColumns : c.expectedColumns = 0
  widthCheck : c.widthCheck = none
  newlines : c.newlines = .preserve

namespace Grammar

variable {g : Grammar}

/-- A record that is complete has its last field. -/
theorem complete_ne_nil (fields : List Text) (field : Text) : complete fields field ≠ [] := by
  simp [complete, pushField]

/-- A record that a scan finds has at least one field. -/
theorem ne_nil_of_scan {fields : List Text} {field : Text} {place : Place} {text : Text} {r : Record}
    (h : (g.scan fields field place text).1 = .record r ∨
      (g.scan fields field place text).1 = .ended (some r)) : r ≠ [] := by
  fun_induction g.pieces place text generalizing fields field with
  | case1 place =>
    rw [g.scan_nil, last?] at h
    rcases h with h | h
    · cases h
    · split_ifs at h
      · cases h
      · cases h
        exact complete_ne_nil fields field
  | case2 place c cs ih =>
    rw [g.scan_cons] at h
    split_ifs at h
    · rcases h with h | h
      · cases h
        exact complete_ne_nil fields field
      · cases h
    · rcases hextend : g.extend? fields field place (g.pieceAt place c cs) with _ | next
      · rw [hextend] at h
        rcases h with h | h <;> cases h
      · rw [hextend] at h
        exact ih h

/-- The first record of a text has at least one field. -/
theorem ne_nil_of_front {text rest : Text} {r : Record} (h : g.front text = .record r rest) :
    r ≠ [] := by
  unfold front at h
  split at h
  · next hscan =>
    cases h
    exact ne_nil_of_scan (Or.inl (congrArg Prod.fst hscan))
  · next hscan =>
    cases h
    exact ne_nil_of_scan (Or.inr (congrArg Prod.fst hscan))
  · cases h
  · cases h
  · cases h

/-- **Every record has a field.** -/
theorem ne_nil_of_mem_records {text : Text} {r : Record} (h : r ∈ (g.records text).1) : r ≠ [] := by
  fun_induction g.records text with
  | case1 text first rest hfront ih =>
    rcases List.mem_cons.1 h with rfl | hrest
    · exact ne_nil_of_front hfront
    · exact ih hrest
  | case2 text hfront => cases h
  | case3 text hfront => cases h

/-- Every row is a record, so it has a field. -/
theorem ne_nil_of_mem_rows {skipEmpty : Bool} {n : Nat} {text : Text} {r : Record}
    (h : r ∈ (g.rows skipEmpty n text).1) : r ≠ [] :=
  ne_nil_of_mem_records (List.mem_filter.1 h).1

end Grammar

namespace Pipeline

variable {pl : Pipeline}

/-! ## What the identity writes -/

/-- The identity gives back a data row or fails. -/
theorem convertRow_identity {number : Nat} {q q' : Processor.identity.State} {row record : Record}
    (h : pl.convertRow .identity number q row = (.ok record, q')) : record = row := by
  unfold convertRow at h
  split at h
  · cases h
  · split at h
    · cases h
    · cases h
      rfl

/-- The identity writes the first few of the data rows. -/
theorem convertRows_identity_isPrefix (fault : Option Error) (n : Nat)
    (q : Processor.identity.State) (rows : List Record) :
    (pl.convertRows .identity fault n q rows).2 <+: rows := by
  induction rows generalizing n q with
  | nil =>
    unfold convertRows
    cases fault <;> exact List.nil_prefix
  | cons row rows ih =>
    rw [convertRows]
    rcases hrow : pl.convertRow .identity (n + 1) q row with ⟨e | record, q'⟩
    · exact List.nil_prefix
    · obtain rfl := convertRow_identity hrow
      exact (List.prefix_cons_inj record).2 (ih (n + 1) q')

/-- The data rows that the identity writes have a field, if the header that is written has one, and
the rows have. -/
theorem courseOfData_ne_nil {written rows : List Record} {fault : Option Error}
    (hwritten : ∀ r ∈ written, r ≠ []) (hrows : ∀ r ∈ rows, r ≠ []) :
    ∀ r ∈ (pl.courseOfData .identity written fault rows).written, r ≠ [] := by
  intro r hr
  rcases List.mem_append.1 hr with hr | hr
  · exact hwritten r hr
  · exact hrows r ((convertRows_identity_isPrefix fault 0 _ rows).subset hr)

/-- So do the header and the data rows together. -/
theorem courseOfRows_ne_nil {rows : List Record} {fault : Option Error}
    (hrows : ∀ r ∈ rows, r ≠ []) : ∀ r ∈ (pl.courseOfRows .identity rows fault).written, r ≠ [] := by
  have hnone : ∀ r ∈ ([] : List Record), r ≠ [] := by simp
  by_cases hheader : pl.config.hasHeader = true
  · cases rows with
    | nil =>
      rw [courseOfRows_nil hheader]
      exact hnone
    | cons header rows =>
      cases hverify : pl.verifyRow header .header with
      | error e =>
        rw [courseOfRows_of_error hheader hverify]
        exact hnone
      | ok u =>
        rw [courseOfRows_of_header hheader hverify]
        refine courseOfData_ne_nil ?_ fun r hr => hrows r (List.mem_cons_of_mem _ hr)
        simpa using hrows header List.mem_cons_self
  · rw [courseOfRows_of_no_header hheader]
    exact courseOfData_ne_nil hnone hrows

/-- **Every record that the identity writes has a field.** -/
theorem written_ne_nil (pl : Pipeline) (text : Text) :
    ∀ r ∈ (pl.course .identity text).written, r ≠ [] := by
  unfold course courseAfter
  rcases pl.grammar.lenient.splitRecords pl.config.skippedRows (pl.body text) with
    ⟨dropped, _ | rest⟩
  · dsimp only
    split_ifs <;> simp
  · exact courseOfRows_ne_nil fun r hr => Grammar.ne_nil_of_mem_rows hr

/-! ## Direct runs -/

/-- **Without checks, the identity gives all rows back.** -/
theorem convertRows_identity (hcolumns : pl.config.columnCheck = none)
    (hwidth : pl.config.widthCheck = none) (n : Nat) (q : Processor.identity.State)
    (rows : List Record) :
    pl.convertRows .identity none n q rows = (.ok (n + rows.length), rows) := by
  induction rows generalizing n q with
  | nil => rfl
  | cons row rows ih =>
    have hrow : pl.convertRow .identity (n + 1) q row = (.ok row, q) := by
      unfold convertRow verifyRow Session.verifyWidth
      rw [hcolumns, hwidth]
      rfl
    have hcount : n + 1 + rows.length = n + (row :: rows).length := by
      rw [List.length_cons]
      omega
    rw [convertRows, hrow]
    dsimp only
    rw [ih, hcount]

/-- The rows of a direct run are all records of its text. -/
theorem rows_direct (h : pl.config.Direct) (text : Text) :
    pl.grammar.rows false 0 text = ((pl.grammar.records text).1, none) := by
  have hnewlines : pl.grammar.newlines = .preserve := h.newlines
  unfold Grammar.rows
  rw [Grammar.records_snd hnewlines]
  simp

/-- **A direct run writes all records of a text.** -/
theorem course_direct (h : pl.config.Direct) (text : Text) :
    pl.course .identity text =
      ⟨.ok { rowsIn := (pl.grammar.records text).1.length
             rowsOut := (pl.grammar.records text).1.length },
        (pl.grammar.records text).1⟩ := by
  have hbody : pl.body text = text := by
    rw [body, h.stripMark]
    rfl
  have hheader : ¬pl.config.hasHeader = true := by
    rw [h.hasHeader]
    decide
  have hcolumns : pl.config.columnCheck = none := if_pos h.expectedColumns
  unfold course courseAfter
  rw [hbody, h.skippedRows, h.skipEmptyRows]
  dsimp only [Grammar.splitRecords]
  rw [rows_direct h, courseOfRows_of_no_header hheader, courseOfData,
    convertRows_identity hcolumns h.widthCheck, h.skippedRows, h.hasHeader, Nat.zero_add]
  rfl

end Pipeline

end Delimited
