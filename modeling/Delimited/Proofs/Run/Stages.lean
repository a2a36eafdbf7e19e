import Delimited.Proofs.Record.Balance
import Delimited.Proofs.Record.Ending
import Delimited.Session

set_option autoImplicit false
set_option relaxedAutoImplicit false

/-!
# The stages of a run

A run drops leading rows, copies a header and converts data rows. Each stage that fails says so with
an error of its phase, and until it is reached it has changed nothing: only copying a header and
converting rows write, and only converting rows calls the processor. The one error that may name
another phase is one that the processor itself answered with.

## Main definitions

* `Delimited.Error.BelongsTo` — an error that names no phase but this one.
* `Delimited.Session.lead` — the run up to the first row that is not dropped.

## Main results

* `Delimited.Session.drive_eq` — a run goes on from there.
* `Delimited.Session.lead_cases`, `Delimited.Session.copyHeader_cases`,
  `Delimited.Session.convertRows_cases` — how each stage ends, and what it has changed.
-/

namespace Delimited

open CharSource

/-! ## Errors and their phases -/

namespace Error

/-- The phase that an error names, if it names one. -/
def phase? : Error → Option Phase
  | .streamIn phase _ => some phase
  | _ => none

/-- An error **belongs to a phase**: it is no failure of a stream without a phase, and it names no
other phase. -/
structure BelongsTo (phase : Phase) (e : Error) : Prop where
  ne_stream : ∀ fault, e ≠ .stream fault
  phase_eq : ∀ other, e.phase? = some other → other = phase

variable {e : Error} {phase : Phase}

/-- An error without a phase belongs to the phase in which it occurred. -/
theorem BelongsTo.during (h : e.phase? = none) (phase : Phase) :
    (e.during phase).BelongsTo phase := by
  cases e with
  | stream fault =>
    refine ⟨fun other heq => ?_, fun other heq => ?_⟩
    · cases heq
    · cases heq
      rfl
  | streamIn other fault => cases h
  | _ =>
    refine ⟨fun other heq => ?_, fun other heq => ?_⟩
    · cases heq
    · cases heq

/-- An error without a phase that is no failure of a stream belongs to any. -/
theorem BelongsTo.of_during (h : e.phase? = none) (hkept : e.during phase = e) :
    e.BelongsTo phase :=
  hkept ▸ BelongsTo.during h phase

/-- Whatever the error, it belongs to the phase in which it occurred, or it named a phase before. -/
theorem belongsTo_or_kept (e : Error) (phase : Phase) :
    (e.during phase).BelongsTo phase ∨ e.during phase = e ∧ ∀ fault, e ≠ .stream fault := by
  cases hphase : e.phase? with
  | none => exact Or.inl (.during hphase phase)
  | some other =>
    cases e <;> cases hphase
    refine Or.inr ⟨rfl, fun fault heq => ?_⟩
    cases heq

end Error

variable {σ κ : Type} {p : Processor} {e : Error}

/-- An answer without a record names no phase. -/
theorem Misses.phase? {answer : Except Error (Option Record)} (h : Misses answer)
    (he : answer = .error e) : e.phase? = none := by
  cases h <;> cases he <;> rfl

/-- Nor does the refusal of a record. -/
theorem Meets.phase? {location : RowLocation} {answer : Except Error (Option Record)}
    (h : Meets location answer) (he : answer = .error e) : e.phase? = none := by
  cases h <;> cases he
  rfl

namespace RowReader

variable [CharSource σ] {r t : RowReader σ}

/-- A reader that has not come to an end yet knows that after looking for a mark. -/
theorem knowsEnd_stripMark (h : r.parser.finished = false) : r.stripMark.2.KnowsEnd := by
  rw [r.stripMark_eq]
  exact fun hfinished => absurd hfinished (Bool.eq_false_iff.1 h)

/-- The steps of reading fail with errors that name no phase. -/
theorem phase?_stripMark (h : r.stripMark = (.error e, t)) : e.phase? = none := by
  unfold stripMark at h
  split at h
  · cases h
    rfl
  · cases h
  · split at h <;> cases h

/-- No error in dropping a row names a phase. -/
theorem phase?_skipRow (h : r.skipRow = (.error e, t)) : e.phase? = none := by
  obtain ⟨answer, hanswer, hcases⟩ := r.parser.records_skip r.source
  have herror : answer.map Option.isSome = .error e :=
    hanswer.symm.trans (congrArg Prod.fst h)
  rcases hcases with ⟨hmisses, -⟩ | ⟨record, rfl, -⟩
  · rcases answer with e' | found
    · cases herror
      exact hmisses.phase? rfl
    · cases herror
  · cases herror

/-- Nor does one in reading a header. -/
theorem phase?_readHeader (h : r.readHeader = (.error e, t)) : e.phase? = none := by
  obtain ⟨-, empty, -, ⟨hmisses, -⟩ | ⟨hmeets, -⟩⟩ := r.counts_readHeader
  · exact hmisses.phase? (congrArg Prod.fst h)
  · exact hmeets.phase? (congrArg Prod.fst h)

/-- Nor does one in reading a row. -/
theorem phase?_readRow (h : r.readRow = (.error e, t)) : e.phase? = none := by
  obtain ⟨empty, -, ⟨hmisses, -⟩ | ⟨hmeets, -⟩⟩ := r.counts_readRow
  · exact hmisses.phase? (congrArg Prod.fst h)
  · exact hmeets.phase? (congrArg Prod.fst h)

end RowReader

namespace RowWriter

variable [CharSink κ] {v w : RowWriter κ}

/-- The steps of writing fail with errors that name no phase. -/
theorem phase?_write {record : Record} (h : v.write record = (.error e, w)) : e.phase? = none := by
  unfold write at h
  split at h <;> cases h
  rfl

/-- Nor does one in flushing. -/
theorem phase?_flush (h : v.flush = (.error e, w)) : e.phase? = none := by
  unfold flush at h
  split at h <;> cases h
  rfl

end RowWriter

/-- The check of a width fails with an error that belongs to any phase. -/
theorem WidthCheck.belongsTo_of_verify {check : WidthCheck} {number : Nat} {row : Record}
    {trailing : Bool} (h : check.verify number row trailing = .error e) (phase : Phase) :
    e.BelongsTo phase := by
  unfold verify at h
  split at h <;> cases h
  exact .of_during rfl rfl

namespace Session

/-- A warning changes nothing but the log. -/
theorem warn_eq (s : Session σ κ p) (e : Error) : s.warn e = { s with log := (s.warn e).log } := by
  unfold warn
  split <;> rfl

variable [CharSource σ] [CharSink κ] {s t : Session σ κ p} {c : Config}

/-! ## The leading rows -/

/-- A session that **only read** on from another one: nothing was written or processed. -/
structure OnlyRead (s t : Session σ κ p) : Prop where
  writer_eq : t.writer = s.writer
  processor_eq : t.processor = s.processor

omit [CharSource σ] [CharSink κ] in
/-- Two sessions that only read on, one after the other, do so together. -/
theorem OnlyRead.trans {u : Session σ κ p} (h : OnlyRead s t) (h' : OnlyRead t u) : OnlyRead s u :=
  ⟨h'.1.trans h.1, h'.2.trans h.2⟩

omit [CharSink κ] in
/-- Dropping a mark fails in the phase that reads first. -/
theorem stripMark_cases (c : Config) (s : Session σ κ p) (h : s.reader.parser.finished = false) :
    OnlyRead s (s.stripMark c).2 ∧ (s.stripMark c).2.reader.KnowsEnd ∧
      (s.stripMark c).2.stats = s.stats ∧
      ∀ e, (s.stripMark c).1 = .error e → e.BelongsTo (firstPhase c) := by
  have hknows := RowReader.knowsEnd_stripMark h
  unfold stripMark
  split
  · rcases hmark : s.reader.stripMark with ⟨e | _ | _, r⟩ <;> rw [hmark] at hknows
    · refine ⟨⟨rfl, rfl⟩, hknows, rfl, fun e' he => ?_⟩
      cases he
      exact .during (RowReader.phase?_stripMark hmark) _
    · exact ⟨⟨rfl, rfl⟩, hknows, rfl, fun e he => by cases he⟩
    · exact ⟨⟨rfl, rfl⟩, hknows, rfl, fun e he => by cases he⟩
  · refine ⟨⟨rfl, rfl⟩, fun hfinished => ?_, rfl, fun e he => by cases he⟩
    exact absurd hfinished (Bool.eq_false_iff.1 h)

omit [CharSink κ] in
/-- Dropping rows ends after all of them, at the end of the input, or with an error of its phase.

**Proof sketch.** Induction on the number of rows. -/
theorem skipRows_cases (n : Nat) (s : Session σ κ p) (h : s.reader.KnowsEnd) :
    OnlyRead s (s.skipRows n).2 ∧ (s.skipRows n).2.reader.KnowsEnd ∧
      match s.skipRows n with
      | (.error e, t) =>
        0 < n ∧ e.BelongsTo .skip ∧ t.stats.rowsSkipped < s.stats.rowsSkipped + n
      | (.ok false, t) => MetEnd t.reader.source
      | (.ok true, t) => t.stats.rowsSkipped = s.stats.rowsSkipped + n := by
  induction n generalizing s with
  | zero => exact ⟨⟨rfl, rfl⟩, h, rfl⟩
  | succ n ih =>
    have hread := h.skipRow
    rw [skipRows]
    rcases hskip : s.reader.skipRow with ⟨e | _ | _, r⟩ <;> rw [hskip] at hread
    · refine ⟨⟨rfl, rfl⟩, hread.1, Nat.succ_pos n,
        .during (RowReader.phase?_skipRow hskip) _, ?_⟩
      exact Nat.lt_add_of_pos_right (Nat.succ_pos n)
    · exact ⟨⟨rfl, rfl⟩, hread.1, hread.2 rfl⟩
    · have hsum : s.stats.rowsSkipped + 1 + n = s.stats.rowsSkipped + (n + 1) := by omega
      obtain ⟨honly, hknows, hcases⟩ := ih (note { s with
        reader := r
        stats := { s.stats with rowsSkipped := s.stats.rowsSkipped + 1 } } _) hread.1
      refine ⟨⟨honly.1, honly.2⟩, hknows, ?_⟩
      revert hcases
      dsimp only
      rcases skipRows n _ with ⟨e | _ | _, t⟩ <;> intro hcases
      · exact ⟨Nat.succ_pos n, hcases.2.1, Nat.lt_of_lt_of_eq hcases.2.2 hsum⟩
      · exact hcases
      · exact hcases.trans hsum

/-- The run **up to the first row that is not dropped**. Tells whether all rows that are to be dropped
were there. -/
def lead (c : Config) (s : Session σ κ p) : Except Error Bool × Session σ κ p :=
  match (s.note (.starting c)).stripMark c with
  | (.error e, t) => (.error e, t)
  | (.ok (), t) => t.skipRows c.skippedRows

/-- A run **goes on from there**. -/
theorem drive_eq (c : Config) (s : Session σ κ p) :
    s.drive c =
      match s.lead c with
      | (.error e, t) => (.error e, t)
      | (.ok true, t) => t.copyAll c
      | (.ok false, t) =>
        if c.hasHeader then (.error (.missingHeader c.skippedRows), t)
        else (.ok (), t.note (.endedEarly c.skippedRows t.stats.rowsSkipped)) := by
  unfold drive lead
  rcases (s.note (.starting c)).stripMark c with ⟨e | u, t⟩
  · rfl
  · rcases hrows : t.skipRows c.skippedRows with ⟨e | _ | _, t'⟩ <;> simp only [hrows]

omit [CharSink κ] in
/-- **The leading rows**: nothing is written or processed before they are dropped. If some are to be
dropped, an error belongs to that, and not all of them were dropped; if none are, it belongs to the
phase that reads first. -/
theorem lead_cases (c : Config) (s : Session σ κ p) (h : s.reader.parser.finished = false) :
    OnlyRead s (s.lead c).2 ∧ (s.lead c).2.reader.KnowsEnd ∧
      match s.lead c with
      | (.error e, t) =>
        0 < c.skippedRows ∧ e.BelongsTo .skip ∧
            t.stats.rowsSkipped < s.stats.rowsSkipped + c.skippedRows ∨
          c.skippedRows = 0 ∧ e.BelongsTo (firstPhase c) ∧ t.stats = s.stats
      | (.ok false, t) => MetEnd t.reader.source
      | (.ok true, t) => t.stats.rowsSkipped = s.stats.rowsSkipped + c.skippedRows := by
  obtain ⟨honly, hknows, hstats, herror⟩ := stripMark_cases c (s.note (.starting c)) h
  have hstart : OnlyRead s (s.note (.starting c)) := ⟨rfl, rfl⟩
  have hbefore : (s.note (.starting c)).stats = s.stats := rfl
  rw [hbefore] at hstats
  unfold lead
  rcases hmark : (s.note (.starting c)).stripMark c with ⟨e | u, t⟩ <;>
    rw [hmark] at honly hknows hstats herror
  · refine ⟨hstart.trans honly, hknows, ?_⟩
    dsimp only
    by_cases hskip : 0 < c.skippedRows
    · have hphase : firstPhase c = .skip := if_pos hskip
      refine Or.inl ⟨hskip, hphase ▸ herror e rfl, ?_⟩
      rw [hstats]
      exact Nat.lt_add_of_pos_right hskip
    · exact Or.inr ⟨by omega, herror e rfl, hstats⟩
  · obtain ⟨honly', hknows', hcases⟩ := skipRows_cases c.skippedRows t hknows
    refine ⟨(hstart.trans honly).trans honly', hknows', ?_⟩
    rw [hstats] at hcases
    dsimp only
    revert hcases
    rcases t.skipRows c.skippedRows with ⟨e | _ | _, u⟩ <;> intro hcases
    · exact Or.inl hcases
    · exact hcases
    · exact hcases

/-! ## The header -/

/-- **Copying a header**, if it goes well, reads, writes and flushes it; if not, the error belongs to
that. The processor is not called. -/
theorem copyHeader_cases (c : Config) (s : Session σ κ p) (h : s.reader.KnowsEnd) :
    (s.copyHeader c).2.processor = s.processor ∧
      (s.copyHeader c).2.stats.rowsSkipped = s.stats.rowsSkipped ∧
      match s.copyHeader c with
      | (.error e, _) => e.BelongsTo .header
      | (.ok (), t) => t.reader.KnowsEnd ∧ ∃ header w,
          s.reader.readHeader = (.ok (some header), t.reader) ∧
            s.writer.write header = (.ok (), w) ∧ w.flush = (.ok (), t.writer) := by
  have hread := h.readHeader
  unfold copyHeader
  rcases hheader : s.reader.readHeader with ⟨e | _ | header, r⟩ <;> rw [hheader] at hread
  · dsimp only
    rw [warn_eq]
    exact ⟨rfl, rfl, .during (RowReader.phase?_readHeader hheader) _⟩
  · exact ⟨rfl, rfl, .of_during rfl rfl⟩
  · dsimp only
    rcases hwrite : s.writer.write header with ⟨e | u, w⟩
    · exact ⟨rfl, rfl, .during (RowWriter.phase?_write hwrite) _⟩
    · dsimp only
      rcases hflush : w.flush with ⟨e | u, w'⟩
      · exact ⟨rfl, rfl, .during (RowWriter.phase?_flush hflush) _⟩
      · exact ⟨rfl, rfl, hread, header, w, rfl, hwrite, hflush⟩

/-! ## The data rows -/

omit [CharSource σ] in
/-- Converting a row fails with an error of its phase, or with what the processor answered. -/
theorem convertRow_cases (c : Config) (row : Record) (s : Session σ κ p) :
    (s.convertRow c row).2.stats.rowsSkipped = s.stats.rowsSkipped ∧
      ∀ e, (s.convertRow c row).1 = .error e →
        (∀ fault, e ≠ .stream fault) ∧
          (e.BelongsTo .data ∨
            p.process s.processor row = (.error e, (s.convertRow c row).2.processor)) := by
  unfold convertRow
  dsimp only
  cases hwidth : verifyWidth c (s.stats.rowsIn + 1) row with
  | error e =>
    dsimp only
    rw [warn_eq]
    refine ⟨rfl, fun e' he => ?_⟩
    cases he
    have hphase : e.BelongsTo .data := by
      unfold verifyWidth at hwidth
      split at hwidth
      · exact WidthCheck.belongsTo_of_verify hwidth _
      · cases hwidth
    exact ⟨hphase.ne_stream, Or.inl hphase⟩
  | ok u =>
    dsimp only
    rcases hprocess : p.process s.processor row with ⟨e | record, q⟩
    · refine ⟨rfl, fun e' he => ?_⟩
      cases he
      rcases e.belongsTo_or_kept .data with hphase | ⟨hkept, hstream⟩
      · exact ⟨hphase.ne_stream, Or.inl hphase⟩
      · rw [hkept]
        exact ⟨hstream, Or.inr rfl⟩
    · dsimp only
      rcases hwrite : s.writer.write record with ⟨e | u, w⟩
      · refine ⟨rfl, fun e' he => ?_⟩
        cases he
        have hphase := Error.BelongsTo.during (RowWriter.phase?_write hwrite) .data
        exact ⟨hphase.ne_stream, Or.inl hphase⟩
      · exact ⟨rfl, fun e he => by cases he⟩

/-- **Converting rows** ends at the end of the input, or with an error of its phase, or with what the
processor answered to the last row.

**Proof sketch.** Induction along the rows that are converted. -/
theorem convertRows_cases (c : Config) (s : Session σ κ p) (h : s.reader.KnowsEnd) :
    (s.convertRows c).2.stats.rowsSkipped = s.stats.rowsSkipped ∧
      match s.convertRows c with
      | (.error e, t) => (∀ fault, e ≠ .stream fault) ∧
          (e.BelongsTo .data ∨ ∃ q row, p.process q row = (.error e, t.processor))
      | (.ok (), t) => MetEnd t.reader.source := by
  fun_induction convertRows c s with
  | case1 s e r hread =>
    rw [warn_eq]
    have hphase := Error.BelongsTo.during (RowReader.phase?_readRow hread) .data
    exact ⟨rfl, hphase.ne_stream, Or.inl hphase⟩
  | case2 s r hread =>
    have hend := h.readRow.2
    rw [hread] at hend
    exact ⟨rfl, hend rfl⟩
  | case3 s row r hread e t hrow =>
    obtain ⟨hskipped, herror⟩ := convertRow_cases c row { s with reader := r }
    rw [hrow] at hskipped herror
    obtain ⟨hstream, hphase | hprocess⟩ := herror e rfl
    · exact ⟨hskipped, hstream, Or.inl hphase⟩
    · exact ⟨hskipped, hstream, Or.inr ⟨_, _, hprocess⟩⟩
  | case4 s row r hread t hrow ih =>
    have hknows := h.readRow.1
    have hreader := reader_convertRow c row { s with reader := r }
    have hskipped := (convertRow_cases c row { s with reader := r }).1
    rw [hread] at hknows
    rw [hrow] at hreader hskipped
    obtain ⟨hskipped', hcases⟩ := ih (hreader ▸ hknows)
    exact ⟨hskipped'.trans hskipped, hcases⟩

/-! ## All of a run -/

/-- A run comes to the end without an error only where its input does. -/
theorem metEnd_of_drive (h : s.reader.parser.finished = false)
    (hok : s.drive c = (.ok (), t)) : MetEnd t.reader.source := by
  have hrows : ∀ {u : Session σ κ p}, u.reader.KnowsEnd → u.convertRows c = (.ok (), t) →
      MetEnd t.reader.source := by
    intro u hu hconvert
    have hcases := (convertRows_cases c u hu).2
    rwa [hconvert] at hcases
  obtain ⟨-, hknows, hcases⟩ := lead_cases c s h
  rw [drive_eq] at hok
  rcases hlead : s.lead c with ⟨e | _ | _, u⟩ <;> rw [hlead] at hok hknows hcases
  · cases hok
  · dsimp only at hok
    split at hok <;> cases hok
    exact hcases
  · dsimp only [copyAll] at hok
    split at hok
    · obtain ⟨-, -, hcopied⟩ := copyHeader_cases c u hknows
      rcases hcopy : u.copyHeader c with ⟨e | _, v⟩ <;> rw [hcopy] at hok hcopied
      · cases hok
      · exact hrows hcopied.1 hok
    · exact hrows hknows hok

end Session

end Delimited
