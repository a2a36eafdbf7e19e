import Delimited.Proofs.Record.Invariant
import Delimited.Proofs.Stream.Ideal

set_option autoImplicit false
set_option relaxedAutoImplicit false

/-!
# Watching a source

A reader uses its source only by reading from it and pushing characters back, so it works in the
same way on any source that answers these calls alike. In particular a source can be watched: it
keeps all states in which it ever was. The reader does the same with it, and afterwards it is known
through which states the source went, also in the middle of a call on the reader.

## Main definitions

* `Delimited.CharSource.Commutes` — a map that reading and pushing back commute with.
* `Delimited.RowReader.mapSource` — the same reader before another source.
* `Delimited.Watched` — a source with the states in which it was before.
* `Delimited.RowReader.sourceStates` — all states of the source while a reader performs some steps.

## Main results

* `Delimited.RowReader.perform_mapSource` — the calls of a reader on the one source are those on the
  other.
* `Delimited.RowReader.perform_watched` — watching the source changes nothing.
* `Delimited.RowReader.mem_sourceStates` — the states between the calls are among those seen.
-/

namespace Delimited

open CharSource

/-! ## Maps between sources -/

/-- A map between sources with which reading and pushing back **commute**. -/
structure CharSource.Commutes {σ τ : Type} [CharSource σ] [CharSource τ] (f : σ → τ) : Prop where
  read_eq : ∀ s, read (f s) = ((read s).1, f (read s).2)
  unread_eq : ∀ xs s, unread xs (f s) = f (unread xs s)

section Commuting

variable {σ τ : Type} [CharSource σ] [CharSource τ] {f : σ → τ}

/-- Probing for a delimiter commutes with a change of the source. -/
theorem Delimiters.probe_map (hf : Commutes f) (d : Delimiters) (first : Char) (s : σ) :
    d.probe first (f s) =
      ⟨(d.probe first s).hit, (d.probe first s).consumed, f (d.probe first s).source⟩ := by
  unfold probe
  rw [readUpTo_of_commutes hf.read_eq]
  split
  · rfl
  · rcases readUpTo d.lookahead s with ⟨⟨ahead, fault | _⟩, t⟩
    · dsimp only
      cases d.leading? (first :: ahead) with
      | some hit => exact congrArg (Probe.mk _ _) (hf.unread_eq _ _)
      | none =>
        dsimp only
        split
        · rfl
        · exact congrArg (Probe.mk _ _) (hf.unread_eq _ _)
    · rfl

/-- One step of a scan. -/
theorem Grammar.scan_eq (g : Grammar) (fields : List Text) (field : Text) (place : Place) (s : σ) :
    g.scan fields field place s =
      match read s with
      | (.error e, t) => (.failed e, t)
      | (.ok none, t) => (.ended (last? fields field place), t)
      | (.ok (some c), t) =>
        if place = .quoted then
          if g.quote = some c then
            match read t with
            | (.error e, u) => (.failed e, u)
            | (.ok none, u) => (.ended (last? fields (g.pushQuote field c) place), u)
            | (.ok (some x), u) =>
              if x = c then g.scan fields (g.pushQuote (c :: field) c) .quoted u
              else g.scan fields (g.pushQuote field c) (.plain false) (unread [x] u)
          else g.scan fields (c :: field) .quoted t
        else if place = .start ∧ g.quote = some c then g.scan fields (g.pushQuote field c) .quoted t
        else
          match (g.delimiters.probe c t).hit with
          | .error e => (.failed e, (g.delimiters.probe c t).source)
          | .ok .row => (.record (complete fields field), (g.delimiters.probe c t).source)
          | .ok .column => g.scan (pushField fields field) [] .start (g.delimiters.probe c t).source
          | .ok .data =>
            match g.pushPlain? field c (place = .plain true) with
            | none => (.newline, (g.delimiters.probe c t).source)
            | some field =>
              g.scan fields field (.plain (c = '\r')) (g.delimiters.probe c t).source := by
  rw [scan]
  split
  · simp_all
  · simp_all
  · next c t h =>
    rw [h]
    dsimp only
    split
    · split
      · split <;> simp_all
      · rfl
    · rfl

/-- **A scan** of the one source goes as that of the other.

**Proof sketch.** Induction along the scan. Each step does what the answers to its reads and to its
probe say, and these are the same. -/
theorem Grammar.scan_map (hf : Commutes f) (g : Grammar) (fields : List Text) (field : Text)
    (place : Place) (s : σ) :
    g.scan fields field place (f s) =
      ((g.scan fields field place s).1, f (g.scan fields field place s).2) := by
  fun_induction g.scan fields field place s with
  | case1 fields field place s e t h => rw [scan_eq, hf.read_eq, h]
  | case2 fields field place s t h => rw [scan_eq, hf.read_eq, h]
  | case3 fields field s c t h hq e u h2 =>
    rw [scan_eq]
    simp only [hf.read_eq, h, hq, h2, if_true]
  | case4 fields field s c t h hq u h2 =>
    rw [scan_eq]
    simp only [hf.read_eq, h, hq, h2, if_true]
  | case5 fields field s t c u h2 h hq ih =>
    rw [scan_eq]
    simp only [hf.read_eq, h, hq, h2, if_true, ih]
  | case6 fields field s c t h hq x u h2 hx ih =>
    rw [scan_eq]
    simp only [hf.read_eq, hf.unread_eq, h, hq, h2, hx, if_true, if_false, ih]
  | case7 fields field s c t h hq ih =>
    rw [scan_eq]
    simp only [hf.read_eq, h, hq, if_true, if_false, ih]
  | case8 fields field place s c t h hplace hopen ih =>
    rw [scan_eq, hf.read_eq, h]
    dsimp only
    rw [if_neg hplace, if_pos hopen, ih]
  | case9 fields field place s c t h hplace hopen e he =>
    rw [scan_eq]
    simp only [hf.read_eq, h, hplace, hopen, if_false, Delimiters.probe_map hf, he]
  | case10 fields field place s c t h hplace hopen he =>
    rw [scan_eq]
    simp only [hf.read_eq, h, hplace, hopen, if_false, Delimiters.probe_map hf, he]
  | case11 fields field place s c t h hplace hopen he ih =>
    rw [scan_eq]
    simp only [hf.read_eq, h, hplace, hopen, if_false, Delimiters.probe_map hf, he, ih]
  | case12 fields field place s c t h hplace hopen he hp =>
    rw [scan_eq]
    simp only [hf.read_eq, h, hplace, hopen, if_false, Delimiters.probe_map hf, he, hp]
  | case13 fields field place s c t h hplace hopen he next hp ih =>
    rw [scan_eq]
    simp only [hf.read_eq, h, hplace, hopen, if_false, Delimiters.probe_map hf, he, hp, ih]

namespace Parser

/-- Reading a record commutes with a change of the source. -/
theorem next_map (hf : Commutes f) (p : Parser) (s : σ) :
    p.next (f s) = ((p.next s).1, (p.next s).2.1, f (p.next s).2.2) := by
  unfold next
  rw [Grammar.scan_map hf]
  split
  · rfl
  · rcases p.grammar.scan [] [] .start s with ⟨r | (_ | r) | e | _, t⟩ <;> rfl

/-- So does dropping one. -/
theorem skip_map (hf : Commutes f) (p : Parser) (s : σ) :
    p.skip (f s) = ((p.skip s).1, (p.skip s).2.1, f (p.skip s).2.2) := by
  unfold skip
  dsimp only
  rw [next_map hf]

end Parser

/-! ## Readers before another source -/

namespace RowReader

/-- The same reader before **another source**. -/
def mapSource (f : σ → τ) (r : RowReader σ) : RowReader τ :=
  ⟨f r.source, r.parser, r.columnCheck, r.skipEmptyRows, r.rowCount, r.emptyRows⟩

/-- The same call of a reader before another source. -/
def Call.mapSource (f : σ → τ) (call : Call σ) : Call τ :=
  ⟨call.before.mapSource f, call.answer, call.after.mapSource f⟩

/-- Looking for a mark commutes with a change of the source. -/
theorem stripMark_mapSource (hf : Commutes f) (r : RowReader σ) :
    (r.mapSource f).stripMark = (r.stripMark.1, r.stripMark.2.mapSource f) := by
  unfold stripMark
  dsimp only [mapSource]
  rw [hf.read_eq]
  rcases read r.source with ⟨e | _ | c, s⟩
  · rfl
  · rfl
  · dsimp only
    rw [hf.unread_eq]
    split <;> rfl

/-- So does dropping a row. -/
theorem skipRow_mapSource (hf : Commutes f) (r : RowReader σ) :
    (r.mapSource f).skipRow = (r.skipRow.1, r.skipRow.2.mapSource f) := by
  unfold skipRow
  dsimp only [mapSource]
  rw [Parser.skip_map hf]

/-- So does reading on to the next record: by its recursion over the empty rows. -/
theorem nextRecord_mapSource (hf : Commutes f) (r : RowReader σ) :
    (r.mapSource f).nextRecord = (r.nextRecord.1, r.nextRecord.2.mapSource f) := by
  fun_induction nextRecord r with
  | case1 r e p s h =>
    rw [nextRecord_eq]
    simp only [mapSource, Parser.next_map hf, h]
  | case2 r p s h =>
    rw [nextRecord_eq]
    simp only [mapSource, Parser.next_map hf, h]
  | case3 r record p s h hskip ih =>
    rw [nextRecord_eq]
    simp only [mapSource, Parser.next_map hf, h]
    exact (if_pos hskip).trans ih
  | case4 r record p s h hskip =>
    rw [nextRecord_eq]
    simp only [mapSource, Parser.next_map hf, h]
    exact if_neg hskip

/-- So does reading a header. -/
theorem readHeader_mapSource (hf : Commutes f) (r : RowReader σ) :
    (r.mapSource f).readHeader = (r.readHeader.1, r.readHeader.2.mapSource f) := by
  unfold readHeader
  rw [nextRecord_mapSource hf]
  rcases r.nextRecord with ⟨e | _ | record, t⟩ <;> rfl

/-- So does reading a row. -/
theorem readRow_mapSource (hf : Commutes f) (r : RowReader σ) :
    (r.mapSource f).readRow = (r.readRow.1, r.readRow.2.mapSource f) := by
  unfold readRow
  rw [nextRecord_mapSource hf]
  rcases r.nextRecord with ⟨e | _ | record, t⟩ <;> rfl

/-- So does reading all rows, call by call. -/
theorem rowCalls_mapSource (hf : Commutes f) (r : RowReader σ) :
    (r.mapSource f).rowCalls =
      (r.rowCalls.1.map (Call.mapSource f), r.rowCalls.2.mapSource f) := by
  fun_induction rowCalls r with
  | case1 r record t h ih =>
    rw [rowCalls_eq, readRow_mapSource hf, h]
    dsimp only
    rw [ih]
    rfl
  | case2 r t h =>
    rw [rowCalls_eq, readRow_mapSource hf, h]
    rfl
  | case3 r e t h ih =>
    rw [rowCalls_eq, readRow_mapSource hf, h]
    dsimp only
    rw [ih]
    rfl

/-- So does each step of a reader. -/
theorem callsOf_mapSource (hf : Commutes f) (r : RowReader σ) (step : ReaderStep) :
    (r.mapSource f).callsOf step =
      ((r.callsOf step).1.map (Call.mapSource f), (r.callsOf step).2.mapSource f) := by
  cases step with
  | stripMark => rw [callsOf, stripMark_mapSource hf]; rfl
  | skipRow => rw [callsOf, skipRow_mapSource hf]; rfl
  | readHeader => rw [callsOf, readHeader_mapSource hf]; rfl
  | readRow => rw [callsOf, readRow_mapSource hf]; rfl
  | rows => exact rowCalls_mapSource hf r

/-- **The calls of a reader** on the one source are those on the other, with the same answers. -/
theorem perform_mapSource (hf : Commutes f) (r : RowReader σ) (steps : List ReaderStep) :
    (r.mapSource f).perform steps =
      ((r.perform steps).1.map (Call.mapSource f), (r.perform steps).2.mapSource f) := by
  induction steps generalizing r with
  | nil => rfl
  | cons step steps ih => rw [perform, perform, callsOf_mapSource hf, ih, List.map_append]

end RowReader

end Commuting

/-! ## Watched sources -/

/-- A source that is **watched**: it keeps all states in which it was before, the latest first. -/
structure Watched (σ : Type) where
  now : σ
  past : List σ

namespace Watched

variable {σ : Type}

/-- A source from now on watched. -/
def ofSource (s : σ) : Watched σ := ⟨s, []⟩

/-- **All states** in which the source was, the latest first. -/
def states (w : Watched σ) : List σ := w.now :: w.past

/-- The watched source in its next state. -/
def become (w : Watched σ) (s : σ) : Watched σ := ⟨s, w.states⟩

variable [CharSource σ]

/-- A watched source answers as the source itself. Each read and each time that characters are
pushed back leaves one more state in the past. -/
instance : CharSource (Watched σ) where
  read w := ((read w.now).1, w.become (read w.now).2)
  unread xs w := w.become (unread xs w.now)
  content w := content w.now
  faults w := faults w.now
  content_unread xs w := content_unread xs w.now
  faults_unread xs w := faults_unread xs w.now
  read_some {v w c} h := by
    obtain ⟨hanswer, rfl⟩ := Prod.mk.inj h
    exact read_some (Prod.ext hanswer rfl)
  read_none {v w} h := by
    obtain ⟨hanswer, rfl⟩ := Prod.mk.inj h
    exact read_none (Prod.ext hanswer rfl)
  read_error {v w e} h := by
    obtain ⟨hanswer, rfl⟩ := Prod.mk.inj h
    exact read_error (Prod.ext hanswer rfl)

/-- Forgetting the past commutes with every use of a source. -/
theorem commutes_now : Commutes (now : Watched σ → σ) where
  read_eq _ := rfl
  unread_eq _ _ := rfl

/-- Reading from a watched source forgets no state. -/
theorem suffix_read {past : List σ} {w : Watched σ} (h : past <:+ w.states) :
    past <:+ (read w).2.states :=
  h.trans (List.suffix_cons _ _)

/-- No use of a watched source **forgets a state**. -/
theorem keeps_suffix (d : Delimiters) (past : List σ) :
    d.Keeps fun w : Watched σ => past <:+ w.states where
  read := suffix_read
  putBack h hr := by
    obtain ⟨-, rfl⟩ := Prod.mk.inj hr
    exact (suffix_read h).trans (List.suffix_cons _ _)
  probe {w v c} h hr := by
    obtain ⟨-, rfl⟩ := Prod.mk.inj hr
    have hread : past <:+ (w.become (read w.now).2).states := suffix_read h
    have hahead :=
      keeps_readUpTo (P := fun w => past <:+ states w) suffix_read hread d.lookahead
    rcases d.source_probe_cases c (w.become (read w.now).2) with hs | hs | ⟨xs, -, hs⟩
    · rw [hs]
      exact hread
    · rw [hs]
      exact hahead
    · rw [hs]
      exact hahead.trans (List.suffix_cons _ _)

end Watched

section Watching

variable {σ : Type} [CharSource σ]

/-- The states after a sequence of calls include those before and after each of them. -/
theorem RowReader.Trace.states_suffix {r t : RowReader (Watched σ)}
    {calls : List (Call (Watched σ))} (h : Trace r calls t) :
    r.source.states <:+ t.source.states ∧
      ∀ call ∈ calls, call.before.source.states <:+ t.source.states ∧
        call.after.source.states <:+ t.source.states := by
  induction h with
  | nil r => exact ⟨List.suffix_rfl, fun call hcall => by cases hcall⟩
  | @cons call calls t hmade rest ih =>
    have hstep : call.before.source.states <:+ call.after.source.states :=
      (hmade.upholds (Watched.keeps_suffix _ call.before.source.states)
        ⟨rfl, List.suffix_rfl⟩).source
    refine ⟨hstep.trans ih.1, fun call' hcall => ?_⟩
    rcases List.mem_cons.1 hcall with rfl | hcall
    · exact ⟨hstep.trans ih.1, ih.1⟩
    · exact ih.2 call' hcall

/-- **Watching changes nothing**: the calls of a reader on its source are those on the watched
source, without its past. -/
theorem RowReader.perform_watched (r : RowReader σ) (steps : List ReaderStep) :
    r.perform steps =
      (((r.mapSource Watched.ofSource).perform steps).1.map (Call.mapSource Watched.now),
        ((r.mapSource Watched.ofSource).perform steps).2.mapSource Watched.now) :=
  perform_mapSource Watched.commutes_now (r.mapSource Watched.ofSource) steps

/-- The **states of the source** while a reader performs some steps, the latest first: where the
source is at the start, and after each time that a character was read or characters were pushed
back. -/
def RowReader.sourceStates (r : RowReader σ) (steps : List ReaderStep) : List σ :=
  ((r.mapSource Watched.ofSource).perform steps).2.source.states

/-- Among these are the states **between the calls**. -/
theorem RowReader.mem_sourceStates (r : RowReader σ) (steps : List ReaderStep) :
    ∀ call ∈ (r.perform steps).1,
      call.before.source ∈ r.sourceStates steps ∧ call.after.source ∈ r.sourceStates steps := by
  intro call hcall
  rw [perform_watched] at hcall
  obtain ⟨watched, hwatched, rfl⟩ := List.mem_map.1 hcall
  obtain ⟨hbefore, hafter⟩ :=
    ((r.mapSource Watched.ofSource).trace_perform steps).states_suffix.2 watched hwatched
  exact ⟨hbefore.subset List.mem_cons_self, hafter.subset List.mem_cons_self⟩

end Watching

end Delimited
