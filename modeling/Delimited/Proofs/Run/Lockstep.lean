import Delimited.Proofs.Run.Reading
import Delimited.Proofs.Run.Sinks

set_option autoImplicit false
set_option relaxedAutoImplicit false

/-!
# Runs in lockstep

A run from a source that may fail to a byte sink that may fail does, step by step, what the run on
the text does that the source offers. If a read or a write fails, it stops there, and it has sent no
more than the bytes of what the run on the text writes.

## Main definitions

* `Delimited.RowWriter.Mirrors`, `Delimited.Session.Mirrors` — a writer before a byte sink and the
  same one before a string; a session between streams and the same one between texts.
* `Delimited.Session.Stopped` — a session that stopped at a failure.

## Main results

* `Delimited.Session.Mirrors.drive` — a run up to the end of the input.
-/

namespace Delimited

open CharSource

variable {σ ω : Type} [CharSource σ] [ByteSink ω] {e : Encoder} {p : Processor} {sound : Prop}
  {before : Bytes}

/-! ## Writing rows -/

namespace RowWriter

/-- A writer before a text writer **mirrors** one before a string, which is the text that the text
writer carries. -/
inductive Mirrors (sound : Prop) (before : Bytes) :
    RowWriter (TextWriter e ω) → RowWriter String → Prop
  | mk {w : TextWriter e ω} {out : String} (h : w.Carries sound before out.toList)
      (layout : Layout) (rowCount : Nat) :
      Mirrors sound before ⟨w, layout, rowCount⟩ ⟨out, layout, rowCount⟩

/-- A writer **stopped** at a failure: it has sent no more than the bytes of the string. -/
def Stopped (sound : Prop) (before : Bytes) (v : RowWriter (TextWriter e ω))
    (w : RowWriter String) : Prop :=
  ¬sound ∧ v.sink.Short before w.sink.toList

variable {v : RowWriter (TextWriter e ω)} {w : RowWriter String}

/-- Writing a row. -/
theorem Mirrors.write (h : v.Mirrors sound before w) (record : Record) :
    InStep (Mirrors sound before) (Stopped sound before) (v.write record) (w.write record) := by
  obtain ⟨h, layout, rowCount⟩ := h
  rename_i v out
  have htext : (out ++ String.ofList (layout.renderRow record)).toList =
      out.toList ++ layout.renderRow record := by
    rw [String.toList_append, String.toList_ofList]
  unfold RowWriter.write
  dsimp only [CharSink.write]
  rcases h.write (layout.renderRow record) with ⟨t, hwrite, ht⟩ | ⟨fault, t, hwrite, hfails, ht⟩
  · rw [hwrite]
    rw [← htext] at ht
    exact Or.inl ⟨_, _, _, rfl, rfl, ht, _, _⟩
  · rw [hwrite]
    rw [← htext] at ht
    exact Or.inr ⟨_, _, _, _, rfl, rfl, hfails, ht⟩

/-- Flushing. -/
theorem Mirrors.flush (h : v.Mirrors sound before w) :
    InStep (Mirrors sound before) (Stopped sound before) v.flush w.flush := by
  obtain ⟨h, layout, rowCount⟩ := h
  unfold RowWriter.flush
  dsimp only [CharSink.flush]
  rcases h.flush with ⟨t, hflush, ht⟩ | ⟨fault, t, hflush, hfails, ht⟩
  · rw [hflush]
    exact Or.inl ⟨_, _, _, rfl, rfl, ht, _, _⟩
  · rw [hflush]
    exact Or.inr ⟨_, _, _, _, rfl, rfl, hfails, ht⟩

end RowWriter

namespace Session

/-! ## What a run into a string writes -/

section Output

variable {s t : Session σ String p}

/-- The text in the sink of a session. -/
def output (s : Session σ String p) : Text :=
  s.writer.sink.toList

/-- Looking for a mark leaves the output. -/
theorem output_stripMark (c : Config) (s : Session σ String p) :
    (s.stripMark c).2.output = s.output :=
  congrArg (fun w : RowWriter String => w.sink.toList) (s.writer_stripMark c)

/-- So does dropping rows. -/
theorem output_skipRows (n : Nat) (s : Session σ String p) :
    (s.skipRows n).2.output = s.output :=
  congrArg (fun w : RowWriter String => w.sink.toList) (s.writer_skipRows n)

omit [CharSource σ] in
/-- Writing to a string keeps what it began with. -/
theorem prefix_write {text : Text} {out : String} (more : Text) (h : text <+: out.toList) :
    text <+: (CharSink.write more out).2.toList := by
  show text <+: (out ++ String.ofList more).toList
  rw [String.toList_append]
  exact h.trans (List.prefix_append _ _)

/-- Copying a header only adds to the output. -/
theorem output_prefix_copyHeader (c : Config) (s : Session σ String p) :
    s.output <+: (s.copyHeader c).2.output :=
  keeps_copyHeader (P := fun out : String => s.output <+: out.toList) prefix_write id c
    List.prefix_rfl

/-- So does converting all rows. -/
theorem output_prefix_convertRows (c : Config) (s : Session σ String p) :
    s.output <+: (s.convertRows c).2.output :=
  keeps_convertRows (P := fun out : String => s.output <+: out.toList) prefix_write c List.prefix_rfl

/-- A run only adds to the output. -/
theorem output_prefix_drive (c : Config) (s : Session σ String p) :
    s.output <+: (s.drive c).2.output :=
  keeps_drive (P := fun out : String => s.output <+: out.toList) prefix_write id c List.prefix_rfl

end Output

/-! ## Sessions in lockstep -/

/-- A session between streams **mirrors** one between texts: the readers and the writers mirror each
other, and apart from these the sessions are the same. -/
inductive Mirrors (sound : Prop) (before : Bytes) :
    Session σ (TextWriter e ω) p → Session Text String p → Prop
  | mk {r : RowReader σ} {t : RowReader Text} {v : RowWriter (TextWriter e ω)}
      {w : RowWriter String} (hr : r.Mirrors sound t) (hw : v.Mirrors sound before w)
      (q : p.State) (stats : Stats) (log : List Event) :
      Mirrors sound before ⟨r, v, q, stats, log⟩ ⟨t, w, q, stats, log⟩

/-- A session **stopped** at a failure: it has sent no more than the bytes of what the other session
has written. -/
def Stopped (sound : Prop) (before : Bytes) (s : Session σ (TextWriter e ω) p)
    (t : Session Text String p) : Prop :=
  s.writer.Stopped sound before t.writer

variable {s : Session σ (TextWriter e ω) p} {t u : Session Text String p}

omit [CharSource σ] in
/-- A session that stopped does so whatever else the other session writes. -/
theorem Stopped.mono (h : s.Stopped sound before t) (hgrows : t.output <+: u.output) :
    s.Stopped sound before u :=
  ⟨h.1, h.2.mono hgrows⟩

/-- A session whose reader failed has stopped, whatever the other session goes on to write. -/
theorem Mirrors.stopped (h : s.Mirrors sound before t) (hfails : ¬sound) (r : RowReader σ)
    (hgrows : t.output <+: u.output) : Stopped sound before { s with reader := r } u := by
  obtain ⟨hr, ⟨hw, layout, rowCount⟩, q, stats, log⟩ := h
  exact ⟨hfails, hw.short.mono hgrows⟩

/-- Sessions that mirror each other have processed the same rows. -/
theorem Mirrors.processor_eq (h : s.Mirrors sound before t) : s.processor = t.processor := by
  obtain ⟨hr, hw, q, stats, log⟩ := h
  rfl

/-- The text writer carries what was written to the string. -/
theorem Mirrors.carries (h : s.Mirrors sound before t) :
    s.writer.sink.Carries sound before t.output := by
  obtain ⟨hr, ⟨hw, layout, rowCount⟩, q, stats, log⟩ := h
  exact hw

/-- An event in both sessions keeps them alike. -/
theorem Mirrors.note (h : s.Mirrors sound before t) (event : Event) :
    (s.note event).Mirrors sound before (t.note event) := by
  obtain ⟨hr, hw, q, stats, log⟩ := h
  exact ⟨hr, hw, q, stats, _⟩

/-- So does a warning in both. -/
theorem Mirrors.warn (h : s.Mirrors sound before t) (err : Error) :
    (s.warn err).Mirrors sound before (t.warn err) := by
  unfold Session.warn
  cases err.warning? with
  | some event => exact h.note event
  | none => exact h

omit [CharSource σ] in
/-- A session that stopped may still warn. -/
theorem Stopped.warn (h : s.Stopped sound before t) (err : Error) :
    (s.warn err).Stopped sound before t := by
  unfold Session.warn
  cases err.warning? with
  | some event => exact h
  | none => exact h

/-- Dropping a mark. -/
theorem Mirrors.stripMark (h : s.Mirrors sound before t) (c : Config) :
    InStep (Mirrors sound before) (Stopped sound before) (s.stripMark c) (t.stripMark c) := by
  by_cases hc : c.stripMark = true
  · have hread := h
    obtain ⟨hr, hw, q, stats, log⟩ := hread
    rcases hr.stripMark with
      ⟨answer, x, y, hx, hy, hsame⟩ | ⟨err, x, answer, y, hx, hy, hfails⟩
    · unfold Session.stripMark
      rw [if_pos hc, if_pos hc, hx, hy]
      rcases answer with err | found
      · exact Or.inl ⟨_, _, _, rfl, rfl, hsame, hw, _, _, _⟩
      · refine Or.inl ⟨_, _, _, rfl, rfl, ?_⟩
        cases found with
        | false => exact ⟨hsame, hw, _, _, _⟩
        | true => exact ⟨hsame, hw, _, _, _⟩
    · refine .of_error (e := err.during (firstPhase c)) ?_ (h.stopped hfails x ?_)
      · unfold Session.stripMark
        rw [if_pos hc, hx]
      · exact ⟨[], (List.append_nil _).trans (output_stripMark c _).symm⟩
  · unfold Session.stripMark
    rw [if_neg hc, if_neg hc]
    exact Or.inl ⟨_, _, _, rfl, rfl, h⟩

/-- Dropping rows.

**Proof sketch.** Induction on the number of rows. -/
theorem Mirrors.skipRows (h : s.Mirrors sound before t) (n : Nat) :
    InStep (Mirrors sound before) (Stopped sound before) (s.skipRows n) (t.skipRows n) := by
  induction n generalizing s t with
  | zero => exact Or.inl ⟨_, _, _, rfl, rfl, h⟩
  | succ n ih =>
    have hread := h
    obtain ⟨hr, hw, q, stats, log⟩ := hread
    rcases hr.skipRow with
      ⟨answer, x, y, hx, hy, hsame⟩ | ⟨err, x, answer, y, hx, hy, hfails⟩
    · rw [Session.skipRows, Session.skipRows, hx, hy]
      rcases answer with err | _ | _
      · exact Or.inl ⟨_, _, _, rfl, rfl, hsame, hw, _, _, _⟩
      · exact Or.inl ⟨_, _, _, rfl, rfl, hsame, hw, _, _, _⟩
      · exact ih ⟨hsame, hw, _, _, _⟩
    · refine .of_error (e := err.during .skip) ?_ (h.stopped hfails x ?_)
      · rw [Session.skipRows, hx]
      · exact ⟨[], (List.append_nil _).trans (output_skipRows (n + 1) _).symm⟩

/-- Copying a header. -/
theorem Mirrors.copyHeader (h : s.Mirrors sound before t) (c : Config) :
    InStep (Mirrors sound before) (Stopped sound before) (s.copyHeader c) (t.copyHeader c) := by
  have hread := h
  obtain ⟨hr, hw, q, stats, log⟩ := hread
  rcases hr.readHeader with
    ⟨answer, x, y, hx, hy, hsame⟩ | ⟨err, x, answer, y, hx, hy, hfails⟩
  · unfold Session.copyHeader
    rw [hx, hy]
    rcases answer with err | _ | header
    · exact Or.inl ⟨_, _, _, rfl, rfl, Mirrors.warn ⟨hsame, hw, _, _, _⟩ err⟩
    · exact Or.inl ⟨_, _, _, rfl, rfl, hsame, hw, _, _, _⟩
    · dsimp only
      rcases hw.write header with
        ⟨written, v, w, hv, hw', hmirrors⟩ | ⟨err, v, written, w, hv, hw', hstopped⟩
      · rw [hv, hw']
        rcases written with err | u
        · exact Or.inl ⟨_, _, _, rfl, rfl, hsame, hmirrors, _, _, _⟩
        · dsimp only
          rcases hmirrors.flush with
            ⟨flushed, v', w'', hflush, hflush', hmirrors'⟩ |
            ⟨err, v', flushed, w'', hflush, hflush', hstopped⟩
          · rw [hflush, hflush']
            rcases flushed with err | u
            · exact Or.inl ⟨_, _, _, rfl, rfl, hsame, hmirrors', _, _, _⟩
            · exact Or.inl ⟨_, _, _, rfl, rfl, hsame, hmirrors', _, _, _⟩
          · -- the header was written, but the flush after it fails
            rw [hflush, hflush']
            refine .of_error (e := err.during .header) rfl ?_
            rcases flushed with err | u <;> exact hstopped
      · -- the header is cut while it is written
        rw [hv, hw']
        refine .of_error (e := err.during .header) rfl ?_
        rcases written with err | u <;> exact hstopped
  · refine .of_error (e := err.during .header) ?_
      ((h.stopped hfails x (output_prefix_copyHeader c _)).warn err)
    unfold Session.copyHeader
    rw [hx]

/-- Converting a row. -/
theorem Mirrors.convertRow (h : s.Mirrors sound before t) (c : Config) (row : Record) :
    InStep (Mirrors sound before) (Stopped sound before) (s.convertRow c row)
      (t.convertRow c row) := by
  obtain ⟨hr, hw, q, stats, log⟩ := h
  unfold Session.convertRow
  dsimp only
  cases verifyWidth c (stats.rowsIn + 1) row with
  | error err => exact Or.inl ⟨_, _, _, rfl, rfl, Mirrors.warn ⟨hr, hw, _, _, _⟩ err⟩
  | ok u =>
    dsimp only
    rcases p.process q row with ⟨err | record, q'⟩
    · exact Or.inl ⟨_, _, _, rfl, rfl, hr, hw, _, _, _⟩
    · dsimp only
      rcases hw.write record with
        ⟨written, v, w, hv, hw', hmirrors⟩ | ⟨err, v, written, w, hv, hw', hstopped⟩
      · rw [hv, hw']
        rcases written with err | u
        · exact Or.inl ⟨_, _, _, rfl, rfl, hr, hmirrors, _, _, _⟩
        · exact Or.inl ⟨_, _, _, rfl, rfl, hr, hmirrors, _, _, _⟩
      · rw [hv, hw']
        refine .of_error (e := err.during .data) rfl ?_
        rcases written with err | u <;> exact hstopped

/-- **Converting rows.**

**Proof sketch.** Induction on what is left of the text. Both sessions read the same row and convert
it to the same end, or the one between streams stops; and it stops short of whatever the other one
writes after that. -/
theorem Mirrors.convertRows (h : s.Mirrors sound before t) (c : Config) :
    InStep (Mirrors sound before) (Stopped sound before) (s.convertRows c) (t.convertRows c) := by
  induction hn : remaining t.reader.source using Nat.strongRecOn generalizing s t with
  | _ n ih =>
    have hread := h
    obtain ⟨hr, hw, q, stats, log⟩ := hread
    rename_i r t v w
    rcases hr.readRow with
      ⟨answer, x, y, hx, hy, hsame⟩ | ⟨err, x, answer, y, hx, hy, hfails⟩
    · rw [convertRows_eq, convertRows_eq, hx, hy]
      rcases answer with err | _ | row
      · exact Or.inl ⟨_, _, _, rfl, rfl, Mirrors.warn ⟨hsame, hw, _, _, _⟩ err⟩
      · exact Or.inl ⟨_, _, _, rfl, rfl, hsame, hw, _, _, _⟩
      · dsimp only
        have hrow := Mirrors.convertRow ⟨hsame, hw, q, stats, log⟩ c row
        rcases hrow with
          ⟨converted, s', t', hs', ht', hmirrors⟩ | ⟨err, s', converted, t', hs', ht', hstopped⟩
        · rw [hs', ht']
          rcases converted with err | u
          · exact Or.inl ⟨_, _, _, rfl, rfl, hmirrors⟩
          · have hkept : t'.reader = y := by
              have hkept := reader_convertRow c row (Session.mk y w q stats log)
              rwa [ht'] at hkept
            have hless : remaining t'.reader.source < n := by
              rw [hkept, ← hn]
              exact RowReader.remaining_lt_of_readRow hy
            exact ih _ hless hmirrors rfl
        · rw [hs', ht']
          refine .of_error (e := err) rfl ?_
          rcases converted with err | u
          · exact hstopped
          · exact hstopped.mono (output_prefix_convertRows c t')
    · refine .of_error (e := err.during .data) ?_
        ((h.stopped hfails x (output_prefix_convertRows c _)).warn err)
      rw [convertRows_eq, hx]

/-! ## All of a run -/

/-- The run after the leading rows. -/
theorem Mirrors.copyAll (h : s.Mirrors sound before t) (c : Config) :
    InStep (Mirrors sound before) (Stopped sound before) (s.copyAll c) (t.copyAll c) := by
  unfold Session.copyAll
  split
  · rcases h.copyHeader c with
      ⟨copied, s', t', hs', ht', hmirrors⟩ | ⟨err, s', copied, t', hs', ht', hstopped⟩
    · rw [hs', ht']
      rcases copied with err | u
      · exact Or.inl ⟨_, _, _, rfl, rfl, hmirrors⟩
      · exact hmirrors.convertRows c
    · rw [hs', ht']
      refine .of_error (e := err) rfl ?_
      rcases copied with err | u
      · exact hstopped
      · exact hstopped.mono (output_prefix_convertRows c t')
  · exact h.convertRows c

/-- **A run up to the end of the input.**

**Proof sketch.** As long as the leading rows are dropped, nothing is written, so a session that
stops there stops short of all that the other one writes. -/
theorem Mirrors.drive (h : s.Mirrors sound before t) (c : Config) :
    InStep (Mirrors sound before) (Stopped sound before) (s.drive c) (t.drive c) := by
  have hgrows := output_prefix_drive c t
  rcases (h.note (.starting c)).stripMark c with
    ⟨stripped, s', t', hs', ht', hmirrors⟩ | ⟨err, s', stripped, t', hs', ht', hstopped⟩
  · have hmark : t'.output = t.output := by
      have hkept := output_stripMark c (t.note (.starting c))
      rwa [ht'] at hkept
    rcases stripped with err | u
    · unfold Session.drive
      rw [hs', ht']
      exact Or.inl ⟨_, _, _, rfl, rfl, hmirrors⟩
    · rcases hmirrors.skipRows c.skippedRows with
        ⟨skipped, s'', t'', hs'', ht'', hmirrors'⟩ | ⟨err, s'', skipped, t'', hs'', ht'', hstopped⟩
      · unfold Session.drive
        rw [hs', ht']
        dsimp only
        rw [hs'', ht'']
        rcases skipped with err | _ | _
        · exact Or.inl ⟨_, _, _, rfl, rfl, hmirrors'⟩
        · dsimp only
          split
          · exact Or.inl ⟨_, _, _, rfl, rfl, hmirrors'⟩
          · refine Or.inl ⟨_, _, _, rfl, rfl, ?_⟩
            obtain ⟨hr, hw, q, stats, log⟩ := hmirrors'
            exact ⟨hr, hw, q, stats, _⟩
        · exact hmirrors'.copyAll c
      · have hskip : t''.output = t.output := by
          have hkept := output_skipRows c.skippedRows t'
          rwa [ht'', hmark] at hkept
        refine .of_error (e := err) ?_ (hstopped.mono (hskip ▸ hgrows))
        unfold Session.drive
        rw [hs']
        dsimp only
        rw [hs'']
  · have hmark : t'.output = t.output := by
      have hkept := output_stripMark c (t.note (.starting c))
      rwa [ht'] at hkept
    refine .of_error (e := err) ?_ (hstopped.mono (hmark ▸ hgrows))
    unfold Session.drive
    rw [hs']

end Session

end Delimited
