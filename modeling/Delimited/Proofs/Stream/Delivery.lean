import Delimited.Stream.TextWriter

set_option autoImplicit false
set_option relaxedAutoImplicit false

/-!
# What reaches a byte sink

A text writer sends the bytes of the text that was written to it, in order and at most once. After a
write that fails it sends nothing more of that text, so what the byte sink received is the front
part of these bytes; and it is all of them once the end of the text was sent without a failure.

## Main definitions

* `Delimited.ByteSink.Unfailing` — a byte sink that never fails.
* `Delimited.TextWriter.encoded` — the bytes of a text that may go on.
* `Delimited.TextWriter.Carries`, `Delimited.TextWriter.Short` — a text writer before and after a
  failure.

## Main results

* `Delimited.TextWriter.Carries.write`, `Delimited.TextWriter.Carries.flush`,
  `Delimited.TextWriter.Carries.finish` — the steps of writing.
-/

namespace Delimited

/-! ## Byte sinks that never fail -/

namespace ByteSink

variable {ω : Type} [ByteSink ω] {v w : ω}

/-- The states to which a byte sink comes by write calls and flushing. -/
inductive Reaches (v : ω) : ω → Prop
  | refl : Reaches v v
  | write {w : ω} (h : Reaches v w) (bytes : Bytes) : Reaches v (write bytes w).2
  | flush {w : ω} (h : Reaches v w) : Reaches v (flush w).2

/-- Uses of a sink may follow others. -/
theorem Reaches.trans {u : ω} (h : Reaches u v) (hw : Reaches v w) : Reaches u w := by
  induction hw with
  | refl => exact h
  | write _ bytes ih => exact ih.write bytes
  | flush _ ih => exact ih.flush

/-- Writing all bytes is done by write calls. -/
theorem Reaches.writeAll (bytes : Bytes) (w : ω) : Reaches w (writeAll bytes w).2 := by
  fun_induction ByteSink.writeAll bytes w with
  | case1 w => exact .refl
  | case2 bytes w hne fault v h =>
    have := Reaches.refl.write (v := w) bytes
    rwa [h] at this
  | case3 bytes w hne v h =>
    have := Reaches.refl.write (v := w) bytes
    rwa [h] at this
  | case4 bytes w hne k v h ih =>
    have := Reaches.refl.write (v := w) bytes
    rw [h] at this
    exact this.trans ih

/-- A byte sink that **never fails**: however it is used, a write call takes at least one byte, and
flushing succeeds. -/
structure Unfailing (v : ω) : Prop where
  write_ok : ∀ {w : ω}, Reaches v w → ∀ {bytes : Bytes}, bytes ≠ [] →
    ∃ n, (write bytes w).1 = .ok (n + 1)
  flush_ok : ∀ {w : ω}, Reaches v w → (flush w).1 = .ok ()

/-- A sink that never fails does not fail later either. -/
theorem Unfailing.of_reaches (h : Unfailing v) (hw : Reaches v w) : Unfailing w :=
  ⟨fun hu => h.write_ok (hw.trans hu), fun hu => h.flush_ok (hw.trans hu)⟩

/-- Such a sink takes all bytes. -/
theorem Unfailing.writeAll (h : Unfailing w) (bytes : Bytes) :
    (ByteSink.writeAll bytes w).1 = .ok () ∧ Unfailing (ByteSink.writeAll bytes w).2 := by
  refine ⟨?_, h.of_reaches (.writeAll bytes w)⟩
  fun_induction ByteSink.writeAll bytes w with
  | case1 w => rfl
  | case2 bytes w hne fault v hwrite =>
    obtain ⟨n, hn⟩ := h.write_ok .refl hne
    rw [hwrite] at hn
    cases hn
  | case3 bytes w hne v hwrite =>
    obtain ⟨n, hn⟩ := h.write_ok .refl hne
    rw [hwrite] at hn
    cases hn
  | case4 bytes w hne k v hwrite ih =>
    have hv := Reaches.refl.write (v := w) bytes
    rw [hwrite] at hv
    exact ih (h.of_reaches hv)

/-- Flushing it goes well and leaves it so. -/
theorem Unfailing.flush (h : Unfailing w) :
    (ByteSink.flush w).1 = .ok () ∧ Unfailing (ByteSink.flush w).2 :=
  ⟨h.flush_ok .refl, h.of_reaches (Reaches.refl.flush)⟩

end ByteSink

namespace ByteWriter

/-- A byte writer without a limit takes bytes in each call, as many as it takes in one. -/
theorem write_of_no_limit {w : ByteWriter} (h : w.capacity = none) (bytes : Bytes) :
    w.write bytes = (.ok (min bytes.length (w.stride.getD bytes.length)),
      { w with received := w.received ++
          (bytes.take (min bytes.length (w.stride.getD bytes.length))).toArray }) := by
  obtain ⟨capacity, refusal, stride, flushFault, received⟩ := w
  obtain rfl : capacity = none := h
  simp [ByteWriter.write, taken]

/-- If it takes some bytes in each call, and flushing does not fail, it never fails. -/
theorem unfailing {w : ByteWriter} (hcapacity : w.capacity = none) (hstride : w.stride ≠ some 0)
    (hflush : w.flushFault = none) : ByteSink.Unfailing w := by
  have hkept : ∀ {v : ByteWriter}, ByteSink.Reaches w v →
      v.capacity = none ∧ v.stride ≠ some 0 ∧ v.flushFault = none := by
    intro v hv
    induction hv with
    | refl => exact ⟨hcapacity, hstride, hflush⟩
    | @write v _ bytes ih =>
      show (v.write bytes).2.capacity = none ∧ (v.write bytes).2.stride ≠ some 0 ∧
        (v.write bytes).2.flushFault = none
      rw [write_of_no_limit ih.1]
      exact ih
    | @flush v _ ih =>
      show v.flush.2.capacity = none ∧ v.flush.2.stride ≠ some 0 ∧ v.flush.2.flushFault = none
      rw [ByteWriter.flush, ih.2.2]
      exact ih
  refine ⟨fun {v} hv {bytes} hne => ?_, fun {v} hv => ?_⟩
  · obtain ⟨hcap, hstr, -⟩ := hkept hv
    show ∃ n, (v.write bytes).1 = .ok (n + 1)
    rw [write_of_no_limit hcap]
    have hlength := List.length_pos_iff.2 hne
    refine ⟨min bytes.length (v.stride.getD bytes.length) - 1, congrArg Except.ok ?_⟩
    cases hs : v.stride with
    | none =>
      simp only [Option.getD_none]
      omega
    | some k =>
      have : k ≠ 0 := fun hk => hstr (hk ▸ hs)
      simp only [Option.getD_some]
      omega
  · show v.flush.1 = .ok ()
    rw [ByteWriter.flush, (hkept hv).2.2]

/-- A writer that takes everything never fails. -/
theorem unfailing_unlimited : ByteSink.Unfailing unlimited :=
  unfailing rfl (by decide) rfl

end ByteWriter

namespace TextWriter

variable {e : Encoder} {ω : Type} [ByteSink ω] {sound : Prop} {before : Bytes} {text : Text}
  {s : TextWriter e ω}

/-! ## The bytes of a text -/

/-- The bytes of a text that may go on. -/
def encoded (e : Encoder) (text : Text) : Bytes :=
  (e.feed questionMark e.start text).1

/-- More text gives more bytes. -/
theorem encoded_mono {x y : Text} (h : x <+: y) : encoded e x <+: encoded e y := by
  obtain ⟨rest, rfl⟩ := h
  exact ⟨_, by rw [encoded, encoded, e.feed_append]⟩

/-- At its end a text may have some more bytes. -/
theorem encoded_prefix_encode (text : Text) : encoded e text <+: e.encode questionMark text :=
  ⟨_, rfl⟩

/-! ## Before and after a failure -/

/-- The text writer **carries** a text, which was written to it after its byte sink had received
`before`: some of the text was encoded and received, and the rest is held back. If all is `sound`,
the byte sink never fails. -/
structure Carries (sound : Prop) (before : Bytes) (text : Text) (s : TextWriter e ω) : Prop where
  sent : ∃ done, text = done ++ s.pending.toList ∧
    s.state = (e.feed questionMark e.start done).2 ∧
    ByteSink.received s.writer = before ++ encoded e done
  unfailing : sound → ByteSink.Unfailing s.writer

/-- The text writer **falls short of** a text: even after flushing, its byte sink received no more
than the front part of its bytes. -/
def Short (before : Bytes) (text : Text) (s : TextWriter e ω) : Prop :=
  ∃ part, ByteSink.received s.flush.2.writer = before ++ part ∧ part <+: encoded e text

/-- A new text writer carries the empty text. -/
theorem Carries.start {w : ω} (h : sound → ByteSink.Unfailing w) :
    Carries sound (ByteSink.received w) [] (ofWriter w : TextWriter e ω) :=
  ⟨⟨[], rfl, rfl, (List.append_nil _).symm⟩, h⟩

/-- What is short of a text is short of a longer one. -/
theorem Short.mono {longer : Text} (h : Short before text s) (hlonger : text <+: longer) :
    Short before longer s := by
  obtain ⟨part, hreceived, hpart⟩ := h
  exact ⟨part, hreceived, hpart.trans (encoded_mono hlonger)⟩

/-- Flushing sends what encoding the text that is held back sends. -/
theorem received_flush (s : TextWriter e ω) :
    ByteSink.received s.flush.2.writer = ByteSink.received s.drain.2.writer := by
  rw [flush]
  rcases s.drain with ⟨fault | u, t⟩
  · rfl
  · exact ByteSink.received_flush t.writer

/-- If nothing is held back, flushing sends nothing. -/
theorem received_flush_of_pending (h : s.pending = "") :
    ByteSink.received s.flush.2.writer = ByteSink.received s.writer := by
  rw [received_flush, drain_eq, h]
  show ByteSink.received (ByteSink.writeAll [] s.writer).2 = _
  rw [ByteSink.writeAll, dif_pos rfl]

/-- The byte sink is only used by write calls where text is encoded. -/
theorem reaches_drain (s : TextWriter e ω) : ByteSink.Reaches s.writer s.drain.2.writer :=
  .writeAll _ _

/-- Nor is it used otherwise where text is written. -/
theorem reaches_write (s : TextWriter e ω) (more : Text) :
    ByteSink.Reaches s.writer (s.write more).2.writer := by
  unfold TextWriter.write
  dsimp only
  split
  · exact reaches_drain { s with pending := s.pending ++ String.ofList more }
  · exact .refl

/-- **Encoding what is held back** sends the other bytes of the text, and all of them unless a write
fails. -/
theorem Carries.drain (h : Carries sound before text s) :
    ∃ part, ByteSink.received s.drain.2.writer = before ++ part ∧ part <+: encoded e text ∧
      (s.drain.1 = .ok () → Carries sound before text s.drain.2 ∧ part = encoded e text) ∧
      (sound → s.drain.1 = .ok ()) := by
  obtain ⟨⟨done, rfl, hstate, hreceived⟩, hunfailing⟩ := h
  have hbytes : encoded e (done ++ s.pending.toList) =
      encoded e done ++ (e.feed questionMark s.state s.pending.toList).1 := by
    rw [encoded, e.feed_append, hstate, encoded]
  rw [drain_eq]
  obtain ⟨part, hpart, hprefix, hall⟩ :=
    ByteSink.received_writeAll (e.feed questionMark s.state s.pending.toList).1 s.writer
  rw [hreceived, List.append_assoc] at hpart
  refine ⟨encoded e done ++ part, hpart, ?_, fun hok => ?_, fun hsound => ?_⟩
  · rw [hbytes]
    exact (List.prefix_append_right_inj _).2 hprefix
  · obtain rfl := hall hok
    rw [← hbytes] at hpart ⊢
    have hstate' : (e.feed questionMark s.state s.pending.toList).2 =
        (e.feed questionMark e.start (done ++ s.pending.toList)).2 := by
      rw [e.feed_append, ← hstate]
    refine ⟨⟨⟨_, (List.append_nil _).symm, hstate', hpart⟩, fun hsound => ?_⟩, rfl⟩
    exact ((hunfailing hsound).writeAll _).2
  · exact ((hunfailing hsound).writeAll _).1

/-- What the byte sink has received after flushing: the bytes of the text, or a front part of them
if not all is sound. -/
theorem Carries.received_flush (h : Carries sound before text s) :
    ∃ part, ByteSink.received s.flush.2.writer = before ++ part ∧ part <+: encoded e text ∧
      (sound → part = encoded e text) := by
  obtain ⟨part, hpart, hprefix, hall, hok⟩ := h.drain
  rw [TextWriter.received_flush]
  exact ⟨part, hpart, hprefix, fun hsound => (hall (hok hsound)).2⟩

/-- A text writer that carries a text has not sent more than that. -/
theorem Carries.short (h : Carries sound before text s) : Short before text s := by
  obtain ⟨part, hpart, hprefix, -⟩ := h.received_flush
  exact ⟨part, hpart, hprefix⟩

/-- Nor has it after encoding what is held back, even if a write failed. -/
theorem Carries.short_drain (h : Carries sound before text s) : Short before text s.drain.2 := by
  obtain ⟨part, hpart, hprefix, -⟩ := h.drain
  refine ⟨part, ?_, hprefix⟩
  rw [received_flush_of_pending rfl]
  exact hpart

/-- Encoding what is held back either goes well, or a write fails. -/
theorem Carries.drain_cases (h : Carries sound before text s) :
    (∃ t, s.drain = (.ok (), t) ∧ Carries sound before text t) ∨
      ∃ fault t, s.drain = (.error fault, t) ∧ ¬sound ∧ Short before text t := by
  obtain ⟨part, -, -, hall, hok⟩ := h.drain
  have hshort := h.short_drain
  rcases hdrain : s.drain with ⟨fault | u, t⟩
  · rw [hdrain] at hok hshort
    refine Or.inr ⟨fault, t, rfl, fun hsound => ?_, hshort⟩
    cases hok hsound
  · rw [hdrain] at hall
    exact Or.inl ⟨t, rfl, (hall rfl).1⟩

/-- **Writing** a piece of text. -/
theorem Carries.write (h : Carries sound before text s) (more : Text) :
    (∃ t, s.write more = (.ok (), t) ∧ Carries sound before (text ++ more) t) ∨
      ∃ fault t, s.write more = (.error fault, t) ∧ ¬sound ∧ Short before (text ++ more) t := by
  have hlonger : Carries sound before (text ++ more)
      { s with pending := s.pending ++ String.ofList more } := by
    obtain ⟨⟨done, rfl, hsent⟩, hunfailing⟩ := h
    refine ⟨⟨done, ?_, hsent⟩, hunfailing⟩
    rw [String.toList_append, String.toList_ofList, List.append_assoc]
  unfold TextWriter.write
  dsimp only
  split
  · exact hlonger.drain_cases
  · exact Or.inl ⟨_, rfl, hlonger⟩

/-- **Flushing.** -/
theorem Carries.flush (h : Carries sound before text s) :
    (∃ t, s.flush = (.ok (), t) ∧ Carries sound before text t) ∨
      ∃ fault t, s.flush = (.error fault, t) ∧ ¬sound ∧ Short before text t := by
  rcases h.drain_cases with ⟨t, hdrain, ht⟩ | ⟨fault, t, hdrain, hfails⟩
  · have hflush : s.flush =
        ((ByteSink.flush t.writer).1, { t with writer := (ByteSink.flush t.writer).2 }) := by
      rw [TextWriter.flush, hdrain]
    have hreceived := ByteSink.received_flush t.writer
    rcases hsink : ByteSink.flush t.writer with ⟨fault | u, w⟩
    · rw [hsink] at hflush hreceived
      refine Or.inr ⟨fault, _, hflush, fun hsound => ?_, ?_⟩
      · have hok := (ht.unfailing hsound).flush.1
        rw [hsink] at hok
        cases hok
      · obtain ⟨part, hpart, hprefix⟩ := ht.short
        have hpending : t.pending = "" := congrArg (fun found => found.2.pending) hdrain.symm
        rw [received_flush_of_pending hpending] at hpart
        refine ⟨part, ?_, hprefix⟩
        rw [received_flush_of_pending (s := { t with writer := w }) hpending]
        exact hreceived.trans hpart
    · rw [hsink] at hflush hreceived
      obtain ⟨done, htext, hstate, hsent⟩ := ht.sent
      refine Or.inl ⟨_, hflush, ⟨done, htext, hstate, hreceived.trans hsent⟩, fun hsound => ?_⟩
      have hnext := (ht.unfailing hsound).flush.2
      rwa [hsink] at hnext
  · refine Or.inr ⟨fault, t, ?_, hfails⟩
    rw [TextWriter.flush, hdrain]

/-- A flush that goes well flushes the byte sink after that has received all bytes of the text. -/
theorem Carries.of_flush_ok {t : TextWriter e ω} (h : Carries sound before text s)
    (hok : s.flush = (.ok (), t)) :
    ∃ v, ByteSink.Reaches s.writer v ∧ ByteSink.received v = before ++ encoded e text ∧
      ByteSink.flush v = (.ok (), t.writer) := by
  obtain ⟨part, hpart, -, hall, -⟩ := h.drain
  have hreaches := reaches_drain s
  unfold TextWriter.flush at hok
  rcases hdrain : s.drain with ⟨fault | u, v⟩ <;> rw [hdrain] at hok hpart hall hreaches
  · cases hok
  · obtain ⟨-, rfl⟩ := hall rfl
    refine ⟨v.writer, hreaches, hpart, ?_⟩
    dsimp only at hok
    rcases hflush : ByteSink.flush v.writer with ⟨fault | u, w⟩ <;> rw [hflush] at hok <;> cases hok
    rfl

/-- **The end of the text**: the byte sink has received all of its bytes, or a front part of them if
there was a failure. -/
theorem Carries.finish (h : Carries sound before text s) :
    ∃ part, ByteSink.received s.finish.2 = before ++ part ∧
      part <+: e.encode questionMark text ∧
      (s.finish.1 = .ok () → part = e.encode questionMark text) ∧
      (sound → s.finish.1 = .ok ()) := by
  obtain ⟨⟨done, rfl, hstate, hreceived⟩, hunfailing⟩ := h
  have hbytes : e.encode questionMark (done ++ s.pending.toList) =
      encoded e done ++ ((e.feed questionMark s.state s.pending.toList).1 ++
        e.finish (e.feed questionMark s.state s.pending.toList).2) := by
    rw [Encoder.encode, e.feed_append, hstate, encoded]
    exact List.append_assoc _ _ _
  rw [finish_eq]
  dsimp only
  rw [hbytes]
  generalize (e.feed questionMark s.state s.pending.toList).1 ++
    e.finish (e.feed questionMark s.state s.pending.toList).2 = bytes
  obtain ⟨part, hpart, hprefix, hall⟩ := ByteSink.received_writeAll bytes s.writer
  rw [hreceived, List.append_assoc] at hpart
  have hwritten := fun hsound => (hunfailing hsound).writeAll bytes
  refine ⟨encoded e done ++ part, ?_, (List.prefix_append_right_inj _).2 hprefix, ?_, ?_⟩ <;>
    rcases hw : ByteSink.writeAll bytes s.writer with ⟨fault | u, w⟩ <;>
    rw [hw] at hpart hall hwritten
  · exact hpart
  · exact (ByteSink.received_flush w).trans hpart
  · intro hok
    cases hok
  · intro hok
    rw [hall rfl]
  · intro hsound
    cases (hwritten hsound).1
  · intro hsound
    exact (hwritten hsound).2.flush.1

end TextWriter

end Delimited
