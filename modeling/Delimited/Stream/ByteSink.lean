import Delimited.Error

set_option autoImplicit false
set_option relaxedAutoImplicit false

/-!
# Byte sinks

A byte sink takes bytes. It need not take all that are offered to it in one call, and a call may
fail. What matters about it is what it received: a call that takes some bytes adds these at the end,
and no other call adds any.

## Main definitions

* `Delimited.ByteSink` — sinks, with the laws that tie writing to what was received.
* `Delimited.ByteSink.writeAll` — write calls until all bytes are taken.

## Main results

* `Delimited.ByteSink.received_writeAll` — the bytes arrive in order and at most once.
-/

namespace Delimited

/-- A **byte sink**. -/
class ByteSink (ω : Type) where
  /-- One write call: how many of the bytes are taken, and the sink after it. A call that was
  interrupted counts as one with its repetition. -/
  write : Bytes → ω → Except IoFault Nat × ω
  /-- Hands on what the sink holds back itself. -/
  flush : ω → Except IoFault Unit × ω
  /-- The bytes received so far. -/
  received : ω → Bytes
  /-- The bytes that are taken come from the front. -/
  write_ok : ∀ {bytes : Bytes} {v w : ω} {n : Nat}, write bytes v = (.ok n, w) →
    n ≤ bytes.length ∧ received w = received v ++ bytes.take n
  /-- A failing call takes no bytes. -/
  write_error : ∀ {bytes : Bytes} {v w : ω} {e : IoFault}, write bytes v = (.error e, w) →
    received w = received v
  received_flush : ∀ w : ω, received (flush w).2 = received w

namespace ByteSink

variable {ω : Type} [ByteSink ω]

/-- Write calls until all bytes are taken. A call that takes none ends it. -/
def writeAll (bytes : Bytes) (w : ω) : Except IoFault Unit × ω :=
  if _h : bytes = [] then (.ok (), w)
  else
    match write bytes w with
    | (.error fault, v) => (.error fault, v)
    | (.ok 0, v) => (.error .notAllWritten, v)
    | (.ok (k + 1), v) => writeAll (bytes.drop (k + 1)) v
termination_by bytes.length
decreasing_by
  have := List.length_pos_iff.2 _h
  simp only [List.length_drop]
  omega

/-- **Writing all bytes** adds a front part of them to what was received, and all of them unless a
call fails. -/
theorem received_writeAll (bytes : Bytes) (w : ω) :
    ∃ part, received (writeAll bytes w).2 = received w ++ part ∧ part <+: bytes ∧
      ((writeAll bytes w).1 = .ok () → part = bytes) := by
  fun_induction writeAll bytes w with
  | case1 w => exact ⟨[], (List.append_nil _).symm, List.prefix_rfl, fun _ => rfl⟩
  | case2 bytes w hne fault v h =>
    refine ⟨[], ?_, List.nil_prefix, fun hok => ?_⟩
    · rw [write_error h, List.append_nil]
    · cases hok
  | case3 bytes w hne v h =>
    refine ⟨[], (write_ok h).2, List.nil_prefix, fun hok => ?_⟩
    cases hok
  | case4 bytes w hne k v h ih =>
    obtain ⟨part, hreceived, hpart, hall⟩ := ih
    have hsplit : bytes.take (k + 1) ++ bytes.drop (k + 1) = bytes := List.take_append_drop _ _
    refine ⟨bytes.take (k + 1) ++ part, ?_, ?_, fun hok => ?_⟩
    · rw [hreceived, (write_ok h).2, List.append_assoc]
    · obtain ⟨rest, hrest⟩ := hpart
      exact ⟨rest, by rw [List.append_assoc, hrest, hsplit]⟩
    · rw [hall hok, hsplit]

end ByteSink

end Delimited
