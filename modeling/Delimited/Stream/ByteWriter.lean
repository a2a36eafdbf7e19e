import Delimited.Stream.ByteSink

set_option autoImplicit false
set_option relaxedAutoImplicit false

/-!
# Byte writers

A byte writer keeps the bytes it received. It may take only some of the bytes offered to it, and may
be full after a while.

## Main definitions

* `Delimited.ByteWriter` — what a writer accepts and what it received.
* `Delimited.ByteWriter.write` — one write call, which may take only some of the bytes.

A byte writer is a byte sink.
-/

namespace Delimited

/-- A **byte writer**. -/
structure ByteWriter where
  /-- How many more bytes it takes in all, if there is a limit. -/
  capacity : Option Nat
  /-- The failure of a write call at the limit; without it such a call takes no bytes. -/
  refusal : Option IoFault
  /-- How many bytes it takes in one call, if there is a limit. -/
  stride : Option Nat
  /-- The failure of flushing, if flushing fails. -/
  flushFault : Option IoFault
  /-- The bytes received so far. -/
  received : Array UInt8
  deriving DecidableEq, Repr

namespace ByteWriter

/-- A writer that takes everything. -/
def unlimited : ByteWriter := ⟨none, none, none, none, #[]⟩

/-- How many of `n` bytes a write call takes. -/
def taken (w : ByteWriter) (n : Nat) : Nat :=
  min (min n (w.capacity.getD n)) (w.stride.getD n)

/-- One write call: the number of bytes taken, and the writer after it. -/
def write (bytes : Bytes) (w : ByteWriter) : Except IoFault Nat × ByteWriter :=
  match w.capacity, w.refusal with
  | some 0, some fault => (.error fault, w)
  | _, _ =>
    let k := w.taken bytes.length
    (.ok k, { w with
      capacity := w.capacity.map (· - k), received := w.received ++ (bytes.take k).toArray })

/-- Flushing. -/
def flush (w : ByteWriter) : Except IoFault Unit × ByteWriter :=
  match w.flushFault with
  | some fault => (.error fault, w)
  | none => (.ok (), w)

/-- A byte writer is a byte sink. -/
instance : ByteSink ByteWriter where
  write := write
  flush := flush
  received w := w.received.toList
  write_ok {bytes v w n} h := by
    rw [write] at h
    split at h
    · cases h
    · cases h
      refine ⟨?_, ?_⟩
      · unfold taken
        omega
      · rw [Array.toList_append]
  write_error {bytes v w e} h := by
    rw [write] at h
    split at h <;> cases h
    rfl
  received_flush w := by
    rw [flush]
    split <;> rfl

end ByteWriter

end Delimited
