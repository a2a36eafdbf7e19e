import Delimited.Error

set_option autoImplicit false
set_option relaxedAutoImplicit false

/-!
# Byte readers

A byte reader is known by what its read calls will do, one after another: deliver some bytes, fail,
or be interrupted, in which case the call is to be repeated. Delivering no bytes means the end of
the input, also where more steps follow.

## Main definitions

* `Delimited.ReadStep`, `Delimited.ByteReader` — what read calls will do.
* `Delimited.ByteReader.read` — one read call.
* `Delimited.ByteReader.bytes`, `Delimited.ByteReader.faults` — the bytes and the number of
  failures up to the end of the input.
-/

namespace Delimited

/-- What a read call of a byte reader does. -/
inductive ReadStep where
  /-- It delivers bytes, as many as the caller has room for; a later call delivers the others. -/
  | chunk (bytes : Bytes)
  /-- It fails. -/
  | fail (fault : IoFault)
  /-- It is interrupted. -/
  | interrupt
  deriving DecidableEq, Repr

/-- A **byte reader** is the list of what its read calls will do. -/
abbrev ByteReader := List ReadStep

/-- The outcome of a read call. -/
inductive ReadOutcome where
  | delivered (bytes : Bytes)
  | failed (fault : IoFault)
  | interrupted
  deriving DecidableEq, Repr

namespace ByteReader

/-- How many bytes a caller has room for. -/
def room : Nat := 8192

/-- One read call, and the reader after it. -/
def read : ByteReader → ReadOutcome × ByteReader
  | [] => (.delivered [], [])
  | .chunk bytes :: rest =>
    match bytes.drop room with
    | [] => (.delivered bytes, rest)
    | more => (.delivered (bytes.take room), .chunk more :: rest)
  | .fail fault :: rest => (.failed fault, rest)
  | .interrupt :: rest => (.interrupted, rest)

/-- The bytes up to the end of the input or the first failure, and that failure. -/
def readToEnd : ByteReader → Bytes × Option IoFault
  | [] => ([], none)
  | .chunk [] :: _ => ([], none)
  | .chunk bytes :: rest =>
    let (more, fault) := readToEnd rest
    (bytes ++ more, fault)
  | .fail fault :: _ => ([], some fault)
  | .interrupt :: rest => readToEnd rest

/-- The bytes that will be delivered before the end of the input. -/
def bytes : ByteReader → Bytes
  | [] => []
  | .chunk [] :: _ => []
  | .chunk (b :: bs) :: rest => b :: bs ++ bytes rest
  | .fail _ :: rest => bytes rest
  | .interrupt :: rest => bytes rest

/-- The number of read calls that will fail before the end of the input. -/
def faults : ByteReader → Nat
  | [] => 0
  | .chunk [] :: _ => 0
  | .chunk (_ :: _) :: rest => faults rest
  | .fail _ :: rest => faults rest + 1
  | .interrupt :: rest => faults rest

/-- A bound for the number of read calls before all steps are used up. -/
def weight : ByteReader → Nat
  | [] => 0
  | .chunk bs :: rest => bs.length + weight rest + 1
  | .fail _ :: rest => weight rest + 1
  | .interrupt :: rest => weight rest + 1

/-! ## What a read call does to these -/

/-- A call that delivers nothing is at the end of the input. -/
theorem read_nothing {r t : ByteReader} (h : read r = (.delivered [], t)) :
    bytes r = [] ∧ faults r = 0 := by
  match r with
  | [] => simp [bytes, faults]
  | .chunk bs :: rest =>
    rw [read] at h
    split at h
    · simp only [Prod.mk.injEq, ReadOutcome.delivered.injEq] at h
      simp [h.1, bytes, faults]
    · next hmore =>
      simp only [Prod.mk.injEq, ReadOutcome.delivered.injEq, List.take_eq_nil_iff] at h
      rcases h.1 with h0 | h0
      · simp [room] at h0
      · simp [h0] at hmore
  | .fail e :: rest => simp [read] at h
  | .interrupt :: rest => simp [read] at h

/-- A call that delivers bytes takes them from the front. -/
theorem read_some {r t : ByteReader} {b : UInt8} {bs : Bytes}
    (h : read r = (.delivered (b :: bs), t)) :
    bytes r = b :: bs ++ bytes t ∧ faults r = faults t ∧ weight t < weight r := by
  match r with
  | [] => simp [read] at h
  | .chunk cs :: rest =>
    rw [read] at h
    split at h
    · simp only [Prod.mk.injEq, ReadOutcome.delivered.injEq] at h
      obtain ⟨rfl, rfl⟩ := h
      refine ⟨rfl, rfl, ?_⟩
      rw [weight]
      omega
    · next more hmore =>
      simp only [Prod.mk.injEq, ReadOutcome.delivered.injEq] at h
      obtain ⟨htake, rfl⟩ := h
      have hcs : b :: bs ++ cs.drop room = cs := by rw [← htake, List.take_append_drop]
      cases hd : cs.drop room with
      | nil => exact absurd hd hmore
      | cons x xs =>
        rw [hd] at hcs
        rw [← hcs]
        refine ⟨by simp [bytes], by simp [faults], ?_⟩
        simp only [weight, List.length_append, List.length_cons]
        omega
  | .fail e :: rest => simp [read] at h
  | .interrupt :: rest => simp [read] at h

/-- A failing call uses up the failure and nothing else. -/
theorem read_failed {r t : ByteReader} {e : IoFault} (h : read r = (.failed e, t)) :
    bytes r = bytes t ∧ faults r = faults t + 1 ∧ weight t < weight r := by
  match r with
  | [] => simp [read] at h
  | .chunk cs :: rest =>
    rw [read] at h
    split at h <;> simp at h
  | .fail e :: rest =>
    simp only [read, Prod.mk.injEq] at h
    simp [h.2, bytes, faults, weight]
  | .interrupt :: rest => simp [read] at h

/-- An interrupted call changes nothing that can be observed. -/
theorem read_interrupted {r t : ByteReader} (h : read r = (.interrupted, t)) :
    bytes r = bytes t ∧ faults r = faults t ∧ weight t < weight r := by
  match r with
  | [] => simp [read] at h
  | .chunk cs :: rest =>
    rw [read] at h
    split at h <;> simp at h
  | .fail e :: rest => simp [read] at h
  | .interrupt :: rest =>
    simp only [read, Prod.mk.injEq, true_and] at h
    simp [h, bytes, faults, weight]

end ByteReader

end Delimited
