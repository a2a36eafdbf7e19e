import Delimited.Archive.Zstd.Literals

set_option autoImplicit false
set_option relaxedAutoImplicit false

/-!
# Sequences

After its literals a compressed block has sequences. A sequence takes some of the literals and then
repeats an earlier stretch; the three numbers in it are symbols of three state codes and further bits,
all read from the end of the block towards its start. Distances may be among the latest three.

## Main definitions

* `Delimited.Zstd.SequenceCodes` — the three codes.
* `Delimited.Zstd.Sequence`, `Delimited.Zstd.Recent` — a sequence, and the latest distances.
* `Delimited.Zstd.Progress` — how far the sequences of a block were followed.
* `Delimited.Zstd.SequenceSection.read`, `Delimited.Zstd.SequenceSection.follow` — the sequences of a
  block, and what they make.
-/

namespace Delimited.Zstd

open BitReader

/-! ## Codes -/

/-- The numbers of literals in a sequence. -/
def literalScale : Scale :=
  (List.range 16).map (0, ·) ++
    [(1, 16), (1, 18), (1, 20), (1, 22), (2, 24), (2, 28), (3, 32), (3, 40), (4, 48), (6, 64),
      (7, 128), (8, 256), (9, 512), (10, 1024), (11, 2048), (12, 4096), (13, 8192), (14, 16384),
      (15, 32768), (16, 65536)]

/-- The lengths of stretches. -/
def lengthScale : Scale :=
  (List.range 32).map (fun n => (0, n + 3)) ++
    [(1, 35), (1, 37), (1, 39), (1, 41), (2, 43), (2, 47), (3, 51), (3, 59), (4, 67), (4, 83),
      (5, 99), (7, 131), (8, 259), (9, 515), (10, 1027), (11, 2051), (12, 4099), (13, 8195),
      (14, 16387), (15, 32771), (16, 65539)]

/-- The distances of stretches. -/
def distanceScale : Scale :=
  (List.range 32).map fun n => (n, 1 <<< n)

/-- One of the three numbers in a sequence. -/
structure Component where
  scale : Scale
  /-- The code in blocks that bring none. -/
  common : StateCode
  /-- The greatest number of bits of a state. -/
  maxLog : Nat

/-- How many literals a sequence takes. -/
def literalComponent : Component where
  scale := literalScale
  common := .ofShares 6 ([4, 3, 2, 2, 2, 2, 2, 2, 2, 2, 2, 2, 2, 1, 1, 1, 2, 2, 2, 2, 2, 2, 2, 2, 2,
    3, 2, 1, 1, 1, 1, 1].map some ++ List.replicate 4 none)
  maxLog := 9

/-- The distance of a stretch. -/
def distanceComponent : Component where
  scale := distanceScale
  common := .ofShares 5 ((List.replicate 6 1 ++ [2, 2, 2] ++ List.replicate 15 1).map some ++
    List.replicate 5 none)
  maxLog := 8

/-- The length of a stretch. -/
def lengthComponent : Component where
  scale := lengthScale
  common := .ofShares 6 (([1, 4, 3, 2, 2, 2, 2, 2, 2] ++ List.replicate 37 1).map some ++
    List.replicate 7 none)
  maxLog := 9

/-- The code for a component by the number of its kind: the common one, the one of a single symbol, one
that the block brings, or the one of the block before. -/
def Component.code (component : Component) (known : Option StateCode) : Nat → BitReader StateCode
  | 0 => pure component.common
  | 1 => do
    let symbol ← number 8
    if symbol < component.scale.length then return .single symbol else malformed
  | 2 => StateCode.read component.scale.length component.maxLog
  | _ => ofOption known

/-- The three **codes for sequences**. -/
structure SequenceCodes where
  literals : StateCode
  distance : StateCode
  length : StateCode

/-- The codes of a block whose kinds are in one byte. -/
def SequenceCodes.read (known : Option SequenceCodes) (kinds : Nat) : BitReader SequenceCodes := do
  let literals ← literalComponent.code (known.map (·.literals)) (kinds / 64)
  let distance ← distanceComponent.code (known.map (·.distance)) (kinds / 16 % 4)
  let length ← lengthComponent.code (known.map (·.length)) (kinds / 4 % 4)
  return ⟨literals, distance, length⟩

/-! ## Sequences -/

/-- A **sequence**: how many literals it takes, and the length and the distance of the stretch that it
repeats. A distance up to three stands for a recent one, a greater one is three too great. -/
structure Sequence where
  literals : Nat
  length : Nat
  distance : Nat
  deriving DecidableEq, Repr

/-- The states for one sequence. -/
structure SequenceStates where
  literals : CodeState
  distance : CodeState
  length : CodeState

namespace SequenceStates

/-- The states for the first sequence. -/
def first (codes : SequenceCodes) : RegisterReader SequenceStates := do
  let literals ← Register.first codes.literals
  let distance ← Register.first codes.distance
  let length ← Register.first codes.length
  return ⟨literals, distance, length⟩

/-- The states for the sequence after one. -/
def after (codes : SequenceCodes) (states : SequenceStates) : RegisterReader SequenceStates := do
  let literals ← Register.after codes.literals states.literals
  let length ← Register.after codes.length states.length
  let distance ← Register.after codes.distance states.distance
  return ⟨literals, distance, length⟩

/-- The sequence for which states stand. -/
def sequence (states : SequenceStates) : RegisterReader Sequence := do
  let distance ← Register.scaled distanceScale states.distance.symbol
  let length ← Register.scaled lengthScale states.length.symbol
  let literals ← Register.scaled literalScale states.literals.symbol
  return ⟨literals, length, distance⟩

end SequenceStates

/-- The latest three distances. -/
structure Recent where
  first : Nat
  second : Nat
  third : Nat
  deriving DecidableEq, Repr

/-- The recent distances before the first sequence of a frame. -/
def Recent.start : Recent := ⟨1, 4, 8⟩

/-- The recent distances after a sequence; the first one is its own. If the sequence takes no literals,
the recent distances that it may have are the second one, the third one, and one less than the
first. -/
def Recent.after (recent : Recent) (s : Sequence) : Recent :=
  let ⟨a, b, c⟩ := recent
  if 3 < s.distance then ⟨s.distance - 3, a, b⟩
  else
    match s.distance + if s.literals = 0 then 1 else 0 with
    | 1 => ⟨a, b, c⟩
    | 2 => ⟨b, a, c⟩
    | 3 => ⟨c, a, b⟩
    | _ => ⟨a - 1, a, b⟩

/-- **How far the sequences of a block were followed**. -/
structure Progress where
  /-- All bytes so far. -/
  out : Array UInt8
  recent : Recent
  /-- The literals that are left. -/
  literals : Bytes

/-- The progress after a sequence, where there may be so many bytes in all. -/
def Progress.after (stop : Nat) (p : Progress) (s : Sequence) : Except Fault Progress :=
  let recent := p.recent.after s
  if stop < p.out.size + s.literals + s.length then .error .noRoom
  else if p.literals.length < s.literals then .error .corrupt
  else if recent.first = 0 ∨ p.out.size + s.literals < recent.first then .error .corrupt
  else
    .ok ⟨stretched recent.first s.length (p.out ++ p.literals.take s.literals), recent,
      p.literals.drop s.literals⟩

/-- The progress after a sequence and so many more. There are no states after the last one, and it uses
up the bits. -/
def followFrom (codes : SequenceCodes) (stop : Nat) :
    Nat → SequenceStates → Progress → Register → Except Fault Progress
  | more, states, p, register => do
    let (s, register) := states.sequence register
    let p ← p.after stop s
    match more with
    | 0 => if register.isUsedUp then return p else throw .corrupt
    | n + 1 =>
      let (states, register) := states.after codes register
      followFrom codes stop n states p register

/-! ## The section -/

/-- The **sequences** of a block: how many there are, and unless there are none, their codes and
bits. -/
structure SequenceSection where
  count : Nat
  codes : Option SequenceCodes
  bits : Bits

namespace SequenceSection

/-- Reads sequences up to the end of a block. -/
def read (known : Option SequenceCodes) (content : Bytes) : Except Fault SequenceSection := do
  let byte (i : Nat) : Except Fault Nat :=
    match content[i]? with
    | some b => .ok b.toNat
    | none => .error .wrongSize
  let a ← byte 0
  let (count, headSize) ←
    if a < 128 then pure (a, 1)
    else if a < 255 then do pure ((a - 128) * 256 + (← byte 1), 2)
    else do
      let high ← byte 2
      pure (numberOf ((content.drop 1).take 1) + 256 * high + 0x7F00, 3)
  let content := content.drop headSize
  if count = 0 then
    if content = [] then return ⟨0, known, []⟩ else throw .corrupt
  else
    match content with
    | [] => throw .wrongSize
    | kinds :: content =>
      if kinds.toNat % 4 ≠ 0 then throw .corrupt
      match SequenceCodes.read known kinds.toNat (bitsOf content) with
      | .ok (codes, bits) => return ⟨count, some codes, bits⟩
      | .error _ => throw .corrupt

/-- What sequences make of literals, where so many bytes may be added to those in `out`. Literals that
no sequence takes come last. -/
def follow (steps : SequenceSection) (limit : Nat) (out : Array UInt8) (recent : Recent)
    (literals : Bytes) : Except Fault (Array UInt8 × Recent) := do
  let stop := out.size + limit
  let start : Progress := ⟨out, recent, literals⟩
  let p ←
    match steps.codes, steps.count with
    | some codes, n + 1 =>
      match (Register.ofBits? steps.bits).map (SequenceStates.first codes) with
      | some (states, register) => followFrom codes stop n states start register
      | none => throw .corrupt
    | _, _ => pure start
  if stop < p.out.size + p.literals.length then throw .noRoom
  return (p.out ++ p.literals, p.recent)

end SequenceSection

end Delimited.Zstd
