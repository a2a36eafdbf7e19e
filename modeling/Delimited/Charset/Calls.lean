import Delimited.Charset.Codec

set_option autoImplicit false
set_option relaxedAutoImplicit false

/-!
# Calls of decoders and encoders

A decoder or encoder is called with room for its output. A call stops where the room ends, at the end
of what it was given, and an encoder also after a character that the charset does not have. What is
left is then given to a further call. However much room is made, the calls come to feeding all at once.

## Main definitions

* `Delimited.Room` — how much room is made before a call.
* `Delimited.Decoder.call`, `Delimited.Encoder.call` — one call.
* `Delimited.Decoder.calls`, `Delimited.Encoder.calls` — calls until nothing is left.
* `Delimited.Decoder.feedPiece`, `Delimited.Encoder.feedPiece` — such calls for one piece.

## Main results

* `Delimited.Decoder.calls_eq`, `Delimited.Encoder.calls_eq` — the room makes no difference.
-/

namespace Delimited

/-- The **room** that is made before a call, by what is left: it is told how many bytes or characters
there is room for, and there is room for one at least. -/
structure Room (α : Type) where
  /-- For how many bytes or characters there is room. -/
  size : List α → Nat
  /-- There is some room as long as anything is left. -/
  size_pos : ∀ {rest : List α}, rest ≠ [] → 0 < size rest

/-- Room for all that is left. -/
def Room.all {α : Type} : Room α := ⟨List.length, List.length_pos_iff.2⟩

/-! ## Decoding -/

namespace Decoder

variable (d : Decoder)

/-- Why a call of a decoder stopped. -/
inductive Stop where
  /-- All bytes were taken. -/
  | inputEmpty
  /-- There was no more room. -/
  | outputFull
  deriving DecidableEq, Repr

/-- What a **call** of a decoder leaves behind. -/
structure Call where
  out : Array Char
  state : d.State
  /-- The bytes that were not taken. -/
  rest : Bytes
  stop : Stop

/-- One **call**, which puts its text after that in `out`. If these are the last bytes, what the decoder
has at their end is part of it. -/
def call (last : Bool) : Array Char → Nat → d.State → Bytes → d.Call
  | out, _, s, [] => ⟨if last then out ++ d.finish s else out, s, [], .inputEmpty⟩
  | out, 0, s, b :: bs => ⟨out, s, b :: bs, .outputFull⟩
  | out, room + 1, s, b :: bs => call last (out ++ (d.step s b).1) room (d.step s b).2 bs

/-- A call takes its bytes from the front. -/
theorem length_rest_le (last : Bool) (out : Array Char) (room : Nat) (s : d.State) (bytes : Bytes) :
    (d.call last out room s bytes).rest.length ≤ bytes.length := by
  fun_induction call d last out room s bytes with
  | case1 | case2 => exact Nat.le_refl _
  | case3 out room s b bs ih => exact Nat.le_succ_of_le ih

/-- A call that has room takes some of them. -/
theorem length_rest_lt {last : Bool} {out out' : Array Char} {room : Nat} {s t : d.State}
    {bytes rest : Bytes} (hroom : bytes ≠ [] → 0 < room)
    (h : d.call last out room s bytes = ⟨out', t, rest, .outputFull⟩) :
    rest.length < bytes.length := by
  cases bytes with
  | nil =>
    rw [call] at h
    cases h
  | cons b bs =>
    cases room with
    | zero => exact absurd (hroom (List.cons_ne_nil _ _)) (Nat.lt_irrefl 0)
    | succ room =>
      have hle := d.length_rest_le last (out ++ (d.step s b).1) room (d.step s b).2 bs
      rw [call] at h
      rw [h] at hle
      exact Nat.lt_succ_of_le hle

/-- **Calls until all bytes are taken.** -/
def calls (room : Room UInt8) (last : Bool) (out : Array Char) (s : d.State) (bytes : Bytes) :
    Array Char × d.State :=
  match _h : d.call last out (room.size bytes) s bytes with
  | ⟨out, t, _, .inputEmpty⟩ => (out, t)
  | ⟨out, t, rest, .outputFull⟩ => calls room last out t rest
termination_by bytes.length
decreasing_by exact d.length_rest_lt room.size_pos _h

/-- The text of a further piece of bytes, with room for all of it in each call. -/
def feedPiece (last : Bool) (s : d.State) (bytes : Bytes) : Text × d.State :=
  let (out, t) := d.calls .all last #[] s bytes
  (out.toList, t)

/-- A call, and feeding what it left, come to feeding all bytes. -/
theorem feedInto_call (last : Bool) (out : Array Char) (room : Nat) (s : d.State) (bytes : Bytes) :
    let call := d.call last out room s bytes
    let fed := d.feedInto out s bytes
    match call.stop with
    | .inputEmpty => (call.out, call.state) = (if last then fed.1 ++ d.finish fed.2 else fed.1, fed.2)
    | .outputFull => d.feedInto call.out call.state call.rest = fed := by
  fun_induction call d last out room s bytes with
  | case1 | case2 => rfl
  | case3 out room s b bs ih => exact ih

/-- **The room makes no difference**: the calls come to feeding all bytes. -/
theorem calls_eq (room : Room UInt8) (last : Bool) (out : Array Char) (s : d.State) (bytes : Bytes) :
    let fed := d.feedInto out s bytes
    d.calls room last out s bytes = (if last then fed.1 ++ d.finish fed.2 else fed.1, fed.2) := by
  intro fed
  fun_induction calls d room last out s bytes with
  | case1 out s bytes out' t rest h =>
    have hcall := d.feedInto_call last out (room.size bytes) s bytes
    rwa [h] at hcall
  | case2 out s bytes out' t rest h ih =>
    have hcall := d.feedInto_call last out (room.size bytes) s bytes
    rw [h] at hcall
    dsimp only at hcall
    rw [hcall] at ih
    exact ih

/-- A piece after which others follow is fed to the decoder. -/
theorem feedPiece_false (s : d.State) (bytes : Bytes) : d.feedPiece false s bytes = d.feed s bytes := by
  rw [feedPiece, calls_eq]
  rfl

/-- After the last piece comes what the decoder has at the end. -/
theorem feedPiece_true (s : d.State) (bytes : Bytes) :
    d.feedPiece true s bytes = ((d.feed s bytes).1 ++ d.finish (d.feed s bytes).2, (d.feed s bytes).2) := by
  rw [feedPiece, calls_eq]
  exact Prod.ext Array.toList_appendList rfl

end Decoder

/-! ## Encoding -/

namespace Encoder

variable (e : Encoder) (substitute : Substitute)

/-- Why a call of an encoder stopped. -/
inductive Stop where
  /-- All text was taken. -/
  | inputEmpty
  /-- There was no more room. -/
  | outputFull
  /-- The character that was taken last is not in the charset; ASCII may be written for `shown`. -/
  | unmappable (shown : Char)
  deriving DecidableEq, Repr

/-- What a **call** of an encoder leaves behind. -/
structure Call where
  out : Array UInt8
  state : e.State
  /-- The text that was not taken. -/
  rest : Text
  stop : Stop

/-- One **call**, which puts its bytes after those in `out`. If this is the last text, what the encoder
writes at its end is part of them. -/
def call (last : Bool) : Array UInt8 → Nat → e.State → Text → e.Call
  | out, _, s, [] => ⟨if last then out ++ e.finish s else out, s, [], .inputEmpty⟩
  | out, 0, s, c :: cs => ⟨out, s, c :: cs, .outputFull⟩
  | out, room + 1, s, c :: cs =>
    match e.step s c with
    | .mapped bytes t => call last (out ++ bytes) room t cs
    | .unmappable before shown t => ⟨out ++ before, t, cs, .unmappable shown⟩

/-- A call takes its text from the front. -/
theorem length_rest_le (last : Bool) (out : Array UInt8) (room : Nat) (s : e.State) (text : Text) :
    (e.call last out room s text).rest.length ≤ text.length := by
  fun_induction call e last out room s text with
  | case1 | case2 => exact Nat.le_refl _
  | case3 out room s c cs bytes t h ih => exact Nat.le_succ_of_le ih
  | case4 => exact Nat.le_succ _

/-- A call that has room takes some of it. -/
theorem length_rest_lt {last : Bool} {out out' : Array UInt8} {room : Nat} {s t : e.State}
    {text rest : Text} {stop : Stop} (hroom : text ≠ [] → 0 < room) (hstop : stop ≠ .inputEmpty)
    (h : e.call last out room s text = ⟨out', t, rest, stop⟩) : rest.length < text.length := by
  cases text with
  | nil =>
    rw [call] at h
    cases h
    exact absurd rfl hstop
  | cons c cs =>
    cases room with
    | zero => exact absurd (hroom (List.cons_ne_nil _ _)) (Nat.lt_irrefl 0)
    | succ room =>
      rw [call] at h
      split at h
      · next bytes u hstep =>
        have hle := e.length_rest_le last (out ++ bytes) room u cs
        rw [h] at hle
        exact Nat.lt_succ_of_le hle
      · cases h
        exact Nat.lt_succ_self _

/-- **Calls until all text is taken.** After a character that the charset does not have, its substitute
is written. -/
def calls (room : Room Char) (last : Bool) (out : Array UInt8) (s : e.State) (text : Text) :
    Array UInt8 × e.State :=
  match _h : e.call last out (room.size text) s text with
  | ⟨out, t, _, .inputEmpty⟩ => (out, t)
  | ⟨out, t, rest, .outputFull⟩ => calls room last out t rest
  | ⟨out, t, rest, .unmappable shown⟩ => calls room last (out ++ substitute shown) t rest
termination_by text.length
decreasing_by
  · exact e.length_rest_lt room.size_pos Stop.noConfusion _h
  · exact e.length_rest_lt room.size_pos Stop.noConfusion _h

/-- The bytes of a further piece of text, with room for all of it in each call. -/
def feedPiece (last : Bool) (s : e.State) (text : Text) : Bytes × e.State :=
  let (out, t) := e.calls substitute .all last #[] s text
  (out.toList, t)

/-- A call, its substitute, and feeding what it left, come to feeding all text. -/
theorem feedInto_call (last : Bool) (out : Array UInt8) (room : Nat) (s : e.State) (text : Text) :
    let call := e.call last out room s text
    let fed := e.feedInto substitute out s text
    match call.stop with
    | .inputEmpty => (call.out, call.state) = (if last then fed.1 ++ e.finish fed.2 else fed.1, fed.2)
    | .outputFull => e.feedInto substitute call.out call.state call.rest = fed
    | .unmappable shown =>
      e.feedInto substitute (call.out ++ substitute shown) call.state call.rest = fed := by
  fun_induction call e last out room s text with
  | case1 | case2 => rfl
  | case3 out room s c cs bytes t h ih =>
    have hput : e.put substitute s c = (bytes, t) := by rw [put, h]
    rw [feedInto, hput]
    exact ih
  | case4 out room s c cs before shown t h =>
    have hput : e.put substitute s c = (before ++ substitute shown, t) := by rw [put, h]
    rw [feedInto, hput]
    exact congrArg (fun found => e.feedInto substitute found t cs) (Array.ext' (by simp))

/-- **The room makes no difference**: the calls come to feeding all text. -/
theorem calls_eq (room : Room Char) (last : Bool) (out : Array UInt8) (s : e.State) (text : Text) :
    let fed := e.feedInto substitute out s text
    e.calls substitute room last out s text =
      (if last then fed.1 ++ e.finish fed.2 else fed.1, fed.2) := by
  intro fed
  fun_induction calls e substitute room last out s text with
  | case1 out s text out' t rest h =>
    have hcall := e.feedInto_call substitute last out (room.size text) s text
    rwa [h] at hcall
  | case2 out s text out' t rest h ih | case3 out s text out' t rest shown h ih =>
    have hcall := e.feedInto_call substitute last out (room.size text) s text
    rw [h] at hcall
    dsimp only at hcall
    rw [hcall] at ih
    exact ih

/-- A piece after which others follow is fed to the encoder. -/
theorem feedPiece_false (s : e.State) (text : Text) :
    e.feedPiece substitute false s text = e.feed substitute s text := by
  rw [feedPiece, calls_eq]
  rfl

/-- After the last piece comes what the encoder writes at the end. -/
theorem feedPiece_true (s : e.State) (text : Text) :
    e.feedPiece substitute true s text =
      ((e.feed substitute s text).1 ++ e.finish (e.feed substitute s text).2,
        (e.feed substitute s text).2) := by
  rw [feedPiece, calls_eq]
  exact Prod.ext Array.toList_appendList rfl

end Encoder

end Delimited
