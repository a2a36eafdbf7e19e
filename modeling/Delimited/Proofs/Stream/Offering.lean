import Delimited.Proofs.Stream.Holding
import Delimited.Stream.TextReader

set_option autoImplicit false
set_option relaxedAutoImplicit false

/-!
# Sources that may fail

A read either fails or gives the next character of the text that the source offers, and then it does
what a read of that text does. So whatever reads such a source does what it does with the text, up
to the first read that fails.

Statements of this kind have a proposition as a parameter which says that all is sound. From it
follows that no read fails; where one does, it is false.

## Main definitions

* `Delimited.Offers` — a source that offers a text.
* `Delimited.ByteReader.Delivers` — a byte reader that delivers bytes without failing.
* `Delimited.ByteReader.withoutFaults` — a byte reader without its failures.

## Main results

* `Delimited.Offers.readUpTo` — reading ahead, unless a read fails.
-/

namespace Delimited

open CharSource

/-- The source **offers** the text: that is what is still to be read. If all is `sound`, no read
will fail. -/
structure Offers {σ : Type} [CharSource σ] (sound : Prop) (s : σ) (text : Text) : Prop where
  content_eq : content s = text
  faults_eq : sound → faults s = 0

/-- A source that never fails offers the text that it holds. -/
theorem Holds.offers {σ : Type} [CharSource σ] {s : σ} {text : Text} (h : Holds s text) :
    Offers True s text :=
  ⟨h.content_eq, fun _ => h.faults_eq⟩

namespace Offers

variable {σ : Type} [CharSource σ] {sound : Prop} {s t : σ} {text : Text}

/-- If all is sound, the source holds the text. -/
theorem holds (h : Offers sound s text) (hsound : sound) : Holds s text :=
  ⟨h.content_eq, h.faults_eq hsound⟩

/-- Pushing characters back puts them in front of the text. -/
theorem unread (h : Offers sound s text) (xs : Text) : Offers sound (unread xs s) (xs ++ text) := by
  refine ⟨?_, fun hsound => ?_⟩
  · rw [content_unread, h.content_eq]
  · rw [faults_unread, h.faults_eq hsound]

/-! ## One read -/

/-- If all is sound, no read fails. -/
theorem not_sound {e : IoFault} (h : Offers sound s text) (hr : read s = (.error e, t)) :
    ¬sound :=
  fun hsound => (h.holds hsound).read_ne_error hr

/-- The end of the source is met when the text is used up. -/
theorem of_read_none (h : Offers sound s text) (hr : read s = (.ok none, t)) :
    text = [] ∧ Offers sound t [] := by
  obtain ⟨hs, ht, hf⟩ := read_none hr
  exact ⟨h.content_eq ▸ hs, ht, fun hsound => hf ▸ h.faults_eq hsound⟩

/-- A character that is read is the first one of the text. -/
theorem of_read_some {c : Char} (h : Offers sound s text) (hr : read s = (.ok (some c), t)) :
    ∃ cs, text = c :: cs ∧ Offers sound t cs := by
  obtain ⟨hc, hf⟩ := read_some hr
  exact ⟨content t, h.content_eq ▸ hc, rfl, fun hsound => hf ▸ h.faults_eq hsound⟩

/-! ## Reading ahead -/

/-- **Reading ahead** takes characters from the front of the text, unless a read fails. -/
theorem readUpTo (h : Offers sound s text) (n : Nat) :
    (∃ cs e t, CharSource.readUpTo n s = ((cs, some e), t) ∧ ¬sound) ∨
      ∃ t, CharSource.readUpTo n s = ((text.take n, none), t) ∧ Offers sound t (text.drop n) := by
  induction n generalizing s text with
  | zero => exact Or.inr ⟨s, rfl, h⟩
  | succ n ih =>
    rw [CharSource.readUpTo]
    rcases hr : read s with ⟨e | _ | c, t⟩
    · exact Or.inl ⟨[], e, t, rfl, h.not_sound hr⟩
    · obtain ⟨rfl, ht⟩ := h.of_read_none hr
      exact Or.inr ⟨t, rfl, ht⟩
    · obtain ⟨cs, rfl, ht⟩ := h.of_read_some hr
      dsimp only
      rcases ih ht with ⟨seen, e, u, hu, hfails⟩ | ⟨u, hu, hd⟩
      · rw [hu]
        exact Or.inl ⟨c :: seen, e, u, rfl, hfails⟩
      · rw [hu]
        exact Or.inr ⟨u, rfl, hd⟩

end Offers

/-! ## Byte readers -/

namespace ByteReader

/-- The byte reader **delivers** the bytes: in chunks none of which is empty, with interruptions in
any places. -/
inductive Delivers : ByteReader → Bytes → Prop
  | nil : Delivers [] []
  | chunk {bytes more : Bytes} {rest : ByteReader} (hne : bytes ≠ []) (h : Delivers rest more) :
      Delivers (.chunk bytes :: rest) (bytes ++ more)
  | interrupt {bytes : Bytes} {rest : ByteReader} (h : Delivers rest bytes) :
      Delivers (.interrupt :: rest) bytes

/-- Such a reader delivers just these bytes, and no read of it fails. -/
theorem Delivers.bytes_eq {input : ByteReader} {bytes : Bytes} (h : input.Delivers bytes) :
    ByteReader.bytes input = bytes ∧ ByteReader.faults input = 0 := by
  induction h with
  | nil => exact ⟨rfl, rfl⟩
  | @chunk bytes more rest hne h ih =>
    obtain ⟨b, bs, rfl⟩ := List.exists_cons_of_ne_nil hne
    rw [ByteReader.bytes, ByteReader.faults, ih.1]
    exact ⟨rfl, ih.2⟩
  | interrupt h ih => exact ih

/-- The byte reader without its failures. -/
def withoutFaults : ByteReader → ByteReader
  | [] => []
  | .fail _ :: rest => withoutFaults rest
  | .chunk bytes :: rest => .chunk bytes :: withoutFaults rest
  | .interrupt :: rest => .interrupt :: withoutFaults rest

/-- It delivers the same bytes. -/
theorem bytes_withoutFaults (input : ByteReader) : bytes (withoutFaults input) = bytes input := by
  fun_induction bytes input with
  | case1 => rfl
  | case2 rest => rfl
  | case3 b bs rest ih => rw [withoutFaults, bytes, ih]
  | case4 fault rest ih => rw [withoutFaults, ih]
  | case5 rest ih => rw [withoutFaults, bytes, ih]

/-- No read of it fails. -/
theorem faults_withoutFaults (input : ByteReader) : faults (withoutFaults input) = 0 := by
  fun_induction faults input with
  | case1 => rfl
  | case2 rest => rfl
  | case3 b bs rest ih => rw [withoutFaults, faults, ih]
  | case4 fault rest ih => rw [withoutFaults, ih]
  | case5 rest ih => rw [withoutFaults, faults, ih]

end ByteReader

/-- A text reader at the start offers the decoding of the bytes. -/
theorem Offers.ofReader {d : Decoder} {sound : Prop} {input : ByteReader}
    (h : sound → ByteReader.faults input = 0) :
    Offers sound (TextReader.ofReader input : TextReader d) (d.decode (ByteReader.bytes input)) :=
  ⟨rfl, h⟩

/-- A text reader at the start holds the decoding of the bytes that are delivered. -/
theorem ByteReader.Delivers.holds {input : ByteReader} {bytes : Bytes} (h : input.Delivers bytes)
    (d : Decoder) : Holds (TextReader.ofReader input : TextReader d) (d.decode bytes) := by
  obtain ⟨hbytes, hfaults⟩ := h.bytes_eq
  rw [← hbytes]
  exact (Offers.ofReader fun _ => hfaults).holds trivial

end Delimited
