import Delimited.Charset.Coding
import Mathlib.Tactic.Common

set_option autoImplicit false
set_option relaxedAutoImplicit false

/-!
# The charsets of Unicode

UTF-8 and UTF-16 have all characters, so nothing is ever written in place of one, and a text has the
same bytes whether it may go on or not.

The decoder of UTF-8 takes the bytes of a character one by one. The first byte gives the leading bits
and the number of bytes that follow, each of which gives six more. The ranges that the decoder
demands of the second byte leave out nothing that the encoding of a character has.

The decoder of UTF-16 puts two bytes together to a unit. The units of a character are the character
itself or a leading surrogate and a trailing one, and the ranges of these three do not overlap.

## Main results

* `Delimited.Charset.encoder_of_unicode` — the encoders write the characters one by one.
* `Delimited.Decoder.decode_flatMap` — a decoder that reads one character reads all of them.
* `Delimited.Utf8.decode_utf8Bytes`, `Delimited.Utf16.decode_units` — UTF-8 and UTF-16 read what they
  write.
* `Delimited.Utf8.text?_eq_some_iff` — which bytes are those of a text.
* `Delimited.Charset.decode_encode` — so the charsets of Unicode lose nothing.
-/

namespace Delimited

/-! ## Encoders that have all characters -/

namespace Encoder

variable (bytes : Char → Bytes) (substitute : Substitute)

/-- An encoder that has the same bytes for a character wherever it stands, and for every character,
writes the characters of a text one by one. -/
theorem feed_stateless (s : (stateless fun c => some (bytes c)).State) (text : Text) :
    ((stateless fun c => some (bytes c)).feed substitute s text).1 = text.flatMap bytes := by
  induction text generalizing s with
  | nil => rfl
  | cons c cs ih =>
    rw [feed_cons, ih]
    rfl

/-- Such an encoder writes nothing at the end. -/
theorem encode_stateless (text : Text) :
    (stateless fun c => some (bytes c)).encode substitute text = text.flatMap bytes := by
  rw [← feed_stateless bytes substitute (stateless fun c => some (bytes c)).start text]
  exact List.append_nil _

end Encoder

/-- **The encoders of UTF-8 and UTF-16** write the characters of a text one by one and nothing else,
whatever would be written in place of a character. -/
theorem Charset.encoder_of_unicode {charset : Charset}
    (h : charset ∈ [Charset.utf8, Charset.utf16le, Charset.utf16be]) (substitute : Substitute)
    (text : Text) :
    (charset.encoder.feed substitute charset.encoder.start text).1 = charset.encode text ∧
      charset.encoder.encode substitute text = charset.encode text := by
  have hstateless : ∃ bytes : Char → Bytes,
      charset.encoder = Encoder.stateless fun c => some (bytes c) := by
    simp only [List.mem_cons, List.not_mem_nil, or_false] at h
    rcases h with rfl | rfl | rfl
    · exact ⟨_, rfl⟩
    · exact ⟨_, rfl⟩
    · exact ⟨_, rfl⟩
  obtain ⟨bytes, hbytes⟩ := hstateless
  rw [Charset.encode, hbytes, Encoder.encode_stateless, Encoder.encode_stateless,
    Encoder.feed_stateless]
  exact ⟨rfl, rfl⟩

/-- In UTF-8 these are the UTF-8 bytes of the text. -/
theorem Charset.encode_utf8 (text : Text) : Charset.utf8.encode text = utf8Bytes text :=
  Encoder.encode_stateless String.utf8EncodeChar numericReference text

/-! ## Decoders that read characters one by one -/

/-- A decoder that reads the bytes of **each character** as that character, and is then as it was at
the start, reads the bytes of a text as that text. -/
theorem Decoder.decode_flatMap (d : Decoder) {bytes : Char → Bytes}
    (hchar : ∀ c, d.feed d.start (bytes c) = ([c], d.start)) (hfinish : d.finish d.start = [])
    (text : Text) : d.decode (text.flatMap bytes) = text := by
  have hall : d.feed d.start (text.flatMap bytes) = (text, d.start) := by
    induction text with
    | nil => rfl
    | cons c cs ih =>
      rw [List.flatMap_cons, d.feed_append, hchar]
      dsimp only
      rw [ih]
      rfl
  rw [Decoder.decode, Decoder.decodeFrom, hall]
  dsimp only
  rw [hfinish, List.append_nil]

namespace Utf8

/-! ## Single bytes -/

/-- A byte below 128 is a character. -/
theorem step_ascii : ∀ n < 0x80, step .start (UInt8.ofNat n) = ([Char.ofNat n], .start) := by
  decide

/-- The first of two bytes. -/
theorem step_of_two : ∀ k < 0x20, 2 ≤ k →
    step .start (UInt8.ofNat (k + 0xC0)) = ([], .tail k 1 0x80 0xBF) := by
  decide

/-- The first of three bytes. After the least value only the upper part of the range may follow, and
after the one that surrogates have only the lower part. -/
theorem step_of_three : ∀ k < 0x10, step .start (UInt8.ofNat (k + 0xE0)) =
    ([], .tail k 2 (if k = 0 then 0xA0 else 0x80) (if k = 0xD then 0x9F else 0xBF)) := by
  decide

/-- The first of four bytes. After the least value only the upper part of the range may follow, and
after the greatest one only the lower part. -/
theorem step_of_four : ∀ k < 5, step .start (UInt8.ofNat (k + 0xF0)) =
    ([], .tail k 3 (if k = 0 then 0x90 else 0x80) (if k = 4 then 0x8F else 0xBF)) := by
  decide

/-- A byte in the range that is demanded gives six more bits. -/
theorem step_tail {bits needed k : Nat} {low high : UInt8} (hk : k < 0x40)
    (hlow : low.toNat ≤ k + 0x80) (hhigh : k + 0x80 ≤ high.toNat) :
    step (.tail bits needed low high) (UInt8.ofNat (k + 0x80)) =
      if needed ≤ 1 then ([Char.ofNat (bits * 64 + k)], .start)
      else ([], .tail (bits * 64 + k) (needed - 1) 0x80 0xBF) := by
  have hbyte : (UInt8.ofNat (k + 0x80)).toNat = k + 0x80 := by
    rw [UInt8.toNat_ofNat']
    omega
  rw [step, if_pos]
  · simp only [hbyte, Nat.add_sub_cancel]
  · rw [UInt8.le_iff_toNat_le, UInt8.le_iff_toNat_le, hbyte]
    exact ⟨hlow, hhigh⟩

/-- A byte after which others follow. -/
theorem step_more {bits needed k : Nat} {low high : UInt8} (hk : k < 0x40)
    (hlow : low.toNat ≤ k + 0x80) (hhigh : k + 0x80 ≤ high.toNat) :
    step (.tail bits (needed + 2) low high) (UInt8.ofNat (k + 0x80)) =
      ([], .tail (bits * 64 + k) (needed + 1) 0x80 0xBF) := by
  rw [step_tail hk hlow hhigh, if_neg (by omega)]
  rfl

/-- Later bytes may have any value. -/
theorem tail_range {k : Nat} (hk : k < 0x40) :
    (0x80 : UInt8).toNat ≤ k + 0x80 ∧ k + 0x80 ≤ (0xBF : UInt8).toNat := by
  show 0x80 ≤ k + 0x80 ∧ k + 0x80 ≤ 0xBF
  omega

/-! ## Characters and texts -/

/-- What the decoder makes of bytes in a state. -/
def decoded (s : State) (bytes : Bytes) : Text × State :=
  decoder.feed s bytes

/-- What is decoded of a byte comes before what is decoded of the others. -/
theorem decoded_cons {s t : State} {b : UInt8} {text : Text} (h : step s b = (text, t))
    (bs : Bytes) : decoded s (b :: bs) = (text ++ (decoded t bs).1, (decoded t bs).2) := by
  have hcons : decoded s (b :: bs) =
      ((step s b).1 ++ (decoded (step s b).2 bs).1, (decoded (step s b).2 bs).2) :=
    decoder.feed_cons s b bs
  rw [hcons, h]

/-- The last byte ends the character. -/
theorem decoded_last {bits : Nat} (k : Nat) (hk : k < 0x40) :
    decoded (.tail bits 1 0x80 0xBF) [UInt8.ofNat (k + 0x80)] =
      ([Char.ofNat (bits * 64 + k)], .start) := by
  have hstep : step (.tail bits 1 0x80 0xBF) (UInt8.ofNat (k + 0x80)) =
      ([Char.ofNat (bits * 64 + k)], .start) :=
    step_tail hk (tail_range hk).1 (tail_range hk).2
  rw [decoded_cons hstep]
  rfl

/-- **The bytes of a character** give that character.

**Proof sketch.** One case for each number of bytes. The bits of the bytes are digits of the code
point to the base 64, and the ranges of the second byte hold because the code point is not too small
for this number of bytes, not too large, and no surrogate. -/
theorem decoded_char (c : Char) : decoded .start (String.utf8EncodeChar c) = ([c], .start) := by
  have hc : Char.ofNat c.val.toNat = c := Char.ofNat_toNat c
  have hvalid : c.val.toNat < 0xD800 ∨ 0xDFFF < c.val.toNat ∧ c.val.toNat < 0x110000 := c.valid
  unfold String.utf8EncodeChar
  generalize c.val.toNat = n at hc hvalid
  subst hc
  dsimp only
  split_ifs with h1 h2 h3
  · rw [decoded_cons (step_ascii n (by omega))]
    rfl
  · have hn : n / 64 % 32 * 64 + n % 64 = n := by omega
    rw [decoded_cons (step_of_two (n / 64 % 32) (by omega) (by omega)),
      decoded_last (n % 64) (by omega), hn]
    rfl
  · have hn : (n / 4096 % 16 * 64 + n / 64 % 64) * 64 + n % 64 = n := by omega
    rw [decoded_cons (step_of_three (n / 4096 % 16) (by omega)),
      decoded_cons (step_more (by omega) ?_ ?_), decoded_last (n % 64) (by omega), hn]
    · rfl
    · split_ifs
      · show 0xA0 ≤ n / 64 % 64 + 0x80
        omega
      · exact (tail_range (by omega)).1
    · split_ifs
      · show n / 64 % 64 + 0x80 ≤ 0x9F
        omega
      · exact (tail_range (by omega)).2
  · have hn : ((n / 262144 % 8 * 64 + n / 4096 % 64) * 64 + n / 64 % 64) * 64 + n % 64 = n := by
      omega
    have hmiddle : n / 64 % 64 < 0x40 := by omega
    rw [decoded_cons (step_of_four (n / 262144 % 8) (by omega)),
      decoded_cons (step_more (by omega) ?_ ?_),
      decoded_cons (step_more hmiddle (tail_range hmiddle).1 (tail_range hmiddle).2),
      decoded_last (n % 64) (by omega), hn]
    · rfl
    · split_ifs
      · show 0x90 ≤ n / 4096 % 64 + 0x80
        omega
      · exact (tail_range (by omega)).1
    · split_ifs
      · show n / 4096 % 64 + 0x80 ≤ 0x8F
        omega
      · exact (tail_range (by omega)).2

/-- **UTF-8 reads what it writes.** -/
theorem decode_utf8Bytes (text : Text) : decoder.decode (utf8Bytes text) = text :=
  decoder.decode_flatMap decoded_char rfl text

/-- **The text of some bytes** is the one that has them, so there is none but for those of a text. -/
theorem text?_eq_some_iff {bytes : Bytes} {text : Text} :
    text? bytes = some text ↔ utf8Bytes text = bytes := by
  unfold text?
  dsimp only
  constructor
  · intro h
    split at h
    · next hbytes =>
      cases h
      exact hbytes
    · cases h
  · rintro rfl
    rw [decode_utf8Bytes, if_pos rfl]

/-- Bytes without a text are not those of any text. -/
theorem text?_eq_none_iff {bytes : Bytes} :
    text? bytes = none ↔ ∀ text, utf8Bytes text ≠ bytes := by
  rw [Option.eq_none_iff_forall_ne_some]
  exact forall_congr' fun text => not_congr text?_eq_some_iff

end Utf8

namespace Utf16

/-! ## Units -/

/-- The two bytes of a unit make up the unit, whichever comes first. -/
theorem unitBytes_eq (order : ByteOrder) {unit : Nat} (h : unit < 0x10000) :
    ∃ a b, unitBytes order unit = [a, b] ∧ unitOf order a b = unit := by
  have hhigh : (UInt8.ofNat (unit / 256)).toNat = unit / 256 := by
    rw [UInt8.toNat_ofNat']
    omega
  have hlow : (UInt8.ofNat (unit % 256)).toNat = unit % 256 := by
    rw [UInt8.toNat_ofNat']
    omega
  cases order with
  | big =>
    refine ⟨_, _, rfl, ?_⟩
    rw [unitOf, hhigh, hlow]
    omega
  | little =>
    refine ⟨_, _, rfl, ?_⟩
    rw [unitOf, hhigh, hlow]
    omega

/-- What the decoder makes of bytes in a state. -/
def decoded (order : ByteOrder) (s : State) (bytes : Bytes) : Text × State :=
  (decoder order).feed s bytes

/-- Two bytes are one step. -/
theorem decoded_pair (order : ByteOrder) (lead : Option Nat) (a b : UInt8) :
    decoded order ⟨lead, none⟩ [a, b] = step order ⟨lead, some a⟩ b := by
  have hfirst : decoded order ⟨lead, none⟩ [a, b] =
      ((decoded order ⟨lead, some a⟩ [b]).1, (decoded order ⟨lead, some a⟩ [b]).2) :=
    (decoder order).feed_cons ⟨lead, none⟩ a [b]
  have hsecond : decoded order ⟨lead, some a⟩ [b] =
      ((step order ⟨lead, some a⟩ b).1 ++ [], (step order ⟨lead, some a⟩ b).2) :=
    (decoder order).feed_cons ⟨lead, some a⟩ b []
  rw [hfirst, hsecond, List.append_nil]

/-- A unit that no leading surrogate precedes. -/
theorem decoded_unit (order : ByteOrder) {unit : Nat} (h : unit < 0x10000) :
    decoded order ⟨none, none⟩ (unitBytes order unit) = fresh unit := by
  obtain ⟨a, b, hbytes, hunit⟩ := unitBytes_eq order h
  rw [hbytes, decoded_pair, step, hunit]

/-- A trailing surrogate after a leading one. -/
theorem decoded_trailing (order : ByteOrder) (lead : Nat) {unit : Nat} (hlow : 0xDC00 ≤ unit)
    (hhigh : unit < 0xE000) :
    decoded order ⟨some lead, none⟩ (unitBytes order unit) =
      ([Char.ofNat (0x10000 + (lead - 0xD800) * 1024 + (unit - 0xDC00))], ⟨none, none⟩) := by
  have h : unit < 0x10000 := by omega
  obtain ⟨a, b, hbytes, hunit⟩ := unitBytes_eq order h
  rw [hbytes, decoded_pair, step, hunit]
  exact if_pos ⟨hlow, hhigh⟩

/-! ## Characters and texts -/

/-- **The bytes of a character** give that character.

**Proof sketch.** One case for each number of units. A character that is one unit is no surrogate. The
two surrogates of any other character hold the upper and the lower ten bits of what is above the
characters of one unit. -/
theorem decoded_char (order : ByteOrder) (c : Char) :
    decoded order ⟨none, none⟩ ((units c).flatMap (unitBytes order)) = ([c], ⟨none, none⟩) := by
  have hc : Char.ofNat c.toNat = c := Char.ofNat_toNat c
  have hvalid : c.toNat < 0xD800 ∨ 0xDFFF < c.toNat ∧ c.toNat < 0x110000 := c.valid
  unfold units
  generalize c.toNat = n at hc hvalid
  split_ifs with h
  · have hfresh : fresh n = ([Char.ofNat n], ⟨none, none⟩) := by
      rw [fresh, if_neg (by omega), if_neg (by omega)]
    rw [List.flatMap_cons, List.flatMap_nil, List.append_nil, decoded_unit order h, hfresh, hc]
  · have hlead : fresh (0xD800 + (n - 0x10000) / 1024) =
        ([], ⟨some (0xD800 + (n - 0x10000) / 1024), none⟩) := by
      rw [fresh, if_pos (by omega)]
    have hn : 0x10000 + (0xD800 + (n - 0x10000) / 1024 - 0xD800) * 1024 +
        (0xDC00 + (n - 0x10000) % 1024 - 0xDC00) = n := by omega
    have hboth (xs ys : Bytes) : decoded order ⟨none, none⟩ (xs ++ ys) =
        ((decoded order ⟨none, none⟩ xs).1 ++
            (decoded order (decoded order ⟨none, none⟩ xs).2 ys).1,
          (decoded order (decoded order ⟨none, none⟩ xs).2 ys).2) :=
      (decoder order).feed_append ⟨none, none⟩ xs ys
    rw [List.flatMap_cons, List.flatMap_cons, List.flatMap_nil, List.append_nil, hboth,
      decoded_unit order (by omega), hlead]
    dsimp only
    rw [decoded_trailing order _ (by omega) (by omega), hn, hc]
    rfl

/-- **UTF-16 reads what it writes.** -/
theorem decode_units (order : ByteOrder) (text : Text) :
    (decoder order).decode (text.flatMap fun c => (units c).flatMap (unitBytes order)) = text :=
  (decoder order).decode_flatMap (decoded_char order) rfl text

end Utf16

/-- **The charsets of Unicode** lose nothing: what they write is read back as the same text. -/
theorem Charset.decode_encode {charset : Charset}
    (h : charset ∈ [Charset.utf8, Charset.utf16le, Charset.utf16be]) (text : Text) :
    charset.decode (charset.encode text) = text := by
  simp only [List.mem_cons, List.not_mem_nil, or_false] at h
  rcases h with rfl | rfl | rfl
  · rw [Charset.encode_utf8]
    exact Utf8.decode_utf8Bytes text
  · have hbytes : Charset.utf16le.encode text =
        text.flatMap fun c => (Utf16.units c).flatMap (Utf16.unitBytes .little) :=
      Encoder.encode_stateless _ numericReference text
    rw [hbytes]
    exact Utf16.decode_units .little text
  · have hbytes : Charset.utf16be.encode text =
        text.flatMap fun c => (Utf16.units c).flatMap (Utf16.unitBytes .big) :=
      Encoder.encode_stateless _ numericReference text
    rw [hbytes]
    exact Utf16.decode_units .big text

end Delimited
