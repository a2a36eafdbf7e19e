import Delimited.Charset.Coding

set_option autoImplicit false
set_option relaxedAutoImplicit false

/-!
# Question marks in place of characters

Whether a charset has a character does not depend on the text before it, and where it does not have
one, an encoder writes what it would write for a question mark there. So the bytes with question marks
are those of another text, of which the charset has every character, and these are the same whatever
would be written in place of a character.

## Main definitions

* `Delimited.Encoder.has` — whether an encoder has a character.
* `Delimited.Encoder.legible` — a text with question marks for what an encoder does not have.
* `Delimited.Encoder.MarksMissing` — an encoder that writes a question mark like any missing character.

## Main results

* `Delimited.Charset.marksMissing` — the encoders of all charsets are such.
* `Delimited.Charset.encode_questionMark` — a text with question marks is encoded as another text.
-/

namespace Delimited

namespace Encoder

variable (e : Encoder)

/-- Whether the encoder has a character. -/
def has (c : Char) : Bool :=
  match e.step e.start c with
  | .mapped _ _ => true
  | .unmappable _ _ _ => false

/-- The text with a **question mark** in place of each character that the encoder does not have. -/
def legible (text : Text) : Text :=
  text.map fun c => if e.has c then c else '?'

variable {e}

/-- A character that is mapped is in the charset. -/
theorem has_of_mapped {c : Char} {bytes : Bytes} {t : e.State}
    (h : e.step e.start c = .mapped bytes t) : e.has c = true := by
  rw [has, h]

/-- A character that is unmappable is not. -/
theorem has_of_unmappable {c shown : Char} {before : Bytes} {t : e.State}
    (h : e.step e.start c = .unmappable before shown t) : e.has c = false := by
  rw [has, h]

variable (e)

/-- An encoder that, in any state, has the same characters as at the start, and writes a **question
mark** as it would write one in place of a character that it does not have. -/
def MarksMissing : Prop :=
  ∀ (s : e.State) (c : Char),
    (e.has c = true ∧ ∃ bytes t, e.step s c = .mapped bytes t) ∨
      (e.has c = false ∧ ∃ before shown t, e.step s c = .unmappable before shown t ∧
        e.step s '?' = .mapped (before ++ [0x3F]) t)

variable {e}

/-- In any state such an encoder writes a question mark where it does not have a character. -/
theorem MarksMissing.put_eq (h : e.MarksMissing) (substitute : Substitute) (s : e.State)
    (c : Char) : e.put questionMark s c = e.put substitute s (if e.has c then c else '?') := by
  rcases h s c with ⟨hhas, bytes, t, hstep⟩ | ⟨hhas, before, shown, t, hstep, hmark⟩
  · rw [if_pos hhas, put, put, hstep]
  · rw [hhas, if_neg Bool.false_ne_true, put, put, hstep, hmark]
    rfl

/-- So a text with question marks is encoded as another one, whatever would be written in place of a
character that is missing: none is. -/
theorem MarksMissing.feed_eq (h : e.MarksMissing) (substitute : Substitute) (s : e.State)
    (text : Text) : e.feed questionMark s text = e.feed substitute s (e.legible text) := by
  induction text generalizing s with
  | nil => rfl
  | cons c cs ih =>
    rw [legible, List.map_cons, feed_cons, feed_cons, ← h.put_eq substitute, ih]
    rfl

/-- An encoder that has the same bytes for a character wherever it stands marks missing ones, if it
has the question mark of ASCII or misses none. -/
theorem marksMissing_stateless {bytes? : Char → Option Bytes}
    (h : ∀ c, bytes? c = none → bytes? '?' = some [0x3F]) : (stateless bytes?).MarksMissing := by
  intro s c
  cases hbytes : bytes? c with
  | some bytes =>
    have hstep : ∀ s, (stateless bytes?).step s c = .mapped bytes () := by
      simp [stateless, hbytes]
    exact Or.inl ⟨has_of_mapped (hstep _), bytes, (), hstep s⟩
  | none =>
    have hstep : ∀ s, (stateless bytes?).step s c = .unmappable [] c () := by
      simp [stateless, hbytes]
    have hmark : (stateless bytes?).step s '?' = .mapped [0x3F] () := by
      simp [stateless, h c hbytes]
    exact Or.inr ⟨has_of_unmappable (hstep _), [], c, (), hstep s, hmark⟩

end Encoder

/-- In ISO-2022-JP a character is refused in all modes or in none. -/
theorem Iso2022Jp.put_cases (c : Char) :
    (∃ shown, ∀ mode, Iso2022Jp.put mode c = Iso2022Jp.refuse mode shown) ∨
      ∀ mode, ∃ bytes next, Iso2022Jp.put mode c = .mapped bytes next := by
  by_cases hcontrol : c.toNat = 0x0E ∨ c.toNat = 0x0F ∨ c.toNat = 0x1B
  · exact Or.inl ⟨replacementChar, fun mode => if_pos hcontrol⟩
  by_cases hascii : c.toNat < 0x80
  · refine Or.inr fun mode => ?_
    rw [Iso2022Jp.put, if_neg hcontrol, if_pos hascii]
    split
    · exact ⟨_, _, rfl⟩
    · exact ⟨_, _, rfl⟩
  by_cases hyen : c = '\u00a5'
  · refine Or.inr fun mode => ?_
    rw [Iso2022Jp.put, if_neg hcontrol, if_neg hascii, if_pos hyen]
    exact ⟨_, _, rfl⟩
  by_cases hline : c = '\u203e'
  · refine Or.inr fun mode => ?_
    rw [Iso2022Jp.put, if_neg hcontrol, if_neg hascii, if_neg hyen, if_pos hline]
    exact ⟨_, _, rfl⟩
  -- for all other characters the table decides, and that is looked up without the mode
  cases hp : Jis.index.pointer? (Iso2022Jp.widened c) with
  | none =>
    refine Or.inl ⟨c, fun mode => ?_⟩
    simp only [Iso2022Jp.put, if_neg hcontrol, if_neg hascii, if_neg hyen, if_neg hline, hp]
  | some p =>
    have hput : ∀ mode, Iso2022Jp.put mode c =
        if p < 8836 then
          .mapped (Iso2022Jp.switch mode .jis ++
            [UInt8.ofNat (0x21 + p / 94), UInt8.ofNat (0x21 + p % 94)]) .jis
        else Iso2022Jp.refuse mode c := by
      intro mode
      simp only [Iso2022Jp.put, if_neg hcontrol, if_neg hascii, if_neg hyen, if_neg hline, hp]
    by_cases hlast : p < 8836
    · exact Or.inr fun mode => ⟨_, _, (hput mode).trans (if_pos hlast)⟩
    · exact Or.inl ⟨c, fun mode => (hput mode).trans (if_neg hlast)⟩

/-- The encoder of ISO-2022-JP goes back to ASCII before it reports a character, unless it is in the
Roman set; both have the question mark. -/
theorem Iso2022Jp.marksMissing_encoder : Iso2022Jp.encoder.MarksMissing := by
  intro (mode : Iso2022Jp.Mode) c
  have hstep : ∀ mode : Iso2022Jp.Mode, Iso2022Jp.encoder.step mode c = Iso2022Jp.put mode c :=
    fun _ => rfl
  rcases Iso2022Jp.put_cases c with ⟨shown, hrefused⟩ | hwritten
  · have hmark : Iso2022Jp.put mode '?' =
        .mapped (Iso2022Jp.switch mode (Iso2022Jp.fallback mode) ++ [0x3F])
          (Iso2022Jp.fallback mode) := by
      cases mode <;> rfl
    have hmissing := Encoder.has_of_unmappable ((hstep .ascii).trans (hrefused .ascii))
    exact Or.inr ⟨hmissing, _, shown, _, hrefused mode, hmark⟩
  · obtain ⟨bytes, next, hstart⟩ := hwritten .ascii
    exact Or.inl ⟨Encoder.has_of_mapped ((hstep .ascii).trans hstart), hwritten mode⟩

namespace Charset

/-- **The encoders of all charsets** write a question mark like any character that they do not
have. -/
theorem marksMissing (charset : Charset) : charset.encoder.MarksMissing := by
  cases charset with
  | iso2022Jp => exact Iso2022Jp.marksMissing_encoder
  | utf8 | replacement | utf16be | utf16le =>
    exact Encoder.marksMissing_stateless fun c h => by cases h
  | _ => exact Encoder.marksMissing_stateless fun c h => rfl

/-- **With question marks** in place of what the charset does not have, a text is encoded as the text
that has question marks there is by itself. -/
theorem encode_questionMark (charset : Charset) (text : Text) :
    charset.encoder.encode questionMark text = charset.encode (charset.encoder.legible text) := by
  rw [encode, Encoder.encode, Encoder.encode,
    charset.marksMissing.feed_eq numericReference]

end Charset

end Delimited
