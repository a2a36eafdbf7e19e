import Delimited.Escape
import Mathlib.Tactic.Common

set_option autoImplicit false
set_option relaxedAutoImplicit false

/-!
# The escape syntax as a grammar

A setting is expanded from left to right, one unit at a time. Which units there are is stated here
as a relation, apart from the function that expands: a character, an escape, or a code of four
hexadecimal digits that names a Unicode scalar value. The function also takes a code with a plus
sign in the place of the first digit, as if that was a zero; on settings where it meets no such code
it does what the relation says, and on all others it does not.

## Main definitions

* `Delimited.Escape.HexDigit`, `Delimited.Escape.Names` — hexadecimal digits, and the character that
  four of them name.
* `Delimited.Escape.Takes`, `Delimited.Escape.Expands` — the first unit of a setting, and its whole
  expansion, for any rule that says which four characters name a character.
* `Delimited.Escape.MeetsSign` — the expansion comes to a code with a sign.

## Main results

* `Delimited.Escape.codePoint?_eq_some_iff` — the codes that the function takes.
* `Delimited.Escape.expand_of_takes` — the function takes a unit at a time.
* `Delimited.Escape.expands_iff_not_meetsSign` — the function follows the syntax up to signs.
-/

namespace Delimited.Escape

/-! ## Codes -/

/-- The digits up to fifteen, with small letters. -/
def smallDigits : Text :=
  ['0', '1', '2', '3', '4', '5', '6', '7', '8', '9', 'a', 'b', 'c', 'd', 'e', 'f']

/-- The digits up to fifteen, with capital letters. -/
def capitalDigits : Text :=
  ['0', '1', '2', '3', '4', '5', '6', '7', '8', '9', 'A', 'B', 'C', 'D', 'E', 'F']

/-- A character is the **hexadecimal digit** of a value. -/
def HexDigit (c : Char) (n : Nat) : Prop :=
  smallDigits[n]? = some c ∨ capitalDigits[n]? = some c

/-- Whether a character is a digit of some value can be computed. -/
instance (c : Char) (n : Nat) : Decidable (HexDigit c n) :=
  inferInstanceAs (Decidable (_ ∨ _))

/-- Four hexadecimal digits **name** the character of which they write the code point. The code of a
surrogate names no character. -/
def Names (a b c d x : Char) : Prop :=
  ∃ i j k l, HexDigit a i ∧ HexDigit b j ∧ HexDigit c k ∧ HexDigit d l ∧
    x.toNat = ((i * 16 + j) * 16 + k) * 16 + l

/-- The same, where a plus sign may stand for a zero at the front. -/
def NamesSigned (a b c d x : Char) : Prop :=
  Names a b c d x ∨ a = '+' ∧ Names '0' b c d x

/-- A backslash is no digit. -/
theorem HexDigit.ne_backslash {c : Char} {n : Nat} (h : HexDigit c n) : c ≠ '\\' := by
  rintro rfl
  rcases h with h | h
  · exact absurd (List.mem_of_getElem? h) (by decide)
  · exact absurd (List.mem_of_getElem? h) (by decide)

/-- A sign is no digit. -/
theorem not_names_sign (b c d x : Char) : ¬Names '+' b c d x := by
  rintro ⟨i, -, -, -, h | h, -⟩
  · exact absurd (List.mem_of_getElem? h) (by decide)
  · exact absurd (List.mem_of_getElem? h) (by decide)

/-- A character with a hexadecimal value is an ASCII character. -/
theorem toNat_lt_of_hexDigit? {c : Char} {n : Nat} (h : hexDigit? c = some n) :
    c.toNat < 128 := by
  have hbound : ∀ z : Char, z.toNat < 128 → c ≤ z → c.toNat < 128 :=
    fun z hz hc => Nat.lt_of_le_of_lt (UInt32.le_iff_toNat_le.1 hc) hz
  unfold hexDigit? at h
  split_ifs at h with hdecimal hsmall hcapital
  · exact hbound '9' (by decide) (by simp_all)
  · exact hbound 'f' (by decide) (by simp_all)
  · exact hbound 'F' (by decide) (by simp_all)

/-- The hexadecimal value of a character is its place among the digits. -/
theorem hexDigit?_eq_some_iff {c : Char} {n : Nat} : hexDigit? c = some n ↔ HexDigit c n := by
  constructor
  · intro h
    have hascii : ∀ k : Fin 128, ∀ n ∈ hexDigit? (Char.ofNat k), HexDigit (Char.ofNat k) n := by
      decide
    have hc := hascii ⟨c.toNat, toNat_lt_of_hexDigit? h⟩ n
    rw [Char.ofNat_toNat] at hc
    exact hc h
  · have hsmall : ∀ i : Fin smallDigits.length, hexDigit? (smallDigits.get i) = some i.val := by
      decide
    have hcapital : ∀ i : Fin capitalDigits.length,
        hexDigit? (capitalDigits.get i) = some i.val := by
      decide
    rintro (h | h)
    · obtain ⟨hn, rfl⟩ := List.getElem?_eq_some_iff.1 h
      exact hsmall ⟨n, hn⟩
    · obtain ⟨hn, rfl⟩ := List.getElem?_eq_some_iff.1 h
      exact hcapital ⟨n, hn⟩

/-- The number that four digits write. -/
theorem hexNumber?_eq_some_iff {a b c d : Char} {v : Nat} :
    hexNumber? [a, b, c, d] = some v ↔ ∃ i j k l, HexDigit a i ∧ HexDigit b j ∧ HexDigit c k ∧
      HexDigit d l ∧ v = ((i * 16 + j) * 16 + k) * 16 + l := by
  simp only [hexNumber?, List.foldlM_cons, List.foldlM_nil, Option.bind_eq_bind,
    Option.bind_eq_some_iff, Option.map_eq_some_iff, hexDigit?_eq_some_iff, Option.pure_def]
  constructor
  · rintro ⟨_, ⟨i, hi, rfl⟩, _, ⟨j, hj, rfl⟩, _, ⟨k, hk, rfl⟩, _, ⟨l, hl, rfl⟩, hv⟩
    refine ⟨i, j, k, l, hi, hj, hk, hl, ?_⟩
    cases hv
    omega
  · rintro ⟨i, j, k, l, hi, hj, hk, hl, rfl⟩
    refine ⟨_, ⟨i, hi, rfl⟩, _, ⟨j, hj, rfl⟩, _, ⟨k, hk, rfl⟩, _, ⟨l, hl, rfl⟩, ?_⟩
    congr 1
    omega

/-- A scalar value is the character with that code point. -/
theorem scalar?_eq_some_iff {n : Nat} {x : Char} : scalar? n = some x ↔ x.toNat = n := by
  rw [scalar?]
  constructor
  · intro h
    by_cases hvalid : n.isValidChar
    · rw [dif_pos hvalid] at h
      cases h
      rfl
    · rw [dif_neg hvalid] at h
      cases h
  · rintro rfl
    have hvalid : x.toNat.isValidChar := x.valid
    rw [dif_pos hvalid]
    rfl

/-- A zero at the front does not change a number. -/
theorem hexNumber?_zero_cons (digits : Text) : hexNumber? ('0' :: digits) = hexNumber? digits :=
  rfl

/-- **The codes that are taken** are those of four digits and those with a sign. -/
theorem codePoint?_eq_some_iff {a b c d x : Char} :
    codePoint? a b c d = some x ↔ NamesSigned a b c d x := by
  have hnames : ∀ a, (hexNumber? [a, b, c, d]).bind scalar? = some x ↔ Names a b c d x := by
    intro a
    simp only [Option.bind_eq_some_iff, hexNumber?_eq_some_iff, scalar?_eq_some_iff, Names]
    constructor
    · rintro ⟨_, ⟨i, j, k, l, hi, hj, hk, hl, hv⟩, rfl⟩
      exact ⟨i, j, k, l, hi, hj, hk, hl, hv⟩
    · rintro ⟨i, j, k, l, hi, hj, hk, hl, hv⟩
      exact ⟨_, ⟨i, j, k, l, hi, hj, hk, hl, hv⟩, rfl⟩
  rw [codePoint?, NamesSigned]
  by_cases hsign : a = '+'
  · subst hsign
    rw [if_pos rfl, ← hexNumber?_zero_cons, hnames]
    refine ⟨fun h => Or.inr ⟨rfl, h⟩, ?_⟩
    rintro (h | ⟨-, h⟩)
    · exact absurd h (not_names_sign b c d x)
    · exact h
  · rw [if_neg hsign, hnames]
    refine ⟨Or.inl, ?_⟩
    rintro (h | ⟨h, -⟩)
    · exact h
    · exact absurd h hsign

/-- A rule that says **which character** four characters name. -/
abbrev Naming := Char → Char → Char → Char → Char → Prop

/-- Four characters name one character at most. -/
def Naming.Unambiguous (names : Naming) : Prop :=
  ∀ ⦃a b c d x y : Char⦄, names a b c d x → names a b c d y → x = y

/-- Four characters name one character at most, also where the first may be a sign. -/
theorem unambiguous_namesSigned : Naming.Unambiguous NamesSigned := by
  intro a b c d x y hx hy
  rw [← codePoint?_eq_some_iff] at hx hy
  exact Option.some.inj (hx.symm.trans hy)

/-- So it is where none may be. -/
theorem unambiguous_names : Naming.Unambiguous Names :=
  fun _ _ _ _ _ _ hx hy => unambiguous_namesSigned (Or.inl hx) (Or.inl hy)

/-! ## Units -/

/-- **The first unit** of a setting, the text that it stands for, and the rest of the setting, where
`names` says which four characters name a character. -/
inductive Takes (names : Naming) : Text → Text → Text → Prop
  /-- A character other than a backslash stands for itself. -/
  | plain {c : Char} {rest : Text} (h : c ≠ '\\') : Takes names (c :: rest) [c] rest
  /-- So does a backslash at the end. -/
  | last : Takes names ['\\'] ['\\'] []
  | newline {rest : Text} : Takes names ('\\' :: 'n' :: rest) ['\n'] rest
  | carriageReturn {rest : Text} : Takes names ('\\' :: 'r' :: rest) ['\r'] rest
  | tab {rest : Text} : Takes names ('\\' :: 't' :: rest) ['\t'] rest
  /-- Four characters after `\u` may name a character. -/
  | code {a b c d x : Char} {rest : Text} (h : names a b c d x) :
      Takes names ('\\' :: 'u' :: a :: b :: c :: d :: rest) [x] rest
  /-- Where they do not, or are fewer, `\u` stands for itself. -/
  | bare {rest : Text} (h : ∀ a b c d more x, rest = a :: b :: c :: d :: more → ¬names a b c d x) :
      Takes names ('\\' :: 'u' :: rest) ['\\', 'u'] rest
  /-- Any other character after a backslash stands for itself. -/
  | other {c : Char} {rest : Text} (h : c ∉ ['n', 'r', 't', 'u']) :
      Takes names ('\\' :: c :: rest) [c] rest

/-- **The expansion** of a setting, unit by unit. -/
inductive Expands (names : Naming) : Text → Text → Prop
  | nil : Expands names [] []
  | cons {raw value rest out : Text} (h : Takes names raw value rest)
      (hrest : Expands names rest out) : Expands names raw (value ++ out)

/-- The expansion of a setting, with codes of four digits only, **comes to a sign**: to `\u` with a
plus sign and three digits after it. -/
inductive MeetsSign : Text → Prop
  | here {b c d x : Char} {rest : Text} (h : Names '0' b c d x) :
      MeetsSign ('\\' :: 'u' :: '+' :: b :: c :: d :: rest)
  | later {raw value rest : Text} (h : Takes Names raw value rest) (hrest : MeetsSign rest) :
      MeetsSign raw

variable {names : Naming}

/-- What is left after the first unit is shorter. -/
theorem Takes.length_lt {raw value rest : Text} (h : Takes names raw value rest) :
    rest.length < raw.length := by
  cases h <;> simp only [List.length_cons, List.length_nil] <;> omega

/-- A backslash before any character begins a unit. -/
theorem exists_takes_backslash (names : Naming) (c : Char) (rest : Text) :
    ∃ value rest', Takes names ('\\' :: c :: rest) value rest' := by
  by_cases hc : c ∈ ['n', 'r', 't', 'u']
  · have hcases : c = 'n' ∨ c = 'r' ∨ c = 't' ∨ c = 'u' := by simpa using hc
    rcases hcases with rfl | rfl | rfl | rfl
    · exact ⟨_, _, .newline⟩
    · exact ⟨_, _, .carriageReturn⟩
    · exact ⟨_, _, .tab⟩
    · by_cases hnames : ∃ a b c d more x, rest = a :: b :: c :: d :: more ∧ names a b c d x
      · obtain ⟨a, b, c, d, more, x, rfl, hx⟩ := hnames
        exact ⟨_, _, .code hx⟩
      · refine ⟨_, _, .bare fun a b c d more x hrest hx => hnames ?_⟩
        exact ⟨a, b, c, d, more, x, hrest, hx⟩
  · exact ⟨_, _, .other hc⟩

/-- A setting that is not used up has a first unit. -/
theorem exists_takes (names : Naming) {raw : Text} (hraw : raw ≠ []) :
    ∃ value rest, Takes names raw value rest := by
  obtain ⟨c, rest, rfl⟩ := List.exists_cons_of_ne_nil hraw
  by_cases hc : c = '\\'
  · subst hc
    cases rest with
    | nil => exact ⟨_, _, .last⟩
    | cons c rest => exact exists_takes_backslash names c rest
  · exact ⟨_, _, .plain hc⟩

/-- There is only one first unit, if four characters name one character at most. -/
theorem Takes.unique (hnames : names.Unambiguous) {raw value value' rest rest' : Text}
    (h : Takes names raw value rest) (h' : Takes names raw value' rest') :
    value = value' ∧ rest = rest' := by
  cases h with
  | plain hc =>
    cases h' with
    | plain _ => exact ⟨rfl, rfl⟩
    | last | newline | carriageReturn | tab | code _ | bare _ | other _ => exact absurd rfl hc
  | last =>
    cases h' with
    | plain hc => exact absurd rfl hc
    | last => exact ⟨rfl, rfl⟩
  | newline =>
    cases h' with
    | plain hc => exact absurd rfl hc
    | newline => exact ⟨rfl, rfl⟩
    | other hc => exact absurd (by decide) hc
  | carriageReturn =>
    cases h' with
    | plain hc => exact absurd rfl hc
    | carriageReturn => exact ⟨rfl, rfl⟩
    | other hc => exact absurd (by decide) hc
  | tab =>
    cases h' with
    | plain hc => exact absurd rfl hc
    | tab => exact ⟨rfl, rfl⟩
    | other hc => exact absurd (by decide) hc
  | code hx =>
    cases h' with
    | plain hc => exact absurd rfl hc
    | code hy => exact ⟨congrArg (fun x => [x]) (hnames hx hy), rfl⟩
    | bare hno => exact absurd hx (hno _ _ _ _ _ _ rfl)
    | other hc => exact absurd (by decide) hc
  | bare hno =>
    cases h' with
    | plain hc => exact absurd rfl hc
    | code hy => exact absurd hy (hno _ _ _ _ _ _ rfl)
    | bare _ => exact ⟨rfl, rfl⟩
    | other hc => exact absurd (by decide) hc
  | other hc =>
    cases h' with
    | plain hplain => exact absurd rfl hplain
    | newline | carriageReturn | tab | code _ | bare _ => exact absurd (by decide) hc
    | other _ => exact ⟨rfl, rfl⟩

/-! ## Expansions -/

/-- Every setting has an expansion. -/
theorem exists_expands (names : Naming) (raw : Text) : ∃ out, Expands names raw out := by
  induction h : raw.length using Nat.strongRecOn generalizing raw with
  | ind n ih =>
    by_cases hraw : raw = []
    · subst hraw
      exact ⟨[], .nil⟩
    · obtain ⟨value, rest, htakes⟩ := exists_takes names hraw
      obtain ⟨out, hout⟩ := ih _ (h ▸ htakes.length_lt) rest rfl
      exact ⟨value ++ out, .cons htakes hout⟩

/-- There is only one expansion, if four characters name one character at most. -/
theorem Expands.unique (hnames : names.Unambiguous) {raw out out' : Text}
    (h : Expands names raw out) (h' : Expands names raw out') : out = out' := by
  induction h generalizing out' with
  | nil =>
    cases h' with
    | nil => rfl
    | cons htakes _ => cases htakes
  | cons htakes hrest ih =>
    cases h' with
    | nil => cases htakes
    | cons htakes' hrest' =>
      obtain ⟨rfl, rfl⟩ := htakes.unique hnames htakes'
      rw [ih hrest']

/-- **The function takes a unit at a time**, and codes with a sign are among the units. -/
theorem expand_of_takes {raw value rest : Text} (h : Takes NamesSigned raw value rest) :
    expand raw = value ++ expand rest := by
  cases h with
  | plain hc => rw [expand] <;> simp_all
  | last => rfl
  | newline =>
    rw [expand]
    rfl
  | carriageReturn =>
    rw [expand]
    rfl
  | tab =>
    rw [expand]
    rfl
  | code hx =>
    rw [expand, codePoint?_eq_some_iff.2 hx]
    rfl
  | bare hno =>
    by_cases hfour : ∃ a b c d more, rest = a :: b :: c :: d :: more
    · obtain ⟨a, b, c, d, more, rfl⟩ := hfour
      have hnone : codePoint? a b c d = none := by
        rw [Option.eq_none_iff_forall_not_mem]
        exact fun x hx => hno a b c d more x rfl (codePoint?_eq_some_iff.1 hx)
      rw [expand, hnone]
      rfl
    · rw [expand] <;> simp_all
  | other hc => rw [expand] <;> simp_all

/-- The function expands by the units with signs. -/
theorem Expands.eq_expand {raw out : Text} (h : Expands NamesSigned raw out) :
    out = expand raw := by
  induction h with
  | nil => rfl
  | cons htakes hrest ih => rw [expand_of_takes htakes, ih]

/-! ## Signs -/

/-- Before a sign, `\u` stands for itself. -/
theorem takes_sign (rest : Text) :
    Takes Names ('\\' :: 'u' :: '+' :: rest) ['\\', 'u'] ('+' :: rest) := by
  refine .bare fun a b c d more x hrest => ?_
  obtain ⟨rfl, -⟩ := List.cons.inj hrest
  exact not_names_sign b c d x

/-- The sign and the digits of a code stand for themselves where they are not taken as one. -/
theorem expand_digits {b c d x : Char} (h : Names '0' b c d x) (rest : Text) :
    expand ('+' :: b :: c :: d :: rest) = '+' :: b :: c :: d :: expand rest := by
  obtain ⟨_, _, _, _, -, hb, hc, hd, -⟩ := h
  rw [expand_of_takes (.plain (by decide)), expand_of_takes (.plain hb.ne_backslash),
    expand_of_takes (.plain hc.ne_backslash), expand_of_takes (.plain hd.ne_backslash)]
  rfl

/-- A unit of four digits is one that the function takes, or it is `\u` before a code with a
sign. -/
theorem Takes.signed_or_sign {raw value rest : Text} (h : Takes Names raw value rest) :
    Takes NamesSigned raw value rest ∨
      ∃ b c d more x, Names '0' b c d x ∧ raw = '\\' :: 'u' :: '+' :: b :: c :: d :: more ∧
        value = ['\\', 'u'] ∧ rest = '+' :: b :: c :: d :: more := by
  cases h with
  | plain hc => exact Or.inl (.plain hc)
  | last => exact Or.inl .last
  | newline => exact Or.inl .newline
  | carriageReturn => exact Or.inl .carriageReturn
  | tab => exact Or.inl .tab
  | code hx => exact Or.inl (.code (Or.inl hx))
  | bare hno =>
    by_cases hsigned : ∃ b c d more x, Names '0' b c d x ∧ rest = '+' :: b :: c :: d :: more
    · obtain ⟨b, c, d, more, x, hx, rfl⟩ := hsigned
      exact Or.inr ⟨b, c, d, more, x, hx, rfl, rfl, rfl⟩
    · refine Or.inl (.bare fun a b c d more x hrest hx => ?_)
      rcases hx with hx | ⟨rfl, hx⟩
      · exact hno a b c d more x hrest hx
      · exact hsigned ⟨b, c, d, more, x, hx, hrest⟩
  | other hc => exact Or.inl (.other hc)

/-- Past a unit that the function takes, the expansion comes to the same signs. -/
theorem meetsSign_iff_of_takes {raw value rest : Text} (h : Takes Names raw value rest)
    (hsigned : Takes NamesSigned raw value rest) : MeetsSign raw ↔ MeetsSign rest := by
  constructor
  · intro hmeets
    cases hmeets with
    | here hx =>
      obtain ⟨rfl, -⟩ := h.unique unambiguous_names (takes_sign _)
      obtain ⟨hvalue, -⟩ := hsigned.unique unambiguous_namesSigned (.code (Or.inr ⟨rfl, hx⟩))
      simp at hvalue
    | later htakes hrest =>
      obtain ⟨-, rfl⟩ := h.unique unambiguous_names htakes
      exact hrest
  · exact .later h

/-- The expansion by four digits is what the function gives, unless it comes to a sign; then the
function gives a shorter text.

**Proof sketch.** Induction along the expansion. At the first sign the function gives one character,
where by the syntax all six characters of the code stand for themselves; what comes after them does
not become longer. -/
theorem Expands.eq_or_length_lt {raw out : Text} (h : Expands Names raw out) :
    (¬MeetsSign raw ∧ out = expand raw) ∨
      (MeetsSign raw ∧ (expand raw).length < out.length) := by
  induction h with
  | nil =>
    refine Or.inl ⟨fun hmeets => ?_, rfl⟩
    cases hmeets with
    | later htakes _ => cases htakes
  | @cons raw value rest out htakes hrest ih =>
    rcases htakes.signed_or_sign with hsigned | ⟨b, c, d, more, x, hx, rfl, rfl, rfl⟩
    · rw [meetsSign_iff_of_takes htakes hsigned, expand_of_takes hsigned]
      rcases ih with ⟨hno, rfl⟩ | ⟨hmeets, hlt⟩
      · exact Or.inl ⟨hno, rfl⟩
      · refine Or.inr ⟨hmeets, ?_⟩
        rw [List.length_append, List.length_append]
        omega
    · have hle : (expand ('+' :: b :: c :: d :: more)).length ≤ out.length := by
        rcases ih with ⟨-, rfl⟩ | ⟨-, hlt⟩
        · exact Nat.le_refl _
        · exact Nat.le_of_lt hlt
      refine Or.inr ⟨.here hx, ?_⟩
      rw [expand_digits hx] at hle
      rw [expand_of_takes (.code (Or.inr ⟨rfl, hx⟩))]
      simp only [List.length_cons, List.length_append, List.length_nil] at hle ⊢
      omega

/-- **The escape syntax.** The function expands a setting from left to right by the units of the
syntax, where a plus sign may stand for the first of the four digits. By four digits alone every
setting has one expansion, and that is what the function gives just where it comes to no sign. -/
theorem expands_iff_not_meetsSign (raw : Text) :
    (∀ out, Expands NamesSigned raw out ↔ out = expand raw) ∧
      (∃! out, Expands Names raw out) ∧
      (Expands Names raw (expand raw) ↔ ¬MeetsSign raw) := by
  obtain ⟨signed, hsigned⟩ := exists_expands NamesSigned raw
  obtain ⟨out, hout⟩ := exists_expands Names raw
  refine ⟨fun out => ⟨Expands.eq_expand, ?_⟩, ⟨out, hout, fun out' hout' => ?_⟩, ?_, ?_⟩
  · rintro rfl
    exact hsigned.eq_expand ▸ hsigned
  · exact hout'.unique unambiguous_names hout
  · intro hexpand hmeets
    rcases hexpand.eq_or_length_lt with ⟨hno, -⟩ | ⟨-, hlt⟩
    · exact hno hmeets
    · exact Nat.lt_irrefl _ hlt
  · intro hno
    rcases hout.eq_or_length_lt with ⟨-, heq⟩ | ⟨hmeets, -⟩
    · exact heq ▸ hout
    · exact absurd hmeets hno

/-- A code with a sign: by the syntax its six characters stand for themselves, but the function
gives the letter with the code point after the sign. -/
theorem not_expands_expand_of_sign :
    let raw : Text := ['\\', 'u', '+', '0', '4', '1']
    Expands Names raw raw ∧ expand raw = ['A'] ∧ ¬Expands Names raw (expand raw) := by
  have hraw : Expands Names ['\\', 'u', '+', '0', '4', '1'] ['\\', 'u', '+', '0', '4', '1'] :=
    .cons (takes_sign _) <| .cons (.plain (by decide)) <| .cons (.plain (by decide)) <|
      .cons (.plain (by decide)) <| .cons (.plain (by decide)) .nil
  refine ⟨hraw, by decide, fun hexpand => ?_⟩
  exact absurd (hexpand.unique unambiguous_names hraw) (by decide)

end Delimited.Escape
