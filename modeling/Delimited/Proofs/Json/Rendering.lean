import Delimited.Json.Reading
import Delimited.Proofs.Escape.Syntax
import Mathlib.Data.List.TakeWhile

set_option autoImplicit false
set_option relaxedAutoImplicit false

/-!
# What is rendered is read back

The text of a JSON value is cut into the tokens of the value, and these are put together to the value
again. This holds of every value whose numbers are written as numbers, at any depth.

## Main definitions

* `Delimited.Json.Legible` — a value whose numbers are written as numbers.
* `Delimited.Json.tokens` — the tokens of a value.
* `Delimited.Json.Lexes`, `Delimited.Json.Assembles` — a text is cut into tokens, and tokens are put
  together to a value, whatever comes after them.

## Main results

* `Delimited.Json.lexes_render` — the text of a value is cut into its tokens.
* `Delimited.Json.assembles_tokens` — its tokens are put together to the value.
* `Delimited.Json.parse?_render` — the text of a value is read as the value.
-/

namespace Delimited.Json

/-! ## Values and their tokens -/

/-- A number in another notation than that of digits alone, as it is written. -/
def IsNumber (written : Text) : Prop :=
  written.all isWordChar ∧ ofWord? written = some (.number (String.ofList written))

mutual

/-- A value is **legible** if its numbers are written as numbers. -/
def Legible : Json → Prop
  | .number written => IsNumber written.toList
  | .array items => LegibleItems items
  | .object members => LegibleMembers members
  | _ => True

/-- The items of an array are legible. -/
def LegibleItems : List Json → Prop
  | [] => True
  | item :: items => Legible item ∧ LegibleItems items

/-- The values of the members of an object are legible. -/
def LegibleMembers : List (String × Json) → Prop
  | [] => True
  | (_, value) :: members => Legible value ∧ LegibleMembers members

end

mutual

/-- The **tokens** of a value. -/
def tokens : Json → List Token
  | .array items => .arrayOpen :: ([.comma].intercalate (itemTokens items) ++ [.arrayClose])
  | .object members => .objectOpen :: ([.comma].intercalate (memberTokens members) ++ [.objectClose])
  | value => [.scalar value]

/-- The tokens of the items of an array. -/
def itemTokens : List Json → List (List Token)
  | [] => []
  | item :: items => tokens item :: itemTokens items

/-- The tokens of the members of an object. -/
def memberTokens : List (String × Json) → List (List Token)
  | [] => []
  | (key, value) :: members =>
    (.scalar (.string key) :: .colon :: tokens value) :: memberTokens members

end

/-! ## Cutting into tokens -/

/-- No word goes on with this text. -/
def EndsWord (rest : Text) : Prop :=
  ∀ c ∈ rest.head?, isWordChar c = false

/-- A text is **cut into** these tokens, before any text with which no word goes on. -/
def Lexes (text : Text) (found : List Token) : Prop :=
  ∀ done rest, EndsWord rest →
    scan done .between (text ++ rest) = scan (found.reverse ++ done) .between rest

variable {done : List Token} {mode mode' : Mode} {c : Char} {cs rest text : Text}

/-- Scanning goes on after one step. -/
theorem scan_of_step {done' : List Token} (h : step done mode c = some (done', mode')) :
    scan done mode (c :: cs) = scan done' mode' cs := by
  have hcons : scan done mode (c :: cs) =
      (step done mode c).bind fun next => scan next.1 next.2 cs := by
    cases mode <;> simp only [scan] <;> cases step done _ c <;> rfl
  rw [hcons, h]
  rfl

/-- A punctuation mark is a token of its own. -/
theorem scan_mark {t : Token} (h : punctuation? c = some t) :
    scan done .between (c :: rest) = scan (t :: done) .between rest := by
  refine scan_of_step ?_
  unfold punctuation? at h
  split at h <;> cases h <;> rfl

/-! ### Words -/

/-- A character of a word adds to it. -/
theorem step_word {chars : Text} (h : isWordChar c = true) :
    step done (.word chars) c = some (done, .word (c :: chars)) :=
  if_pos h

/-- A character that cannot stand in a word ends it. -/
theorem step_word_end {chars : Text} {value : Json} (hc : isWordChar c = false)
    (h : ofWord? chars.reverse = some value) :
    step done (.word chars) c = step (.scalar value :: done) .between c := by
  simp [step, hc, h]

/-- So do several of them. -/
theorem scan_wordChars {chars : Text} (h : cs.all isWordChar) :
    scan done (.word chars) (cs ++ rest) = scan done (.word (cs.reverse ++ chars)) rest := by
  induction cs generalizing chars with
  | nil => rfl
  | cons c cs ih =>
    obtain ⟨hc, hcs⟩ : isWordChar c = true ∧ cs.all isWordChar = true := by simpa using h
    rw [List.cons_append, scan_of_step (step_word hc), ih hcs]
    simp

/-- **A word** is the token of its value. -/
theorem lexes_word {value : Json} (hword : text.all isWordChar) (h : ofWord? text = some value) :
    Lexes text [.scalar value] := by
  intro done rest hrest
  cases text with
  | nil => cases h
  | cons c cs =>
    obtain ⟨hc, hcs⟩ : isWordChar c = true ∧ cs.all isWordChar = true := by simpa using hword
    have hfirst : step done .between c = some (done, .word [c]) := by
      have hblank : ¬(c = ' ' ∨ c = '\t' ∨ c = '\n' ∨ c = '\r') := by
        rintro (rfl | rfl | rfl | rfl) <;> exact absurd hc (by decide)
      have hquote : c ≠ '"' := by
        rintro rfl
        exact absurd hc (by decide)
      rw [step, between, if_neg hblank, if_neg hquote, if_pos hc]
    have hchars : ofWord? (cs.reverse ++ [c]).reverse = some value := by simpa using h
    rw [List.cons_append, scan_of_step hfirst, scan_wordChars hcs]
    -- the word is complete only when the next character is seen, or the end
    cases rest with
    | nil =>
      show (ofWord? (cs.reverse ++ [c]).reverse).map _ = _
      rw [hchars]
      rfl
    | cons x xs =>
      have hstep : step done (.word (cs.reverse ++ [c])) x =
          step (.scalar value :: done) .between x :=
        step_word_end (hrest x rfl) hchars
      show scan done _ (x :: xs) = scan (.scalar value :: done) .between (x :: xs)
      cases hnext : step (.scalar value :: done) .between x with
      | none => simp only [scan, hstep, hnext]
      | some next => rw [scan_of_step (hstep.trans hnext), scan_of_step hnext]

/-- The digits of a number begin with a zero only if there is no other digit. -/
theorem length_toDigits_or_head? (n : Nat) :
    (Nat.toDigits 10 n).length = 1 ∨ (Nat.toDigits 10 n).head? ≠ some '0' := by
  induction n using Nat.strongRecOn with
  | ind n ih =>
    rw [Nat.toDigits_eq_if (by decide)]
    split_ifs with hn
    · exact Or.inl rfl
    · right
      have hne : Nat.toDigits 10 (n / 10) ≠ [] := Nat.toDigits_ne_nil
      obtain ⟨d, ds, hfirst⟩ := List.exists_cons_of_ne_nil hne
      have hhead : (Nat.toDigits 10 (n / 10)).head? ≠ some '0' := by
        rcases ih (n / 10) (by omega) with hlength | hhead
        · have hlt : n / 10 < 10 := by
            by_contra hge
            rw [Nat.toDigits_eq_if (by decide), if_neg hge, List.length_append,
              List.length_singleton] at hlength
            exact Nat.toDigits_ne_nil (List.length_eq_zero_iff.1 (Nat.succ.inj hlength))
          have hne : n / 10 ≠ 0 := by omega
          have hdigit : ∀ d : Fin 10, d.val ≠ 0 → [Nat.digitChar d].head? ≠ some '0' := by decide
          rw [Nat.toDigits_of_lt_base hlt]
          exact hdigit ⟨n / 10, hlt⟩ hne
        · exact hhead
      rw [hfirst] at hhead ⊢
      exact hhead

/-- **A natural number** is written as a word that stands for it. -/
theorem ofWord?_toDigits (n : Nat) : ofWord? (Nat.toDigits 10 n) = some (.natural n) := by
  have hdigits : ∀ c ∈ Nat.toDigits 10 n, c.isDigit = true :=
    fun c hc => Nat.isDigit_of_mem_toDigits (by decide) (by decide) hc
  have hall : (Nat.toDigits 10 n).all Char.isDigit = true := List.all_eq_true.2 hdigits
  have hmagnitude : isMagnitude (Nat.toDigits 10 n) = true := by
    have hdrop : (Nat.toDigits 10 n).dropWhile Char.isDigit = [] :=
      List.dropWhile_eq_nil_iff.2 hdigits
    have htake : (Nat.toDigits 10 n).takeWhile Char.isDigit = Nat.toDigits 10 n :=
      List.takeWhile_eq_self_iff.2 hdigits
    have hzero := length_toDigits_or_head? n
    simp only [isMagnitude, htake, hdrop, Bool.and_eq_true, Bool.or_eq_true, decide_eq_true_eq]
    exact ⟨⟨Nat.toDigits_ne_nil, hzero⟩, rfl⟩
  have hdecimal : decimal (Nat.toDigits 10 n) = n :=
    Nat.ofDigitChars_toDigits (by decide) (by decide)
  unfold ofWord?
  split
  · next heq => exact absurd (hdigits 'n' (by simp [heq])) (by decide)
  · next heq => exact absurd (hdigits 't' (by simp [heq])) (by decide)
  · next heq => exact absurd (hdigits 'f' (by simp [heq])) (by decide)
  · next heq => exact absurd (hdigits '-' (by simp [heq])) (by decide)
  · rw [if_pos hmagnitude, if_pos hall, hdecimal]

/-! ### Strings -/

/-- A character that is named after a backslash. -/
theorem scan_escaped {x : Char} {codes : List Nat} (hc : c ≠ 'u') (h : escaped? c = some x) :
    scan done (.quoted codes) ('\\' :: c :: rest) = scan done (.quoted (x.toNat :: codes)) rest := by
  have hbackslash : step done (.quoted codes) '\\' = some (done, .escape codes) := rfl
  have hnamed : step done (.escape codes) c = some (done, .quoted (x.toNat :: codes)) := by
    rw [step, if_neg hc, h]
    rfl
  rw [scan_of_step hbackslash, scan_of_step hnamed]

/-- A control character, of which the code is given. -/
theorem scan_code {codes : List Nat} (h : c.toNat < 0x20) :
    scan done (.quoted codes)
        (['\\', 'u', '0', '0', Nat.digitChar (c.toNat / 16), Nat.digitChar (c.toNat % 16)] ++ rest) =
      scan done (.quoted (c.toNat :: codes)) rest := by
  have hdigits : ∀ k : Fin 32,
      (Escape.hexDigit? (Nat.digitChar (k / 16))).isNone = false ∧
        (Escape.hexDigit? (Nat.digitChar (k % 16))).isNone = false ∧
        Escape.hexNumber? ['0', '0', Nat.digitChar (k / 16), Nat.digitChar (k % 16)] =
          some k.val := by
    decide
  obtain ⟨hhigh, hlow, hnumber⟩ := hdigits ⟨c.toNat, h⟩
  have hthird : step done (.code codes ['0', '0']) (Nat.digitChar (c.toNat / 16)) =
      some (done, .code codes [Nat.digitChar (c.toNat / 16), '0', '0']) := by
    simp [step, hhigh]
  have hfourth : step done (.code codes [Nat.digitChar (c.toNat / 16), '0', '0'])
      (Nat.digitChar (c.toNat % 16)) = some (done, .quoted (c.toNat :: codes)) := by
    simp [step, hlow, hnumber]
  show scan done (.code codes ['0', '0'])
    (Nat.digitChar (c.toNat / 16) :: Nat.digitChar (c.toNat % 16) :: rest) = _
  rw [scan_of_step hthird, scan_of_step hfourth]

/-- **A character of a string** is read as it is rendered. -/
theorem scan_renderChar (codes : List Nat) (c : Char) :
    scan done (.quoted codes) (renderChar c ++ rest) =
      scan done (.quoted (c.toNat :: codes)) rest := by
  unfold renderChar
  split
  · exact scan_escaped (by decide) rfl
  · exact scan_escaped (by decide) rfl
  · exact scan_escaped (by decide) rfl
  · exact scan_escaped (by decide) rfl
  · exact scan_escaped (by decide) rfl
  · next hquote hbackslash _ _ _ =>
    split_ifs with hcontrol
    · exact scan_code hcontrol
    · refine scan_of_step ?_
      rw [step, if_neg hquote, if_neg hbackslash, if_neg hcontrol]

/-- The code points of a text are those of its characters. -/
theorem ofCodes?_map_toNat (text : Text) : ofCodes? (text.map Char.toNat) = some text := by
  have hscalar : ∀ c : Char, Escape.scalar? c.toNat = some c :=
    fun c => Escape.scalar?_eq_some_iff.2 rfl
  induction text with
  | nil => rfl
  | cons c cs ih =>
    cases cs with
    | nil => simp [ofCodes?, hscalar]
    | cons x xs =>
      -- no character is a surrogate, so two of them are never taken for a pair
      have hvalid : c.toNat < 0xD800 ∨ 0xDFFF < c.toNat ∧ c.toNat < 0x110000 := c.valid
      have hpair : ¬(0xD800 ≤ c.toNat ∧ c.toNat < 0xDC00 ∧ 0xDC00 ≤ x.toNat ∧ x.toNat < 0xE000) := by
        omega
      rw [List.map_cons, List.map_cons, ofCodes?, if_neg hpair, hscalar, ← List.map_cons, ih]
      rfl

/-- **A string** is one token. -/
theorem lexes_renderString (s : String) : Lexes (renderString s).toList [.scalar (.string s)] := by
  intro done rest _
  have hbody : ∀ (text : Text) (codes : List Nat) (rest : Text),
      scan done (.quoted codes) (text.flatMap renderChar ++ rest) =
        scan done (.quoted ((text.map Char.toNat).reverse ++ codes)) rest := by
    intro text codes rest
    induction text generalizing codes with
    | nil => rfl
    | cons c cs ih =>
      rw [List.flatMap_cons, List.append_assoc, scan_renderChar, ih]
      simp
  have hclose : step done (.quoted ((s.toList.map Char.toNat).reverse ++ [])) '"' =
      some (.scalar (.string s) :: done, .between) := by
    simp [step, ofString, ofCodes?_map_toNat]
  have htext : (renderString s).toList = '"' :: (s.toList.flatMap renderChar ++ ['"']) := by
    simp [renderString]
  have hopen : step done .between '"' = some (done, .quoted []) := rfl
  rw [htext, List.cons_append, scan_of_step hopen, List.append_assoc, hbody]
  exact scan_of_step hclose

/-! ### Values -/

/-- Nothing goes on with a word after a punctuation mark. -/
theorem endsWord_mark {t : Token} (h : punctuation? c = some t) : EndsWord (c :: cs) := by
  rintro x ⟨⟩
  unfold punctuation? at h
  split at h <;> cases h <;> rfl

/-- Texts **between commas** are cut into their tokens, with commas between them. -/
theorem Lexes.intercalate {texts : List Text} {found : List (List Token)}
    (h : List.Forall₂ Lexes texts found) :
    Lexes ([','].intercalate texts) ([.comma].intercalate found) := by
  intro done rest hrest
  induction h generalizing done with
  | nil => rfl
  | @cons text ks texts found hfirst hothers ih =>
    cases hothers with
    | nil =>
      simp only [List.intercalate_singleton]
      exact hfirst done rest hrest
    | cons hsecond hothers =>
      have hcomma : ∀ more, EndsWord (([','] : Text) ++ more) := fun _ => endsWord_mark rfl
      have hmark : ∀ done more, scan done .between (([','] : Text) ++ more) =
          scan (.comma :: done) .between more := fun _ _ => scan_mark rfl
      rw [List.intercalate_cons_cons, List.intercalate_cons_cons, List.append_assoc,
        List.append_assoc, hfirst _ _ (hcomma _), hmark, ih]
      simp

/-- Between brackets, the text of the parts is cut into their tokens. -/
theorem Lexes.enclosed {left right : Char} {first last : Token} {inner : Text} {found : List Token}
    (hleft : punctuation? left = some first) (hright : punctuation? right = some last)
    (h : Lexes inner found) : Lexes (left :: (inner ++ [right])) (first :: (found ++ [last])) := by
  intro done rest _
  have hends : EndsWord ([right] ++ rest) := endsWord_mark hright
  rw [List.cons_append, scan_mark hleft, List.append_assoc, h _ _ hends]
  refine (scan_mark hright).trans ?_
  simp

/-- A key, a colon and a value. -/
theorem Lexes.member {key : String} {inner : Text} {found : List Token} (h : Lexes inner found) :
    Lexes ((renderString key).toList ++ ':' :: inner)
      (.scalar (.string key) :: .colon :: found) := by
  intro done rest hrest
  have hends : EndsWord (':' :: (inner ++ rest)) := endsWord_mark rfl
  rw [List.append_assoc, List.cons_append, lexes_renderString key _ _ hends, scan_mark rfl,
    h _ _ hrest]
  simp

mutual

/-- **The text of a value** is cut into its tokens.

**Proof sketch.** Induction on the value, with its items or members. Values without parts are words or
strings; those with parts are rendered between brackets and with commas. -/
theorem lexes_render (value : Json) (h : value.Legible) : Lexes value.render.toList value.tokens := by
  cases value with
  | null => exact lexes_word (by decide) rfl
  | bool b => cases b <;> exact lexes_word (by decide) rfl
  | natural n =>
    have hword : (Nat.toDigits 10 n).all isWordChar := by
      refine List.all_eq_true.2 fun c hc => ?_
      have hdigit := Nat.isDigit_of_mem_toDigits (by decide) (by decide) hc
      simp [isWordChar, Char.isAlphanum, hdigit]
    have htext : (render (.natural n)).toList = Nat.toDigits 10 n := Nat.toList_repr
    rw [htext]
    exact lexes_word hword (ofWord?_toDigits n)
  | number written => exact lexes_word h.1 (h.2.trans (by simp))
  | string s => exact lexes_renderString s
  | unpaired => exact fun _ _ _ => rfl
  | array items =>
    have hitems := Lexes.intercalate (lexes_renderItems items h)
    have htext : (render (.array items)).toList =
        '[' :: ([','].intercalate ((renderItems items).map String.toList) ++ [']']) := by
      simp [render, String.toList_intercalate]
    rw [htext]
    exact hitems.enclosed rfl rfl
  | object members =>
    have hmembers := Lexes.intercalate (lexes_renderMembers members h)
    have htext : (render (.object members)).toList =
        '\x7b' :: ([','].intercalate ((renderMembers members).map String.toList) ++ ['\x7d']) := by
      simp [render, String.toList_intercalate]
    rw [htext]
    exact hmembers.enclosed rfl rfl

/-- The texts of items are cut into their tokens. -/
theorem lexes_renderItems (items : List Json) (h : LegibleItems items) :
    List.Forall₂ Lexes ((renderItems items).map String.toList) (itemTokens items) := by
  cases items with
  | nil => exact .nil
  | cons item items => exact .cons (lexes_render item h.1) (lexes_renderItems items h.2)

/-- The texts of members are cut into their tokens. -/
theorem lexes_renderMembers (members : List (String × Json)) (h : LegibleMembers members) :
    List.Forall₂ Lexes ((renderMembers members).map String.toList) (memberTokens members) := by
  cases members with
  | nil => exact .nil
  | cons m members =>
    obtain ⟨key, value⟩ := m
    refine .cons ?_ (lexes_renderMembers members h.2)
    have htext : (renderString key ++ ":" ++ render value).toList =
        (renderString key).toList ++ ':' :: (render value).toList := by
      simp
    rw [htext]
    exact (lexes_render value h.1).member

end

/-- The text of a value has the tokens of the value, and no others. -/
theorem tokens?_render {value : Json} (h : value.Legible) :
    tokens? value.render.toList = some value.tokens := by
  have hends : EndsWord [] := by simp [EndsWord]
  have hlexes := lexes_render value h [] [] hends
  rw [List.append_nil] at hlexes
  rw [tokens?, hlexes]
  simp [scan]

/-! ## Putting together -/

/-- Tokens are **put together** to a value, wherever a value is expected and before any tokens. -/
def Assembles (found : List Token) (value : Json) : Prop :=
  ∀ stack rest, assemble stack .value (found ++ rest) = assemble stack (.separator value) rest

variable {stack stack' : List Frame} {expected expected' : Expected} {t : Token}
  {more : List Token} {value : Json}

/-- Assembling goes on after one token. -/
theorem assemble_of_consume (h : consume stack expected t = some (stack', expected')) :
    assemble stack expected (t :: more) = assemble stack' expected' more := by
  rw [assemble, h]

/-- Members whose keys are texts make an object. -/
theorem ofMembers_texts (members : List (String × Json)) :
    ofMembers (members.map fun m => (some m.1, m.2)) = .object members := by
  have hkeys : (members.map fun m => (some m.1, m.2)).mapM
      (fun (key, value) => key.map (·, value)) = some members := by
    induction members with
    | nil => rfl
    | cons m members ih =>
      rw [List.map_cons, List.mapM_cons, ih]
      rfl
  rw [ofMembers, hkeys]

/-- **The items of an array** that is not yet closed, from the first one or after a comma. -/
theorem assemble_items {found : List Token} {others : List (List Token)} {item : Json}
    {items done : List Json} (hitem : Assembles found item)
    (hitems : List.Forall₂ Assembles others items) :
    assemble (.array done :: stack) .value
        ([.comma].intercalate (found :: others) ++ .arrayClose :: more) =
      assemble stack (.separator (.array (done.reverse ++ item :: items))) more := by
  induction hitems generalizing found item done with
  | nil =>
    rw [List.intercalate_singleton, hitem]
    refine (assemble_of_consume rfl).trans ?_
    simp
  | cons hnext _ ih =>
    rw [List.intercalate_cons_cons, List.append_assoc, List.append_assoc, List.singleton_append,
      hitem]
    refine (assemble_of_consume rfl).trans ?_
    rw [ih hnext]
    simp

/-- A key, a colon and the tokens of the value. -/
def AssemblesMember (found : List Token) (m : String × Json) : Prop :=
  ∃ inner, found = .scalar (.string m.1) :: .colon :: inner ∧ Assembles inner m.2

/-- **The members of an object** that is not yet closed, from the first one or after a comma. -/
theorem assemble_members (done : List (String × Json)) {found : List Token}
    {others : List (List Token)} {m : String × Json} {members : List (String × Json)}
    (hmember : AssemblesMember found m) (hmembers : List.Forall₂ AssemblesMember others members) :
    assemble stack (.key (done.map fun m => (some m.1, m.2)))
        ([.comma].intercalate (found :: others) ++ .objectClose :: more) =
      assemble stack (.separator (.object (done.reverse ++ m :: members))) more := by
  induction hmembers generalizing found m done with
  | nil =>
    obtain ⟨inner, rfl, hinner⟩ := hmember
    rw [List.intercalate_singleton, List.cons_append, List.cons_append]
    refine (assemble_of_consume rfl).trans ((assemble_of_consume rfl).trans ?_)
    rw [hinner]
    refine (assemble_of_consume rfl).trans ?_
    have hmembers := ofMembers_texts (done.reverse ++ [m])
    rw [List.map_append, List.map_reverse] at hmembers
    rw [← hmembers]
    simp
  | cons hnext _ ih =>
    obtain ⟨inner, rfl, hinner⟩ := hmember
    rw [List.intercalate_cons_cons, List.append_assoc, List.append_assoc, List.singleton_append,
      List.cons_append, List.cons_append]
    refine (assemble_of_consume rfl).trans ((assemble_of_consume rfl).trans ?_)
    rw [hinner]
    refine (assemble_of_consume rfl).trans ?_
    have hothers := ih (m :: done) hnext
    rw [List.map_cons] at hothers
    rw [hothers]
    simp

/-- The first key of an object is read as any other. -/
theorem assemble_firstKey {found : List Token} {others : List (List Token)} {m : String × Json}
    (hmember : AssemblesMember found m) :
    assemble stack .firstKey ([.comma].intercalate (found :: others) ++ more) =
      assemble stack (.key []) ([.comma].intercalate (found :: others) ++ more) := by
  obtain ⟨inner, rfl, -⟩ := hmember
  cases others <;> rfl

/-- The first item of an array is read as any other. -/
theorem assemble_firstItem (value : Json) (others : List (List Token)) :
    assemble stack .firstItem ([.comma].intercalate (value.tokens :: others) ++ more) =
      assemble stack .value ([.comma].intercalate (value.tokens :: others) ++ more) := by
  cases value <;> cases others <;> rfl

mutual

/-- **The tokens of a value** are put together to the value.

**Proof sketch.** Induction on the value, with its items or members. Those that are already read stand
on the stack, the latest first. -/
theorem assembles_tokens (value : Json) : Assembles value.tokens value := by
  intro stack rest
  cases value with
  | array items =>
    have hitems := assembles_itemTokens items
    rw [tokens, List.cons_append, List.append_assoc, List.singleton_append]
    refine (assemble_of_consume rfl).trans ?_
    cases items with
    | nil => exact assemble_of_consume rfl
    | cons item items =>
      cases hitems with
      | cons hitem hitems => exact (assemble_firstItem item _).trans (assemble_items hitem hitems)
  | object members =>
    have hmembers := assembles_memberTokens members
    rw [tokens, List.cons_append, List.append_assoc, List.singleton_append]
    refine (assemble_of_consume rfl).trans ?_
    cases members with
    | nil => exact assemble_of_consume rfl
    | cons m members =>
      cases hmembers with
      | cons hmember hmembers =>
        exact (assemble_firstKey hmember).trans (assemble_members [] hmember hmembers)
  | _ => exact assemble_of_consume rfl

/-- The tokens of items are put together to the items. -/
theorem assembles_itemTokens (items : List Json) :
    List.Forall₂ Assembles (itemTokens items) items := by
  cases items with
  | nil => exact .nil
  | cons item items => exact .cons (assembles_tokens item) (assembles_itemTokens items)

/-- The tokens of members are put together to the members. -/
theorem assembles_memberTokens (members : List (String × Json)) :
    List.Forall₂ AssemblesMember (memberTokens members) members := by
  cases members with
  | nil => exact .nil
  | cons m members =>
    obtain ⟨key, value⟩ := m
    exact .cons ⟨_, rfl, assembles_tokens value⟩ (assembles_memberTokens members)

end

/-- **What is rendered is read back.** The text of a value is read as the value.

**Proof sketch.** The text is cut into the tokens of the value (`lexes_render`), and these are put
together to it (`assembles_tokens`). -/
theorem parse?_render {value : Json} (h : value.Legible) :
    parse? value.render.toList = some value := by
  have hvalue := assembles_tokens value [] []
  rw [List.append_nil] at hvalue
  rw [parse?, tokens?_render h]
  exact hvalue

end Delimited.Json
