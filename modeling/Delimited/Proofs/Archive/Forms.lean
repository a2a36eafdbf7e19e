import Delimited.Compression
import Delimited.Proofs.Charset.Unicode
import Mathlib.Data.List.Forall2

set_option autoImplicit false
set_option relaxedAutoImplicit false

/-!
# Which paths stand for archives

A path stands for an archive if its file name has one of three extensions, in any case, after
something else. The entry is called like that, if it is text.

## Main definitions

* `Delimited.Compression.extensions`, `Delimited.Compression.Marks` — the extensions of a compression,
  in small letters and in any case.
* `Delimited.ArchiveForm.CalledAfter` — how an entry is called.

## Main results

* `Delimited.Compression.ofExtension?_eq_some_iff` — the extensions of archives, and no others.
* `Delimited.ArchiveForm.ofPath?_eq_some_iff` — the paths of archives, and no others.
-/

namespace Delimited

/-! ## Extensions -/

namespace Compression

/-- The **extensions** of a compression in small letters. -/
def extensions : Compression → List Text
  | .zstd => [['z', 's', 't'], ['z', 'i', 'p']]
  | .deflate => [['g', 'z']]

/-- The extension **marks** the compression: it is one of its extensions, each letter small or
capital. -/
def Marks (c : Compression) (extension : Bytes) : Prop :=
  ∃ text, utf8Bytes text = extension ∧
    ∃ small ∈ c.extensions, List.Forall₂ (fun x letter => x = letter ∨ x = letter.toUpper) text small

/-- A character becomes a small letter if it is that letter or its capital. -/
theorem toLower_eq_iff {x letter : Char} (hlow : 'a' ≤ letter) (hhigh : letter ≤ 'z') :
    x.toLower = letter ↔ x = letter ∨ x = letter.toUpper := by
  have hsmall : 'a'.val ≤ letter.val ∧ letter.val ≤ 'z'.val := ⟨hlow, hhigh⟩
  have hx := x.val.toNat_lt
  have hletter := letter.val.toNat_lt
  have hcodes : 'A'.val.toNat = 65 ∧ 'Z'.val.toNat = 90 ∧ 'a'.val.toNat = 97 ∧ 'z'.val.toNat = 122 ∧
      ('a'.val - 'A'.val).toNat = 32 ∧ ('A'.val - 'a'.val).toNat = 4294967264 :=
    ⟨rfl, rfl, rfl, rfl, rfl, rfl⟩
  unfold Char.toLower Char.toUpper
  rw [dif_pos hsmall]
  simp only [Char.ext_iff, UInt32.le_iff_toNat_le, ge_iff_le, hcodes] at hsmall ⊢
  split
  all_goals
    simp only [← UInt32.toNat_inj, UInt32.toNat_add, hcodes]
    omega

/-- The letters of the extensions are small. -/
theorem small_of_mem_extensions {c : Compression} {small : Text} (h : small ∈ c.extensions) :
    ∀ letter ∈ small, 'a' ≤ letter ∧ letter ≤ 'z' := by
  cases c <;> simp only [extensions, List.mem_cons, List.not_mem_nil, or_false] at h
  · rcases h with rfl | rfl <;> simp
  · subst h
    simp

/-- A text becomes an extension if its characters are the letters of it, small or capital. -/
theorem map_toLower_eq_iff {text small : Text} (h : ∀ letter ∈ small, 'a' ≤ letter ∧ letter ≤ 'z') :
    text.map Char.toLower = small ↔
      List.Forall₂ (fun x letter => x = letter ∨ x = letter.toUpper) text small := by
  induction text generalizing small with
  | nil => cases small <;> simp
  | cons x xs ih =>
    cases small with
    | nil => simp
    | cons letter letters =>
      have hfirst := h letter List.mem_cons_self
      rw [List.map_cons, List.cons.injEq, List.forall₂_cons, toLower_eq_iff hfirst.1 hfirst.2,
        ih fun l hl => h l (List.mem_cons_of_mem _ hl)]

/-- The compression of an extension is told by its small letters. -/
theorem ofExtension?_eq_some_iff_mem {extension : Bytes} {c : Compression} :
    ofExtension? extension = some c ↔
      ∃ text, Utf8.text? extension = some text ∧ text.map Char.toLower ∈ c.extensions := by
  have hlist : ∀ (t : Text) (s : String), String.ofList t = s ↔ t = s.toList := fun t s =>
    ⟨fun h => by rw [← h, String.toList_ofList], fun h => by rw [h, String.ofList_toList]⟩
  unfold ofExtension?
  cases Utf8.text? extension with
  | none => simp
  | some text =>
    simp only [Option.map_some, Option.some.injEq, exists_eq_left']
    generalize text.map Char.toLower = small
    constructor
    · intro h
      split at h <;> cases h
      all_goals
        next hs =>
          rw [Option.some.injEq, hlist] at hs
          exact hs ▸ by decide
    · intro h
      cases c <;> simp only [extensions, List.mem_cons, List.not_mem_nil, or_false] at h
      · rcases h with rfl | rfl <;> rfl
      · subst h
        rfl

/-- **The extensions of archives** are `zst`, `zip` and `gz` in any case, and no others. -/
theorem ofExtension?_eq_some_iff {extension : Bytes} {c : Compression} :
    ofExtension? extension = some c ↔ c.Marks extension := by
  rw [ofExtension?_eq_some_iff_mem, Marks]
  refine exists_congr fun text => and_congr Utf8.text?_eq_some_iff ⟨fun hmem => ?_, ?_⟩
  · exact ⟨_, hmem, (map_toLower_eq_iff (small_of_mem_extensions hmem)).1 rfl⟩
  · rintro ⟨small, hmem, hsame⟩
    rwa [(map_toLower_eq_iff (small_of_mem_extensions hmem)).2 hsame]

example : ofExtension? [0x47, 0x7A] = some .deflate := by decide +kernel

end Compression

/-! ## Entries -/

namespace ArchiveForm

/-- The entry is **called after** the stem of a file name: it is that text, or `data` if the stem is no
text. -/
def CalledAfter (entry : Text) (stem : Bytes) : Prop :=
  utf8Bytes entry = stem ∨ (∀ text, utf8Bytes text ≠ stem) ∧ entry = ['d', 'a', 't', 'a']

/-- The entry of an archive is called after the stem of its file name. -/
theorem calledAfter_iff {entry : Text} {stem : Bytes} (h : stem ≠ []) :
    CalledAfter entry stem ↔ entryName stem = entry := by
  unfold CalledAfter entryName
  cases htext : Utf8.text? stem with
  | none =>
    have hnone := Utf8.text?_eq_none_iff.1 htext
    rw [or_iff_right (hnone entry), and_iff_right hnone]
    exact eq_comm
  | some text =>
    obtain rfl := Utf8.text?_eq_some_iff.1 htext
    have hne : text ≠ [] := fun hnil => h (hnil ▸ rfl)
    have hinj : utf8Bytes entry = utf8Bytes text ↔ text = entry := by
      rw [← Utf8.text?_eq_some_iff, htext, Option.some.injEq]
    rw [hinj, or_iff_left fun hnot => hnot.1 text rfl, Option.filter_some, if_pos (by simpa using hne),
      Option.getD_some]

/-- **The paths of archives** are those whose file name has an extension that marks a compression. The
entry is called after what comes before the extension. -/
theorem ofPath?_eq_some_iff {path : Path} {form : ArchiveForm} :
    ofPath? path = some form ↔ ∃ stem extension,
      path.fileName? = some (stem ++ Path.fullStop :: extension) ∧ stem ≠ [] ∧
        Path.fullStop ∉ extension ∧ form.compression.Marks extension ∧
        CalledAfter form.entry stem := by
  obtain ⟨compression, entry⟩ := form
  rw [ofPath?, Option.bind_eq_some_iff]
  constructor
  · rintro ⟨name, hname, hform⟩
    unfold ofFileName? at hform
    split at hform
    · next stem extension hsplit =>
      obtain ⟨c, hcompression, hc⟩ := Option.map_eq_some_iff.1 hform
      cases hc
      obtain ⟨rfl, hstem, hextension⟩ := Path.splitExtension_eq_some_iff.1 hsplit
      exact ⟨stem, extension, hname, hstem, hextension,
        Compression.ofExtension?_eq_some_iff.1 hcompression, (calledAfter_iff hstem).2 rfl⟩
    · cases hform
  · rintro ⟨stem, extension, hname, hstem, hextension, hmarks, hcalled⟩
    have hsplit := Path.splitExtension_eq_some_iff.2 ⟨rfl, hstem, hextension⟩
    refine ⟨_, hname, ?_⟩
    rw [ofFileName?, hsplit]
    dsimp only
    rw [Compression.ofExtension?_eq_some_iff.2 hmarks, (calledAfter_iff hstem).1 hcalled]
    rfl

end ArchiveForm

end Delimited
