import Delimited.Charset.Unicode

set_option autoImplicit false
set_option relaxedAutoImplicit false

/-!
# Paths

A path is a byte string with slashes between names. The names are bytes too: often those of a text,
but they need not be.

## Main definitions

* `Delimited.Path` — paths, with `Delimited.Path.ofText` for those that are written as text.
* `Delimited.Path.display` — a path as it is shown in messages.
* `Delimited.Path.names` — the names between the slashes.
* `Delimited.Path.fileName?` — the last name that leads anywhere.
* `Delimited.Path.splitExtension` — a file name before and after its last full stop.

## Main results

* `Delimited.Path.splitExtension_eq_some_iff` — when a file name has an extension, and which one.
-/

namespace Delimited

/-- A **path** is a byte string. -/
structure Path where
  bytes : Bytes
  deriving DecidableEq, Repr, Inhabited

namespace Path

/-- The path that is written as a text. -/
def ofText (text : Text) : Path := ⟨utf8Bytes text⟩

/-- A path as it is shown. What is no text in it is shown as replacement characters. -/
def display (path : Path) : String := String.ofList (Utf8.decoder.decode path.bytes)

/-- The byte between names. -/
def slash : UInt8 := 0x2F

/-- The byte before an extension. -/
def fullStop : UInt8 := 0x2E

/-- The name that stays in a directory. -/
def here : Bytes := [fullStop]

/-- The name that leads up from a directory. -/
def up : Bytes := [fullStop, fullStop]

/-- The pieces of a byte string between the bytes `separator`; there is always at least one. -/
def pieces (separator : UInt8) : Bytes → List Bytes
  | [] => [[]]
  | b :: bs =>
    if b = separator then [] :: pieces separator bs
    else
      match pieces separator bs with
      | piece :: others => (b :: piece) :: others
      | [] => [[b]]

/-- The **names** in a path, the empty ones between neighbouring slashes included. -/
def names (path : Path) : List Bytes :=
  pieces slash path.bytes

/-- The names in a path without the slashes at its end. -/
def trimmedNames (path : Path) : List Bytes :=
  (path.names.reverse.dropWhile (· = [])).reverse

/-- The **file name** of a path: its last name that leads anywhere. A path that ends by going up has
none. -/
def fileName? (path : Path) : Option Bytes :=
  (path.names.filter fun name => name ≠ [] ∧ name ≠ here).getLast?.filter (· ≠ up)

/-- A file name **before and after its last full stop**. One that has no full stop, or none but at
its start, has no second part. -/
def splitExtension (name : Bytes) : Bytes × Option Bytes :=
  match name.reverse.dropWhile (· ≠ fullStop) with
  | [] | [_] => (name, none)
  | _ :: b :: bs => ((b :: bs).reverse, some (name.reverse.takeWhile (· ≠ fullStop)).reverse)

/-- **The extension of a file name** is what follows its last full stop, if anything stands before
that. -/
theorem splitExtension_eq_some_iff {name stem extension : Bytes} :
    splitExtension name = (stem, some extension) ↔
      name = stem ++ fullStop :: extension ∧ stem ≠ [] ∧ fullStop ∉ extension := by
  constructor
  · intro h
    rw [splitExtension] at h
    split at h
    · simp at h
    · simp at h
    · next d b bs hdrop =>
      simp only [Prod.mk.injEq, Option.some.injEq] at h
      obtain ⟨rfl, rfl⟩ := h
      have hd : d = fullStop := by
        have := List.head?_dropWhile_not (· ≠ fullStop) name.reverse
        rw [hdrop] at this
        simpa using this
      have hname := List.takeWhile_append_dropWhile (p := (· ≠ fullStop)) (l := name.reverse)
      have hnone := List.all_takeWhile (p := (· ≠ fullStop)) (l := name.reverse)
      rw [hdrop, hd] at hname
      generalize name.reverse.takeWhile (· ≠ fullStop) = after at hname hnone ⊢
      refine ⟨?_, by simp, fun hmem => ?_⟩
      · rw [← List.reverse_reverse name, ← hname]
        simp
      · simpa using List.all_eq_true.1 hnone _ (List.mem_reverse.1 hmem)
  · rintro ⟨rfl, hstem, hextension⟩
    have hreverse : (stem ++ fullStop :: extension).reverse =
        extension.reverse ++ fullStop :: stem.reverse := by simp
    have hall : ∀ b ∈ extension.reverse, decide (b ≠ fullStop) = true := by
      intro b hb
      exact decide_eq_true fun heq => hextension (heq ▸ List.mem_reverse.1 hb)
    rw [splitExtension, hreverse, List.dropWhile_append_of_pos hall,
      List.takeWhile_append_of_pos hall]
    cases hs : stem.reverse with
    | nil => exact absurd (List.reverse_eq_nil_iff.1 hs) hstem
    | cons b bs =>
      rw [List.dropWhile_cons_of_neg (by simp), List.takeWhile_cons_of_neg (by simp)]
      have hback : (b :: bs).reverse = stem := by rw [← hs, List.reverse_reverse]
      simp [hback]

end Path

end Delimited
