import Delimited.Conversion
import Delimited.Proofs.Stream.Delivery
import Mathlib.Data.Prod.Basic

set_option autoImplicit false
set_option relaxedAutoImplicit false

/-!
# What is assumed of a library for archives

Two things are assumed where a conversion is to make an archive: no call of the library fails, and the
archive that it finished is read back with the one entry that was written. Both speak only of writers to
which such a conversion comes. Then the sink into an archive never fails, and what it received is the
content of the entry.

## Main definitions

* `Delimited.ArchiveLibrary.Filled` — a writer whose only entry was given certain bytes.
* `Delimited.ArchiveLibrary.Unfailing`, `Delimited.ArchiveLibrary.ReadsBack` — the two assumptions.
* `Delimited.ArchiveSink.Filling` — a sink that is not finished.

## Main results

* `Delimited.ArchiveLibrary.unfailing_keeping`, `Delimited.ArchiveLibrary.readsBack_keeping` — there is
  such a library.
* `Delimited.ArchiveSink.Filling.unfailing` — the sink never fails.
* `Delimited.ArchiveSink.Filling.finish` — what it received is read back.
-/

namespace Delimited

/-! ## Libraries -/

namespace ArchiveLibrary

/-- A writer into a new archive of a form that is **filled with** some bytes: these were given to the
only entry, which was started before. -/
inductive Filled (lib : ArchiveLibrary) (form : ArchiveForm) : Bytes → lib.Writer → Prop
  /-- The entry was started. -/
  | started {w v : lib.Writer}
      (hcreate : lib.create form.compression.method form.compression.level = .ok w)
      (hstart : lib.startEntry form.entry w = (.ok (), v)) : Filled lib form [] v
  /-- More bytes were given to it. -/
  | written {bytes more : Bytes} {w v : lib.Writer} (h : Filled lib form bytes w)
      (hwrite : lib.writeData more w = (.ok (), v)) : Filled lib form (bytes ++ more) v

/-- **No call fails** that writes an archive of a form with a single entry. -/
structure Unfailing (lib : ArchiveLibrary) (form : ArchiveForm) : Prop where
  /-- An archive can be made. -/
  create_ok : ∃ w, lib.create form.compression.method form.compression.level = .ok w
  /-- Its entry can be started. -/
  startEntry_ok : ∀ {w : lib.Writer},
    lib.create form.compression.method form.compression.level = .ok w →
      (lib.startEntry form.entry w).1 = .ok ()
  /-- More bytes can be given to the entry at any time. -/
  writeData_ok : ∀ {bytes : Bytes} {w : lib.Writer}, lib.Filled form bytes w →
    ∀ more, (lib.writeData more w).1 = .ok ()
  /-- The archive can be finished at any time. -/
  finish_ok : ∀ {bytes : Bytes} {w : lib.Writer}, lib.Filled form bytes w →
    (lib.finish w).1 = .ok ()

/-- A finished archive can be read, and its entry **is read back** as it was written. -/
def ReadsBack (lib : ArchiveLibrary) (form : ArchiveForm) : Prop :=
  ∀ {bytes : Bytes} {w v : lib.Writer}, lib.Filled form bytes w → lib.finish w = (.ok (), v) →
    lib.entries (lib.content v) = .ok [⟨form.entry, form.compression.method, .ok bytes⟩]

/-! ### The library that keeps entries -/

/-- A writer of the library that keeps entries has the bytes with which it is filled. -/
theorem Filled.eq_draft {form : ArchiveForm} {bytes : Bytes} {w : keeping.Writer}
    (h : keeping.Filled form bytes w) :
    w = (⟨form.compression.method, [], some (form.entry, bytes.toArray)⟩ : Draft) := by
  induction h with
  | started hcreate hstart =>
    cases hcreate
    cases hstart
    rfl
  | @written bytes more w v h hwrite ih =>
    subst ih
    cases hwrite
    exact congrArg (fun taken => Draft.mk _ [] (some (form.entry, taken)))
      (Array.ext' (by simp))

/-- It never fails. -/
theorem unfailing_keeping (form : ArchiveForm) : keeping.Unfailing form where
  create_ok := ⟨_, rfl⟩
  startEntry_ok _ := rfl
  writeData_ok h more := by
    rw [h.eq_draft]
    rfl
  finish_ok _ := rfl

/-- It reads back what it wrote. -/
theorem readsBack_keeping (form : ArchiveForm) : keeping.ReadsBack form := by
  intro bytes w v h hfinish
  cases hfinish
  rw [h.eq_draft]
  rfl

end ArchiveLibrary

/-! ## Sinks -/

namespace ArchiveSink

variable {lib : ArchiveLibrary} {form : ArchiveForm} {s t : ArchiveSink lib} {bytes : Bytes}

/-- The sink **fills** an archive of this form with what it received. -/
structure Filling (form : ArchiveForm) (s : ArchiveSink lib) : Prop where
  /-- The archive was not finished. -/
  open_ : s.finished = false
  /-- Its entry was given what the sink received. -/
  filled : lib.Filled form (ByteSink.received s) s.writer

/-- A new sink fills its archive. -/
theorem filling_create (h : lib.Unfailing form) (path : Path) :
    ∃ (s : ArchiveSink lib) (content : Content), create lib path form = (.ok s, content) ∧
      s.Filling form ∧ ByteSink.received s = [] := by
  obtain ⟨w, hcreate⟩ := h.create_ok
  have hstart := Prod.fst_eq_iff.1 (h.startEntry_ok hcreate)
  unfold create
  rw [hcreate]
  dsimp only
  rw [hstart]
  exact ⟨_, _, rfl, ⟨rfl, .started hcreate hstart⟩, rfl⟩

/-- **A write call** takes all bytes, and the sink goes on filling its archive. -/
theorem Filling.write (hs : s.Filling form) (h : lib.Unfailing form) (bytes : Bytes) :
    (s.write bytes).1 = .ok bytes.length ∧ (s.write bytes).2.Filling form := by
  have hwrite := Prod.fst_eq_iff.1 (h.writeData_ok hs.filled bytes)
  have hfilled := hs.filled.written hwrite
  have hreceived : (s.taken ++ bytes.toArray).toList = s.taken.toList ++ bytes :=
    Array.toList_append
  unfold ArchiveSink.write
  rw [if_neg (Bool.eq_false_iff.1 hs.open_), hwrite]
  refine ⟨rfl, hs.open_, ?_⟩
  show lib.Filled form (s.taken ++ bytes.toArray).toList (lib.writeData bytes s.writer).2
  rwa [hreceived]

/-- So it does however it is used. -/
theorem Filling.of_reaches (hs : s.Filling form) (h : lib.Unfailing form)
    (ht : ByteSink.Reaches s t) : t.Filling form := by
  induction ht with
  | refl => exact hs
  | write _ bytes ih => exact (ih.write h bytes).2
  | flush _ ih => exact ih

/-- **The sink into an archive never fails** if the library does not. -/
theorem Filling.unfailing (hs : s.Filling form) (h : lib.Unfailing form) : ByteSink.Unfailing s := by
  refine ⟨fun {v} hv {bytes} hne => ?_, fun {v} _ => rfl⟩
  have hlength := List.length_pos_iff.2 hne
  refine ⟨bytes.length - 1, ((hs.of_reaches h hv).write h bytes).1.trans (congrArg Except.ok ?_)⟩
  omega

/-- **Completing the archive** goes well, and its entry is read back as what the sink received. -/
theorem Filling.finish (hs : s.Filling form) (h : lib.Unfailing form) (hback : lib.ReadsBack form) :
    s.finish.1 = .ok () ∧ lib.entries s.finish.2.content =
      .ok [⟨form.entry, form.compression.method, .ok (ByteSink.received s)⟩] := by
  have hfinish := Prod.fst_eq_iff.1 (h.finish_ok hs.filled)
  unfold ArchiveSink.finish
  rw [if_neg (Bool.eq_false_iff.1 hs.open_), hfinish]
  exact ⟨rfl, hback hs.filled hfinish⟩

end ArchiveSink

end Delimited
