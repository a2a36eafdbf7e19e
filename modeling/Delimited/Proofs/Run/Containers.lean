import Delimited.Proofs.Archive.Forms
import Delimited.Proofs.Archive.Library
import Delimited.Proofs.Run.Faults
import Delimited.Proofs.Run.Sinks
import Delimited.Proofs.Volume.Files

set_option autoImplicit false
set_option relaxedAutoImplicit false

/-!
# Archives in place of plain files

A conversion reads the same bytes from an archive as from a plain file, and what it sends to an
archive becomes the content of the single entry, whether the run succeeds or not. So the containers
of input and output make no difference to the result or to the bytes, and an output can be converted
further like a plain file.

Of the library for archives it is assumed that its calls do not fail and that what it wrote is read
back. Input and output have to be different files; different paths are not enough.

## Main definitions

* `Delimited.Volume.Supplies` — a file, plain or in an archive, that has certain bytes.
* `Delimited.ArchiveLibrary.Holds` — content, plain or an archive, into which certain bytes were sent.

## Main results

* `Delimited.Pipeline.writeOutput_holds` — what is in an output after a run.
* `Delimited.Pipeline.convert_transparent` — a conversion with archives does what it does with plain
  files.
-/

namespace Delimited

deriving instance DecidableEq for Entry, Content, Node, Volume

/-! ## The two ends of a conversion -/

namespace Volume

/-- The file at a path, which leads to the place, **supplies** the bytes to whoever opens it: it is a
plain file with these bytes, or an archive that has them in the entry which is looked for. -/
inductive Supplies (v : Volume) (lib : ArchiveLibrary) (path : Path) (place : Place)
    (bytes : Bytes) : Prop
  | plain (hform : ArchiveForm.ofPath? path = none)
      (hfile : v.locate path = .ok (place, .file (.plain bytes)))
  | archive {form : ArchiveForm} {content : Content} {entries : List Entry} {found : Entry}
      (hform : ArchiveForm.ofPath? path = some form)
      (hfile : v.locate path = .ok (place, .file content))
      (hentries : lib.entries content = .ok entries)
      (hfound : (entries.find? (·.name = form.entry)).or entries.head? = some found)
      (hbytes : found.content = .ok bytes)

variable {v w : Volume} {lib : ArchiveLibrary} {path output : Path} {place target : Place}
  {bytes : Bytes}

/-- Such a file **is read as these bytes**, also after the output was made in another place. -/
theorem Supplies.openInput (h : v.Supplies lib path place bytes)
    (hout : v.createOutput output = .ok (target, w)) (hne : place ≠ target) :
    ∃ source, v.openInput lib path = .ok source ∧ w.reader source = [.chunk bytes] := by
  rcases h with ⟨hform, hfile⟩ | @⟨form, content, entries, found, hform, hfile, hentries, hfound, hbytes⟩
  · refine ⟨.located place, ?_, ?_⟩
    · rw [Volume.openInput, hform]
      dsimp only
      rw [hfile]
    · rw [reader, node?_of_createOutput hout hne, node?_of_locate hfile]
  · refine ⟨.loaded bytes, ?_, rfl⟩
    have hopened : v.archiveEntries lib path = .ok entries := by
      rw [archiveEntries, hfile]
      exact hentries
    rw [Volume.openInput, hform]
    dsimp only
    rw [readArchive, hopened]
    dsimp only
    rw [hfound]
    dsimp only
    rw [hbytes]
    rfl

end Volume

/-! ## What is written -/

/-- The content of the output at a path **holds** the bytes: as they are, or in the single entry of an
archive. -/
def ArchiveLibrary.Holds (lib : ArchiveLibrary) (path : Path) (bytes : Bytes) (content : Content) :
    Prop :=
  match ArchiveForm.ofPath? path with
  | some form => lib.entries content = .ok [⟨form.entry, form.compression.method, .ok bytes⟩]
  | none => content = .plain bytes

/-- The content of an output supplies the bytes that it holds. -/
theorem Volume.supplies_of_holds {v : Volume} {lib : ArchiveLibrary} {path : Path} {place : Place}
    {bytes : Bytes} {content : Content} (h : v.locate path = .ok (place, .file content))
    (hholds : lib.Holds path bytes content) : v.Supplies lib path place bytes := by
  unfold ArchiveLibrary.Holds at hholds
  split at hholds
  · next form hform =>
    have hfound : ([⟨form.entry, form.compression.method, .ok bytes⟩] : List Entry).find?
        (·.name = form.entry) = some ⟨form.entry, form.compression.method, .ok bytes⟩ :=
      List.find?_cons_of_pos (by simp)
    exact .archive hform h hholds (congrArg (Option.or · _) hfound) rfl
  · next hform =>
    subst hholds
    exact .plain hform h

namespace Pipeline

/-- A run without failures has the result of the run on the decoded text, and it sends all bytes of
what that one writes. -/
theorem run_of_unfailing {ω : Type} [ByteSink ω] (pl : Pipeline) (p : Processor)
    {source : ByteReader} {output : ω} (hsource : ByteReader.faults source = 0)
    (houtput : ByteSink.Unfailing output) :
    let run := pl.run source output p
    let whole := pl.transcode (pl.config.input.charset.decode (ByteReader.bytes source)) p
    run.result = whole.result ∧ ByteSink.received run.sink =
      ByteSink.received output ++ whole.bytes pl.config.output.charset.encoder := by
  intro run whole
  obtain ⟨part, hreceived, -, hall⟩ :=
    pl.run_follows p True source output (fun _ => hsource) fun _ => houtput
  obtain ⟨rfl, hresult⟩ := hall (Or.inr trivial)
  exact ⟨hresult, hreceived⟩

/-- What the reader of some bytes delivers, at once and without a failure. -/
theorem bytes_chunk (bytes : Bytes) :
    ByteReader.bytes [.chunk bytes] = bytes ∧ ByteReader.faults [.chunk bytes] = 0 := by
  cases bytes with
  | nil => exact ⟨rfl, rfl⟩
  | cons b bs => exact ⟨List.append_nil _, rfl⟩

section Outputs

variable {lib : ArchiveLibrary} {output : Path} {source : ByteReader}

/-- What is written into a **plain output**, if no read fails: the bytes of what the run on the decoded
text writes. The result is the one of that run. -/
theorem writeOutput_of_plain (pl : Pipeline) (p : Processor) (hform : ArchiveForm.ofPath? output = none)
    (h : ByteReader.faults source = 0) :
    let whole := pl.transcode (pl.config.input.charset.decode (ByteReader.bytes source)) p
    let written := pl.writeOutput lib source output p
    written.result = whole.result ∧
      written.content = .plain (whole.bytes pl.config.output.charset.encoder) := by
  intro whole written
  obtain ⟨hresult, hreceived⟩ := pl.run_of_unfailing p h ByteWriter.unfailing_unlimited
  have hwritten : written = ⟨(pl.run source ByteWriter.unlimited p).result,
      .plain (ByteSink.received (pl.run source ByteWriter.unlimited p).sink),
      (pl.run source ByteWriter.unlimited p).log⟩ := by
    change pl.writeOutput lib source output p = _
    rw [writeOutput, hform]
    rfl
  rw [hwritten]
  exact ⟨hresult, congrArg Content.plain hreceived⟩

/-- What is written into an **archive** of this form: its single entry has these bytes.

**Proof sketch.** The sink into the archive never fails, so all bytes are sent. It was only written to
and flushed, so its archive is still open with just these bytes, and finishing it goes well. -/
theorem writeOutput_of_form (pl : Pipeline) (p : Processor) {form : ArchiveForm}
    (hform : ArchiveForm.ofPath? output = some form) (hlib : lib.Unfailing form)
    (hback : lib.ReadsBack form) (h : ByteReader.faults source = 0) :
    let whole := pl.transcode (pl.config.input.charset.decode (ByteReader.bytes source)) p
    let written := pl.writeOutput lib source output p
    written.result = whole.result ∧ lib.entries written.content =
      .ok [⟨form.entry, form.compression.method,
        .ok (whole.bytes pl.config.output.charset.encoder)⟩] := by
  intro whole written
  obtain ⟨sink, content, hcreate, hfilling, hempty⟩ := ArchiveSink.filling_create hlib output
  obtain ⟨hresult, hreceived⟩ := pl.run_of_unfailing p h (hfilling.unfailing hlib)
  have hend := hfilling.of_reaches hlib (pl.reaches_run p source sink)
  obtain ⟨hfinish, hentries⟩ := hend.finish hlib hback
  have hwritten : written = ⟨whole.result, (pl.run source sink p).sink.finish.2.content,
      (pl.run source sink p).log⟩ := by
    change pl.writeOutput lib source output p = _
    rw [writeOutput, hform]
    dsimp only
    rw [hcreate]
    dsimp only
    rw [hfinish, hresult]
    cases whole.result <;> rfl
  rw [hwritten]
  rw [hreceived, hempty, List.nil_append] at hentries
  exact ⟨rfl, hentries⟩

/-- **What is written into an output** of either kind is what the run on the decoded text writes. -/
theorem writeOutput_holds (pl : Pipeline) (p : Processor)
    (hlib : ∀ form, ArchiveForm.ofPath? output = some form → lib.Unfailing form)
    (hback : ∀ form, ArchiveForm.ofPath? output = some form → lib.ReadsBack form)
    (h : ByteReader.faults source = 0) :
    let whole := pl.transcode (pl.config.input.charset.decode (ByteReader.bytes source)) p
    let written := pl.writeOutput lib source output p
    written.result = whole.result ∧
      lib.Holds output (whole.bytes pl.config.output.charset.encoder) written.content := by
  intro whole written
  unfold ArchiveLibrary.Holds
  cases hform : ArchiveForm.ofPath? output with
  | none => exact pl.writeOutput_of_plain p hform h
  | some form => exact pl.writeOutput_of_form p hform (hlib form hform) (hback form hform) h

end Outputs

/-! ## Conversions -/

/-- A conversion of a file **runs on the bytes** that the file supplies. -/
theorem convert_of_supplies (pl : Pipeline) (lib : ArchiveLibrary) (p : Processor) {v w : Volume}
    {input output : Path} {place target : Place} {bytes : Bytes}
    (hin : v.Supplies lib input place bytes) (hout : v.createOutput output = .ok (target, w))
    (hne : place ≠ target) :
    let written := pl.writeOutput lib [.chunk bytes] output p
    let conversion := pl.convert lib input output p v
    conversion.result = written.result ∧
      conversion.volume.locate output = .ok (target, .file written.content) := by
  intro written conversion
  obtain ⟨source, hopened, hreader⟩ := hin.openInput hout hne
  have hconvert : conversion =
      ⟨written.result, w.put target (.file written.content),
        .converting input output :: written.log⟩ := by
    change pl.convert lib input output p v = _
    rw [convert, hopened]
    dsimp only
    rw [hout]
    dsimp only
    rw [hreader]
  rw [hconvert]
  exact ⟨rfl, Volume.locate_of_createOutput hout _⟩

/-- **Archives do what plain files do.** A conversion of a plain file into a plain file is compared
with one in which input, output or both may be archives, and whose input supplies the same bytes. In
both of them input and output are different files. The second conversion has the same result, be it
the counts or an error. The file that it makes has the bytes that the first one wrote: as they are, or
as the content of the single entry of an archive, which is called after the file name without its
extension. And a later conversion of that file runs on these bytes.

**Proof sketch.** Both runs are given the bytes of the input at once, and neither the plain writer nor
the sink into an archive fails. So both send all bytes of what the run on the decoded text writes, and
the archive is finished whatever the result. -/
theorem convert_transparent (pl : Pipeline) (lib : ArchiveLibrary) (p : Processor)
    {v w made made' : Volume} {input output input' output' : Path}
    {place target place' target' : Place} {bytes : Bytes}
    (hlib : ∀ form, ArchiveForm.ofPath? output' = some form → lib.Unfailing form)
    (hback : ∀ form, ArchiveForm.ofPath? output' = some form → lib.ReadsBack form)
    (hinput : ArchiveForm.ofPath? input = none)
    (hfile : v.locate input = .ok (place, .file (.plain bytes)))
    (houtput : ArchiveForm.ofPath? output = none)
    (hmade : v.createOutput output = .ok (target, made)) (hne : place ≠ target)
    (hinput' : w.Supplies lib input' place' bytes)
    (hmade' : w.createOutput output' = .ok (target', made')) (hne' : place' ≠ target') :
    let reference := pl.convert lib input output p v
    let variant := pl.convert lib input' output' p w
    variant.result = reference.result ∧
      ∃ sent, reference.volume.locate output = .ok (target, .file (.plain sent)) ∧
        (ArchiveForm.ofPath? output' = none →
          variant.volume.locate output' = .ok (target', .file (.plain sent))) ∧
        (∀ form, ArchiveForm.ofPath? output' = some form →
          ∃ content stem extension,
            variant.volume.locate output' = .ok (target', .file content) ∧
              lib.entries content = .ok [⟨form.entry, form.compression.method, .ok sent⟩] ∧
              output'.fileName? = some (stem ++ Path.fullStop :: extension) ∧ stem ≠ [] ∧
              Path.fullStop ∉ extension ∧ form.compression.Marks extension ∧
              ArchiveForm.CalledAfter form.entry stem) ∧
        ∀ (next : Pipeline) (q : Processor) (path : Path) (goal : Place) (made : Volume),
          variant.volume.createOutput path = .ok (goal, made) → target' ≠ goal →
            let later := next.convert lib output' path q variant.volume
            let written := next.writeOutput lib [.chunk sent] path q
            later.result = written.result ∧
              later.volume.locate path = .ok (goal, .file written.content) := by
  intro reference variant
  obtain ⟨hresult, hlocate⟩ := pl.convert_of_supplies lib p (.plain hinput hfile) hmade hne
  obtain ⟨hresult', hlocate'⟩ := pl.convert_of_supplies lib p hinput' hmade' hne'
  obtain ⟨hwhole, hcontent⟩ := pl.writeOutput_of_plain p houtput (bytes_chunk bytes).2
  obtain ⟨hwhole', hholds'⟩ := pl.writeOutput_holds p hlib hback (bytes_chunk bytes).2
  have hsupplies := Volume.supplies_of_holds hlocate' hholds'
  rw [hcontent] at hlocate
  refine ⟨?_, _, hlocate, fun hnone => ?_, fun form hform => ?_, ?_⟩
  · rw [hresult', hwhole', hresult, hwhole]
  · rw [ArchiveLibrary.Holds, hnone] at hholds'
    rw [hlocate', hholds']
  · obtain ⟨stem, extension, hname⟩ := ArchiveForm.ofPath?_eq_some_iff.1 hform
    rw [ArchiveLibrary.Holds, hform] at hholds'
    exact ⟨_, stem, extension, hlocate', hholds', hname⟩
  · intro next q path goal made hnext hgoal
    exact next.convert_of_supplies lib q hsupplies hnext hgoal

/-- A row that is too short ends the conversion of an archive, whose second entry is the one that is
looked for. What was written before that row is in the archive that is made. -/
theorem convert_transparent_short_row :
    let commas : Dialect := { columnDelimiter := [','], rowDelimiter := ['\n'] }
    let bars : Dialect := { columnDelimiter := ['|'], rowDelimiter := ['\n'] }
    let pl : Pipeline := ⟨{ input := commas, output := bars, expectedColumns := 2 }, by decide⟩
    let lib := ArchiveLibrary.keeping
    let bytes : Bytes := utf8Bytes "1,2\n3\n".toList
    let packed : Bytes := Archive.ofStored [("x".toList, []), ("in.csv".toList, bytes)]
    let input := Path.ofText "in.csv".toList
    let input' := Path.ofText "in.csv.ZIP".toList
    let output := Path.ofText "out.csv".toList
    let output' := Path.ofText "out.csv.gz".toList
    let v : Volume := ⟨[([input.bytes], .file (.plain bytes)), ([input'.bytes], .file (.plain packed))]⟩
    let form : ArchiveForm := ⟨.deflate, "out.csv".toList⟩
    (∀ form, ArchiveForm.ofPath? output' = some form → lib.Unfailing form) ∧
      (∀ form, ArchiveForm.ofPath? output' = some form → lib.ReadsBack form) ∧
      ArchiveForm.ofPath? input = none ∧
      v.locate input = .ok ([input.bytes], .file (.plain bytes)) ∧
      ArchiveForm.ofPath? output = none ∧
      v.createOutput output = .ok ([output.bytes], v.put [output.bytes] (.file (.plain []))) ∧
      v.Supplies lib input' [input'.bytes] bytes ∧
      v.createOutput output' = .ok ([output'.bytes], v.put [output'.bytes] (.file (.plain []))) ∧
      ArchiveForm.ofPath? output' = some form ∧
      let variant := pl.convert lib input' output' .identity v
      variant.result = .error (.columnCount ⟨.data 2, 2, 2, 1, ['3']⟩) ∧
        ∃ content, variant.volume.locate output' = .ok ([output'.bytes], .file content) ∧
          lib.entries content = .ok [⟨"out.csv".toList, 8, .ok (utf8Bytes "1|2\n".toList)⟩] := by
  intro commas bars pl lib bytes packed input input' output output' v form
  have hlib : ∀ form, ArchiveForm.ofPath? output' = some form → lib.Unfailing form :=
    fun form _ => ArchiveLibrary.unfailing_keeping form
  have hback : ∀ form, ArchiveForm.ofPath? output' = some form → lib.ReadsBack form :=
    fun form _ => ArchiveLibrary.readsBack_keeping form
  have hinput : ArchiveForm.ofPath? input = none := by decide +kernel
  have hfile : v.locate input = .ok ([input.bytes], .file (.plain bytes)) := by
    decide +kernel
  have houtput : ArchiveForm.ofPath? output = none := by decide +kernel
  have hmade : v.createOutput output =
      .ok ([output.bytes], v.put [output.bytes] (.file (.plain []))) := by
    decide +kernel
  have hpacked : ArchiveForm.ofPath? input' = some ⟨.zstd, "in.csv".toList⟩ := by
    decide +kernel
  have hfile' : v.locate input' = .ok ([input'.bytes], .file (.plain packed)) := by
    decide +kernel
  have hkept : ∀ content, lib.entries content = Content.entries content := fun _ => rfl
  have hentries : Content.entries (.plain packed) =
      .ok [⟨"x".toList, 0, .ok []⟩, ⟨"in.csv".toList, 0, .ok bytes⟩] := by
    decide +kernel
  have hinput' : v.Supplies lib input' [input'.bytes] bytes :=
    .archive hpacked hfile' ((hkept _).trans hentries) rfl rfl
  have hmade' : v.createOutput output' =
      .ok ([output'.bytes], v.put [output'.bytes] (.file (.plain []))) := by
    decide +kernel
  have hform : ArchiveForm.ofPath? output' = some form := by decide +kernel
  obtain ⟨hresult, sent, hsent, -, harchive, -⟩ :=
    convert_transparent pl lib .identity hlib hback hinput hfile houtput hmade (by decide +kernel)
      hinput' hmade' (by decide +kernel)
  have hreference : (pl.convert lib input output .identity v).volume.locate output =
      .ok ([output.bytes], .file (.plain (utf8Bytes "1|2\n".toList))) := by
    decide +kernel
  obtain rfl : utf8Bytes "1|2\n".toList = sent := by simpa using hreference.symm.trans hsent
  obtain ⟨content, stem, extension, hlocate, hcontent, -⟩ := harchive form hform
  refine ⟨hlib, hback, hinput, hfile, houtput, hmade, hinput', hmade', hform, hresult.trans ?_,
    content, hlocate, hcontent⟩
  decide +kernel

/-- **Different paths are not enough, and not every entry is called like its file.** Two paths of one
file are an input that is empty once the output was made, but an archive with the same bytes is
converted. And the entry of an archive is called `data` if the file name without its extension is no
text. -/
theorem convert_shared_file_and_malformed_name :
    let pl : Pipeline := ⟨{}, by decide⟩
    let lib := ArchiveLibrary.keeping
    let bytes : Bytes := utf8Bytes "a^|b@@\n".toList
    let input := Path.ofText "./in.dat".toList
    let input' := Path.ofText "in.zip".toList
    let output := Path.ofText "in.dat".toList
    let output' : Path := ⟨0xFF :: utf8Bytes ".zip".toList⟩
    let packed : Content := .archive [⟨"in".toList, 93, .ok bytes⟩]
    let v : Volume := ⟨[([output.bytes], .file (.plain bytes)), ([input'.bytes], .file packed)]⟩
    (input ≠ output ∧ ArchiveForm.ofPath? input = none ∧ ArchiveForm.ofPath? output = none ∧
      v.locate input = .ok ([output.bytes], .file (.plain bytes)) ∧
      v.Supplies lib input' [input'.bytes] bytes ∧
      (pl.convert lib input output .identity v).result = .ok {} ∧
      (pl.convert lib input' output .identity v).result = .ok { rowsIn := 1, rowsOut := 1 }) ∧
    output'.fileName? = some (0xFF :: utf8Bytes ".zip".toList) ∧
      (∀ text, utf8Bytes text ≠ [0xFF]) ∧
      (pl.convert lib input' output' .identity v).volume.locate output' =
        .ok ([output'.bytes], .file (.archive [⟨"data".toList, 93, .ok bytes⟩])) := by
  intro pl lib bytes input input' output output' packed v
  have hform : ArchiveForm.ofPath? input' = some ⟨.zstd, "in".toList⟩ := by decide +kernel
  have hfile : v.locate input' = .ok ([input'.bytes], .file packed) := by decide +kernel
  have hsupplies : v.Supplies lib input' [input'.bytes] bytes := .archive hform hfile rfl rfl rfl
  refine ⟨⟨?_, ?_, ?_, ?_, hsupplies, ?_, ?_⟩, ?_, ?_, ?_⟩
  · decide +kernel
  · decide +kernel
  · decide +kernel
  · decide +kernel
  · decide +kernel
  · decide +kernel
  · decide +kernel
  · exact Utf8.text?_eq_none_iff.1 (by decide +kernel)
  · decide +kernel

end Pipeline

end Delimited
