import Delimited.Charset.Coding
import Delimited.Proofs.Stream.Offering

set_option autoImplicit false
set_option relaxedAutoImplicit false

/-!
# Text readers as lists

A text reader can be used like a list of characters, the decoding of all bytes that its byte reader
will deliver: reading takes characters from the front, pushing back puts some in front. Each failure
of the byte reader makes one read fail, which loses nothing. Where the bytes are cut, where read calls
are interrupted and what is decoded already does not show.

## Main definitions

* `Delimited.ReadCall`, `Delimited.ReadAnswer` — the calls on a source, and their answers.
* `Delimited.CharSource.calls` — calls one after another, also after failures.
* `Delimited.IdealSource` — a list of characters, and the failures that are met on the way.
* `Delimited.IdealSource.Answers`, `Delimited.IdealSource.Follows` — what calls on such a list give.

## Main results

* `Delimited.TextReader.answers_call` — one call on a text reader is answered as one on the list.
* `Delimited.IdealSource.Follows.calls_calmed` — without the failures, the same characters are given.
* `Delimited.Charset.calls_ideal` — any calls on a text reader are answered as calls on the list.
-/

namespace Delimited

open CharSource

/-! ## Calls -/

/-- The **calls** on a source. -/
inductive ReadCall where
  /-- Asks for the next character. -/
  | char
  /-- Asks for the next characters, up to a number of them. -/
  | chars (most : Nat)
  /-- Pushes characters back. -/
  | unread (xs : Text)
  deriving DecidableEq, Repr

/-- The **answer** to a call: the characters that it gives, and the failure that ends it, if any. -/
structure ReadAnswer where
  found : Text
  fault : Option IoFault
  deriving DecidableEq, Repr

namespace ReadAnswer

/-- The answer without its failure. -/
def calmed (answer : ReadAnswer) : ReadAnswer := { answer with fault := none }

/-- The call that asks for no more than was given before it failed. -/
def shortened (call : ReadCall) (answer : ReadAnswer) : ReadCall :=
  match answer.fault with
  | some _ => .chars answer.found.length
  | none => call

end ReadAnswer

namespace CharSource

section Calls

variable {σ : Type} [CharSource σ]

/-- One call. -/
def call (s : σ) : ReadCall → ReadAnswer × σ
  | .char =>
    match read s with
    | (.ok c, t) => (⟨c.toList, none⟩, t)
    | (.error fault, t) => (⟨[], some fault⟩, t)
  | .chars most =>
    let (ahead, t) := readUpTo most s
    (⟨ahead.1, ahead.2⟩, t)
  | .unread xs => (⟨[], none⟩, unread xs s)

/-- **Calls** one after another. A failure does not end them. -/
def calls (s : σ) : List ReadCall → List ReadAnswer × σ
  | [] => ([], s)
  | c :: cs =>
    let (answer, t) := call s c
    let (answers, u) := calls t cs
    (answer :: answers, u)

/-- Calls are answered one after another. -/
theorem calls_cons (s : σ) (c : ReadCall) (cs : List ReadCall) :
    calls s (c :: cs) =
      ((call s c).1 :: (calls (call s c).2 cs).1, (calls (call s c).2 cs).2) := rfl

end Calls

section Commuting

variable {σ τ : Type} [CharSource σ] [CharSource τ] {f : σ → τ}

/-- Two sources of which reads give the same read ahead the same. -/
theorem readUpTo_of_commutes (hread : ∀ s, read (f s) = ((read s).1, f (read s).2)) (n : Nat)
    (s : σ) : readUpTo n (f s) = ((readUpTo n s).1, f (readUpTo n s).2) := by
  induction n generalizing s with
  | zero => rfl
  | succ n ih =>
    rw [readUpTo, readUpTo, hread]
    rcases read s with ⟨fault | _ | c, t⟩
    · rfl
    · rfl
    · dsimp only
      rw [ih]

/-- Two sources of which reads give the same answer a call in the same way. -/
theorem call_of_commutes (hread : ∀ s, read (f s) = ((read s).1, f (read s).2))
    (hunread : ∀ xs s, unread xs (f s) = f (unread xs s)) (s : σ) (c : ReadCall) :
    call (f s) c = ((call s c).1, f (call s c).2) := by
  cases c with
  | char =>
    rw [call, call, hread]
    rcases read s with ⟨fault | c, t⟩ <;> rfl
  | chars most => rw [call, call, readUpTo_of_commutes hread]
  | unread xs => rw [call, call, hunread]

/-- So they answer any calls in the same way. -/
theorem calls_of_commutes (hread : ∀ s, read (f s) = ((read s).1, f (read s).2))
    (hunread : ∀ xs s, unread xs (f s) = f (unread xs s)) (s : σ) (cs : List ReadCall) :
    calls (f s) cs = ((calls s cs).1, f (calls s cs).2) := by
  induction cs generalizing s with
  | nil => rfl
  | cons c cs ih =>
    rw [calls_cons, calls_cons, call_of_commutes hread hunread]
    dsimp only
    rw [ih]

end Commuting

end CharSource

/-! ## Lists of characters -/

/-- An **ideal source**: a list of characters, and the failures that are met before its end. -/
structure IdealSource where
  text : Text
  faults : List IoFault
  deriving DecidableEq, Repr

namespace IdealSource

/-- How a call on an ideal source is **answered**, and the ideal source after it. Each failure is met
once, at any time before the end, and takes nothing from the list. -/
inductive Answers : IdealSource → ReadCall → ReadAnswer → IdealSource → Prop
  | char (c : Char) (text : Text) (faults : List IoFault) :
      Answers ⟨c :: text, faults⟩ .char ⟨[c], none⟩ ⟨text, faults⟩
  /-- There is no next character only where nothing is left. -/
  | ended : Answers ⟨[], []⟩ .char ⟨[], none⟩ ⟨[], []⟩
  | charFailed (fault : IoFault) (text : Text) (faults : List IoFault) :
      Answers ⟨text, fault :: faults⟩ .char ⟨[], some fault⟩ ⟨text, faults⟩
  /-- Fewer characters than asked for are given only where nothing else is left. -/
  | chars (most : Nat) (text : Text) (faults : List IoFault)
      (h : most ≤ text.length ∨ faults = []) :
      Answers ⟨text, faults⟩ (.chars most) ⟨text.take most, none⟩ ⟨text.drop most, faults⟩
  | charsFailed (most : Nat) (found : Text) (fault : IoFault) (text : Text)
      (faults : List IoFault) (h : found.length < most) :
      Answers ⟨found ++ text, fault :: faults⟩ (.chars most) ⟨found, some fault⟩ ⟨text, faults⟩
  | unread (xs text : Text) (faults : List IoFault) :
      Answers ⟨text, faults⟩ (.unread xs) ⟨[], none⟩ ⟨xs ++ text, faults⟩

/-- How calls one after another are answered, and the ideal source after them. -/
inductive Follows : IdealSource → List ReadCall → List ReadAnswer → IdealSource → Prop
  | nil (s : IdealSource) : Follows s [] [] s
  | cons {s t u : IdealSource} {c : ReadCall} {cs : List ReadCall} {answer : ReadAnswer}
      {answers : List ReadAnswer} (h : s.Answers c answer t) (hs : t.Follows cs answers u) :
      Follows s (c :: cs) (answer :: answers) u

variable {s t : IdealSource} {c : ReadCall} {cs : List ReadCall} {answer : ReadAnswer}
  {answers : List ReadAnswer}

/-- Asking for one more character gives the first one and what the others give. -/
theorem Answers.chars_succ {text text' found : Text} {faults faults' : List IoFault} {most : Nat}
    {fault : Option IoFault} (x : Char)
    (h : Answers ⟨text, faults⟩ (.chars most) ⟨found, fault⟩ ⟨text', faults'⟩) :
    Answers ⟨x :: text, faults⟩ (.chars (most + 1)) ⟨x :: found, fault⟩ ⟨text', faults'⟩ := by
  cases h with
  | chars most text faults h =>
    exact .chars (most + 1) (x :: text) faults (h.imp_left Nat.succ_le_succ)
  | charsFailed most found fault text faults h =>
    exact .charsFailed (most + 1) (x :: found) fault text' faults' (Nat.succ_lt_succ h)

/-- An answer tells whether a failure was met, and which. -/
theorem Answers.faults_eq (h : s.Answers c answer t) :
    s.faults = answer.fault.toList ++ t.faults := by
  cases h <;> rfl

/-- **Each failure is met once**, in order: those that the answers tell of come before those that are
still to be met. -/
theorem Follows.faults_eq (h : s.Follows cs answers t) :
    answers.filterMap ReadAnswer.fault ++ t.faults = s.faults := by
  induction h with
  | nil s => rfl
  | @cons s t u c cs answer answers h hs ih =>
    rw [h.faults_eq, ← ih, List.filterMap_cons]
    cases answer.fault <;> rfl

/-- A source without failures, asked for no more than was given, gives the same characters. -/
theorem Answers.call_calmed {σ : Type} [CharSource σ] {source : σ} (h : s.Answers c answer t)
    (hsource : Holds source s.text) :
    ∃ after, call source (answer.shortened c) = (answer.calmed, after) ∧ Holds after t.text := by
  cases h with
  | char c text faults =>
    obtain ⟨after, hread, hafter⟩ := hsource.read_cons
    exact ⟨after, by rw [ReadAnswer.shortened, call, hread]; rfl, hafter⟩
  | ended =>
    obtain ⟨after, hread, hafter⟩ := hsource.read_nil
    exact ⟨after, by rw [ReadAnswer.shortened, call, hread]; rfl, hafter⟩
  | charFailed fault text faults => exact ⟨source, rfl, hsource⟩
  | chars most text faults h =>
    obtain ⟨after, hread, hafter⟩ := hsource.readUpTo most
    exact ⟨after, by rw [ReadAnswer.shortened, call, hread]; rfl, hafter⟩
  | charsFailed most found fault text faults h =>
    obtain ⟨after, hread, hafter⟩ := hsource.readUpTo found.length
    rw [List.take_left] at hread
    rw [List.drop_left] at hafter
    exact ⟨after, by rw [ReadAnswer.shortened, call, hread]; rfl, hafter⟩
  | unread xs text faults => exact ⟨CharSource.unread xs source, rfl, hsource.unread xs⟩

/-- **Failures lose nothing**: a source without failures that is asked, in place of each call that
failed, for no more than that call gave, gives the same characters. -/
theorem Follows.calls_calmed {σ : Type} [CharSource σ] {source : σ} (h : s.Follows cs answers t)
    (hsource : Holds source s.text) :
    ∃ after, calls source (cs.zipWith (fun c answer => answer.shortened c) answers) =
      (answers.map ReadAnswer.calmed, after) ∧ Holds after t.text := by
  induction h generalizing source with
  | nil s => exact ⟨source, rfl, hsource⟩
  | cons h hs ih =>
    obtain ⟨next, hcall, hnext⟩ := h.call_calmed hsource
    obtain ⟨after, hcalls, hafter⟩ := ih hnext
    refine ⟨after, ?_, hafter⟩
    rw [List.zipWith_cons_cons, calls_cons, hcall]
    dsimp only
    rw [hcalls]
    rfl

end IdealSource

/-! ## Byte readers -/

namespace ReadStep

/-- The bytes that a step delivers. -/
def bytes : ReadStep → Bytes
  | .chunk bytes => bytes
  | .fail _ | .interrupt => []

/-- The failure of a step that fails. -/
def fault? : ReadStep → Option IoFault
  | .fail fault => some fault
  | .chunk _ | .interrupt => none

end ReadStep

namespace ByteReader

/-- The steps before the first one that delivers nothing, which ends the input. -/
def live (r : ByteReader) : ByteReader :=
  r.takeWhile (· ≠ .chunk [])

/-- The byte reader without its interruptions. -/
def withoutInterrupts (r : ByteReader) : ByteReader :=
  r.filter (· ≠ .interrupt)

/-- The bytes that are delivered are those of the live steps. -/
theorem bytes_eq_flatMap (r : ByteReader) : bytes r = r.live.flatMap ReadStep.bytes := by
  fun_induction bytes r with
  | case1 => rfl
  | case2 rest => rfl
  | case3 b bs rest ih => rw [ih]; rfl
  | case4 fault rest ih => rw [ih]; rfl
  | case5 rest ih => rw [ih]; rfl

/-- The failures before the end of the input. -/
def failures (r : ByteReader) : List IoFault :=
  r.live.filterMap ReadStep.fault?

/-- What a read call does to the failures still to come. -/
theorem failures_read (r : ByteReader) :
    match read r with
    | (.delivered [], _) => failures r = []
    | (.delivered (_ :: _), t) => failures r = failures t
    | (.failed fault, t) => failures r = fault :: failures t
    | (.interrupted, t) => failures r = failures t := by
  match r with
  | [] => rfl
  | .chunk [] :: rest => rfl
  | .chunk (b :: bs) :: rest =>
    rw [read]
    cases hmore : (b :: bs).drop room with
    | nil => rfl
    | cons x xs => rfl
  | .fail fault :: rest => rfl
  | .interrupt :: rest => rfl

/-- Without interruptions, a read call gives what it gives after them. -/
theorem read_withoutInterrupts {r t : ByteReader} {outcome : ReadOutcome}
    (h : read r = (outcome, t)) (hne : outcome ≠ .interrupted) :
    read r.withoutInterrupts = (outcome, t.withoutInterrupts) := by
  match r with
  | [] =>
    cases h
    rfl
  | .chunk bytes :: rest =>
    rw [read] at h
    show read (.chunk bytes :: withoutInterrupts rest) = _
    rw [read]
    cases hmore : bytes.drop room with
    | nil =>
      rw [hmore] at h
      cases h
      rfl
    | cons x xs =>
      rw [hmore] at h
      cases h
      rfl
  | .fail fault :: rest =>
    cases h
    rfl
  | .interrupt :: rest =>
    cases h
    exact absurd rfl hne

/-- An interruption goes with the others. -/
theorem withoutInterrupts_of_read {r t : ByteReader} (h : read r = (.interrupted, t)) :
    r.withoutInterrupts = t.withoutInterrupts := by
  match r with
  | [] => cases h
  | .chunk bytes :: rest =>
    rw [read] at h
    split at h <;> cases h
  | .fail fault :: rest => cases h
  | .interrupt :: rest =>
    cases h
    rfl

end ByteReader

/-! ## Text readers -/

namespace TextReader

variable {d : Decoder}

/-- The failures that reads are still to meet. -/
def failures (s : TextReader d) : List IoFault :=
  if s.ended then [] else s.reader.failures

/-- The **ideal source** for which a text reader stands. -/
def ideal (s : TextReader d) : IdealSource :=
  ⟨TextReader.content s, s.failures⟩

/-- The failures that a read meets.

**Proof sketch.** Induction along the read, as for the content: only a read call that fails meets a
failure, and a read goes on after any other one. -/
theorem failures_read (s : TextReader d) :
    match TextReader.read s with
    | (.ok (some _), t) => s.failures = t.failures
    | (.ok none, t) => s.failures = [] ∧ t.failures = []
    | (.error fault, t) => s.failures = fault :: t.failures := by
  fun_induction TextReader.read s with
  | case1 s c cs hr => rfl
  | case2 s c cs hr hd => rfl
  | case3 s hd hr he => simp [failures, he]
  | case4 s hd hr he fault r h =>
    have hreader := ByteReader.failures_read s.reader
    rw [h] at hreader
    simpa [failures, he] using hreader
  | case5 s hd hr he r h ih =>
    have hreader := ByteReader.failures_read s.reader
    rw [h] at hreader
    have hsame : s.failures = failures { s with reader := r } := by
      simpa [failures, he] using hreader
    rw [hsame]
    exact ih
  | case6 s hd hr he r h hf =>
    have hreader := ByteReader.failures_read s.reader
    rw [h] at hreader
    simpa [failures, he] using hreader
  | case7 s hd hr he r h c cs hf =>
    have hreader := ByteReader.failures_read s.reader
    rw [h] at hreader
    simpa [failures, he] using hreader
  | case8 s hd hr he b bs r h ih =>
    have hreader := ByteReader.failures_read s.reader
    rw [h] at hreader
    have hsame : s.failures = failures (s.filled r (b :: bs)) := by
      simpa [filled_eq, failures, he] using hreader
    rw [hsame]
    exact ih

/-- **One read** takes the first character of the ideal source, finds that nothing is left, or meets
the next failure. -/
theorem ideal_read_cases (s : TextReader d) :
    (∃ c t, CharSource.read s = (.ok (some c), t) ∧
        s.ideal = ⟨c :: t.ideal.text, t.ideal.faults⟩) ∨
      (∃ t, CharSource.read s = (.ok none, t) ∧ s.ideal = ⟨[], []⟩ ∧ t.ideal = ⟨[], []⟩) ∨
      ∃ fault t, CharSource.read s = (.error fault, t) ∧
        s.ideal = ⟨t.ideal.text, fault :: t.ideal.faults⟩ := by
  have hfailures := failures_read s
  rcases hr : CharSource.read s with ⟨fault | _ | c, t⟩
  · rw [show TextReader.read s = _ from hr] at hfailures
    have hcontent : TextReader.content s = TextReader.content t := (read_error hr).1
    refine Or.inr (Or.inr ⟨fault, t, rfl, ?_⟩)
    rw [ideal, hcontent, hfailures]
    rfl
  · rw [show TextReader.read s = _ from hr] at hfailures
    have hcontent : TextReader.content s = [] ∧ TextReader.content t = [] :=
      ⟨(read_none hr).1, (read_none hr).2.1⟩
    refine Or.inr (Or.inl ⟨t, rfl, ?_⟩)
    rw [ideal, ideal, hcontent.1, hcontent.2, hfailures.1, hfailures.2]
    exact ⟨rfl, rfl⟩
  · rw [show TextReader.read s = _ from hr] at hfailures
    have hcontent : TextReader.content s = c :: TextReader.content t := (read_some hr).1
    refine Or.inl ⟨c, t, rfl, ?_⟩
    rw [ideal, hcontent, hfailures]
    rfl

/-- Reading ahead takes characters from the front of the ideal source.

**Proof sketch.** Induction on how many are asked for. Where the first read gives a character, the
others are asked for after it. -/
theorem answers_chars (s : TextReader d) (most : Nat) :
    s.ideal.Answers (.chars most) (call s (.chars most)).1 (call s (.chars most)).2.ideal := by
  induction most generalizing s with
  | zero => exact .chars 0 _ _ (Or.inl (Nat.zero_le _))
  | succ most ih =>
    rw [call, readUpTo]
    rcases ideal_read_cases s with ⟨c, t, hr, hs⟩ | ⟨t, hr, hs, ht⟩ | ⟨fault, t, hr, hs⟩
    · rw [hr, hs]
      exact (ih t).chars_succ c
    · rw [hr, hs]
      show IdealSource.Answers _ _ _ t.ideal
      rw [ht]
      exact .chars (most + 1) [] [] (Or.inr rfl)
    · rw [hr, hs]
      exact .charsFailed (most + 1) [] fault _ _ (Nat.succ_pos most)

/-- **One call** on a text reader is answered as one on the ideal source for which it stands. -/
theorem answers_call (s : TextReader d) (c : ReadCall) :
    s.ideal.Answers c (call s c).1 (call s c).2.ideal := by
  cases c with
  | char =>
    rw [call]
    rcases ideal_read_cases s with ⟨c, t, hr, hs⟩ | ⟨t, hr, hs, ht⟩ | ⟨fault, t, hr, hs⟩
    · rw [hr, hs]
      exact .char c _ _
    · rw [hr, hs]
      show IdealSource.Answers _ _ _ t.ideal
      rw [ht]
      exact .ended
    · rw [hr, hs]
      exact .charFailed fault _ _
  | chars most => exact answers_chars s most
  | unread xs =>
    have hpushed : (call s (.unread xs)).2.ideal = ⟨xs ++ s.ideal.text, s.ideal.faults⟩ := by
      have hcontent := content_unread xs s
      exact congrArg (IdealSource.mk · s.failures) hcontent
    rw [hpushed]
    exact .unread xs _ _

/-- **Any calls** on a text reader are answered as calls on the ideal source for which it stands. -/
theorem follows_calls (s : TextReader d) (cs : List ReadCall) :
    s.ideal.Follows cs (calls s cs).1 (calls s cs).2.ideal := by
  induction cs generalizing s with
  | nil => exact .nil _
  | cons c cs ih => exact .cons (answers_call s c) (ih _)

/-! ## Interruptions -/

/-- Where no character is pushed back or decoded, a read makes one read call and goes on after it,
unless that failed or found the end of the input. -/
theorem read_of_used_up {s : TextReader d} (hr : s.returned = []) (hd : s.decoded = [])
    (he : ¬s.ended) :
    TextReader.read s =
      match ByteReader.read s.reader with
      | (.failed fault, r) => (.error fault, { s with reader := r })
      | (.interrupted, r) => TextReader.read { s with reader := r }
      | (.delivered [], r) =>
        match (d.feedPiece true s.state []).1 with
        | [] => (.ok none, { s with reader := r, ended := true })
        | c :: cs => (.ok (some c), { s with reader := r, ended := true, decoded := cs })
      | (.delivered (b :: bs), r) => TextReader.read (s.filled r (b :: bs)) := by
  rw [TextReader.read]
  simp only [hr, hd, he, Bool.false_eq_true, if_false]
  rcases h : ByteReader.read s.reader with ⟨(_ | ⟨b, bs⟩) | fault | _, r⟩ <;> rfl

/-- The text reader whose byte reader is not interrupted. -/
def withoutInterrupts (s : TextReader d) : TextReader d :=
  { s with reader := s.reader.withoutInterrupts }

/-- It reads the same.

**Proof sketch.** Induction along the read. An interrupted read call is left out on one side, and any
other one has the same outcome on both. -/
theorem read_withoutInterrupts (s : TextReader d) :
    CharSource.read s.withoutInterrupts =
      ((CharSource.read s).1, (CharSource.read s).2.withoutInterrupts) := by
  show TextReader.read s.withoutInterrupts =
    ((TextReader.read s).1, (TextReader.read s).2.withoutInterrupts)
  fun_induction TextReader.read s with
  | case1 s c cs hr =>
    rw [TextReader.read]
    simp [withoutInterrupts, hr]
  | case2 s c cs hr hd =>
    rw [TextReader.read]
    simp [withoutInterrupts, hr, hd]
  | case3 s hd hr he =>
    rw [TextReader.read]
    simp [withoutInterrupts, hr, hd, he]
  | case4 s hd hr he fault r h =>
    rw [read_of_used_up (s := s.withoutInterrupts) hr hd he, withoutInterrupts,
      ByteReader.read_withoutInterrupts h ReadOutcome.noConfusion]
    rfl
  | case5 s hd hr he r h ih =>
    have hsame : s.withoutInterrupts = withoutInterrupts { s with reader := r } := by
      rw [withoutInterrupts, ByteReader.withoutInterrupts_of_read h]
      rfl
    rw [hsame]
    exact ih
  | case6 s hd hr he r h hf =>
    rw [read_of_used_up (s := s.withoutInterrupts) hr hd he, withoutInterrupts,
      ByteReader.read_withoutInterrupts h ReadOutcome.noConfusion]
    dsimp only
    rw [hf]
    rfl
  | case7 s hd hr he r h c cs hf =>
    rw [read_of_used_up (s := s.withoutInterrupts) hr hd he, withoutInterrupts,
      ByteReader.read_withoutInterrupts h ReadOutcome.noConfusion]
    dsimp only
    rw [hf]
    rfl
  | case8 s hd hr he b bs r h ih =>
    rw [read_of_used_up (s := s.withoutInterrupts) hr hd he, withoutInterrupts,
      ByteReader.read_withoutInterrupts h ReadOutcome.noConfusion]
    exact ih

end TextReader

/-- **A text reader is a list of characters**, whatever its byte reader does and whatever is asked of
it. The list is at first the decoding of all bytes that are delivered before the end of the input.

Calls are answered from the front of the list, and characters that are pushed back come first again.
Each failure before the end is reported once, in order. Interruptions do not show in the answers. And
if the failures were not there, a caller that asks for no more than what was given would be given the
same characters and have the same ones left.

**Proof sketch.** A read does to the characters and failures still to come what one on the list does,
so any calls do, by induction on them. Leaving out an interruption leaves out a read call that changes
nothing else. A reader without failures holds the same list, and on it the shortened calls are
answered in one way only. -/
theorem Charset.calls_ideal (charset : Charset) (input : ByteReader) (cs : List ReadCall) :
    let source : TextReader charset.decoder := .ofReader input
    let ideal : IdealSource :=
      ⟨charset.decode (input.live.flatMap ReadStep.bytes), input.live.filterMap ReadStep.fault?⟩
    let answers := (calls source cs).1
    let left := (calls source cs).2.ideal
    ideal.Follows cs answers left ∧
      answers.filterMap ReadAnswer.fault ++ left.faults = ideal.faults ∧
      (calls (.ofReader input.withoutInterrupts : TextReader charset.decoder) cs).1 = answers ∧
      ∃ after, calls (.ofReader input.withoutFaults : TextReader charset.decoder)
          (cs.zipWith (fun c answer => answer.shortened c) answers) =
        (answers.map ReadAnswer.calmed, after) ∧ Holds after left.text := by
  intro source ideal answers left
  have hideal : source.ideal = ideal := by
    show IdealSource.mk (charset.decode (ByteReader.bytes input)) input.failures = ideal
    rw [ByteReader.bytes_eq_flatMap]
    rfl
  have hfollows : ideal.Follows cs answers left := hideal ▸ TextReader.follows_calls source cs
  refine ⟨hfollows, hfollows.faults_eq, ?_, ?_⟩
  -- leaving out interruptions commutes with reading and with pushing back
  · have hcalls : (calls source.withoutInterrupts cs).1 = answers := by
      rw [calls_of_commutes TextReader.read_withoutInterrupts fun _ _ => rfl]
    exact hcalls
  -- without failures the source holds the whole list, from which the same answers are given
  · have hcalm : Holds (.ofReader input.withoutFaults : TextReader charset.decoder) ideal.text := by
      have hoffers : Offers True (.ofReader input.withoutFaults : TextReader charset.decoder) _ :=
        .ofReader fun _ => input.faults_withoutFaults
      rw [input.bytes_withoutFaults, input.bytes_eq_flatMap] at hoffers
      exact hoffers.holds trivial
    exact hfollows.calls_calmed hcalm

end Delimited
