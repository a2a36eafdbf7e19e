import Delimited.Proofs.Record.Records

set_option autoImplicit false
set_option relaxedAutoImplicit false

/-!
# Texts in turn

A parser can be given several texts, one after another. It counts records on from text to text, and
where it stopped at a newline in an earlier text plays no part in the next one. But once it came to
the end of a text, it takes its input for ended, and reads nothing of the texts after that.

## Main definitions

* `Delimited.Parser.parseEach` — what a parser gives for texts in turn.
* `Delimited.Parser.parseAnew` — what new parsers give for them, with records counted on.
* `Delimited.Parser.unread` — the texts that come after an end.

## Main results

* `Delimited.Parser.parse_of_unfinished` — one text, parsed by a parser that met no end.
* `Delimited.Parser.parseEach_eq` — texts in turn, up to an end and after it.
* `Delimited.Parser.parseEach_eq_parseAnew_iff` — a parser does as new ones just where nothing is
  left unread.
-/

namespace Delimited

namespace Grammar

variable {g : Grammar}

/-- A scan that comes to the end of the input finds no record only if there was nothing to read. -/
theorem eq_nil_of_scan {fields : List Text} {field : Text} {place : Place} {text rest : Text}
    (h : g.scan fields field place text = (.ended none, rest)) :
    text = [] ∧ place = .start ∧ fields = [] := by
  fun_induction g.pieces place text generalizing fields field with
  | case1 place =>
    have hlast : last? fields field place = none :=
      Scan.ended.inj (congrArg Prod.fst ((g.scan_nil fields field place).symm.trans h))
    refine ⟨rfl, ?_⟩
    unfold last? at hlast
    split_ifs at hlast with hstart
    exact hstart
  | case2 place c cs ih =>
    exfalso
    rw [scan_cons] at h
    split_ifs at h with hends
    · cases h
    · cases hextend : g.extend? fields field place (g.pieceAt place c cs) with
      | none =>
        rw [hextend] at h
        cases h
      | some next =>
        rw [hextend] at h
        obtain ⟨-, hplace, hfields⟩ := ih h
        obtain ⟨fields', field'⟩ := next
        -- only a column delimiter leads to the start of a field, and it completes one
        unfold extend? at hextend
        cases hpiece : g.pieceAt place c cs <;>
          simp_all [Piece.place, Piece.endsRecord, pushField]

/-- A text has no records, and no newline that is refused, only if it is empty. -/
theorem records_eq_nil_iff {text : Text} : g.records text = ([], false) ↔ text = [] := by
  constructor
  · intro h
    cases hfront : g.front text with
    | record r rest =>
      rw [records_of_record hfront] at h
      cases h
    | nothing =>
      unfold front at hfront
      split at hfront
      · cases hfront
      · cases hfront
      · next hscan => exact (eq_nil_of_scan hscan).1
      · next hscan =>
        rcases g.scan_text_cases [] [] .start text with ⟨r, t, hr⟩ | ⟨last, hr⟩ | ⟨t, hr⟩ <;>
          rw [hscan] at hr <;> cases hr
      · cases hfront
    | newline =>
      rw [records_of_newline hfront] at h
      cases h
  · rintro rfl
    exact records_nil

end Grammar

/-- The error, where the number of a record is counted on from `n` earlier ones. -/
def Error.countedFrom (n : Nat) : Error → Error
  | .unquotedNewline record => .unquotedNewline (n + record)
  | e => e

namespace Parser

variable {p : Parser} {text : Text}

/-! ## One text -/

/-- A parser that gives no record takes its input for ended. -/
theorem finished_of_next_none {σ : Type} [CharSource σ] {s t : σ} {q : Parser}
    (h : p.next s = (.ok none, q, t)) : q.finished = true := by
  unfold next at h
  split at h
  · next hfinished =>
    cases h
    exact hfinished
  · split at h <;> cases h
    rfl

/-- After parsing a text, the records are counted, and the input is taken for ended unless there was a
newline that is refused.

**Proof sketch.** Induction along the parsing. A parser at such a newline did not come to an end
before, since nothing is left of the text there. -/
theorem parseAfter_snd (found : List Record) (p : Parser) (text : Text)
    (hfinished : p.finished = true → text = []) :
    (parseAfter found p text).2 =
      ⟨p.grammar, p.records + (p.grammar.records text).1.length, !(p.grammar.records text).2⟩ := by
  fun_induction parseAfter found p text with
  | case1 found p text r q rest hnext ih =>
    obtain ⟨rest', hfront, hat, hgrammar, hcount⟩ :=
      At.of_next_record ⟨.refl text, hfinished⟩ hnext
    obtain rfl := hat.holds.eq_text
    rw [ih hat.finished, hgrammar, hcount, Grammar.records_of_record hfront]
    simp [Nat.add_assoc, Nat.add_comm 1]
  | case2 found p text q rest hnext =>
    have hstands : p.At text text := ⟨.refl text, hfinished⟩
    have hfront := hstands.of_next_none hnext
    have hq := hstands.next
    rw [hfront, hnext] at hq
    obtain ⟨b, t, heq⟩ := hq
    obtain ⟨rfl, -⟩ := Prod.mk.inj (Prod.mk.inj heq).2
    obtain rfl : b = true := finished_of_next_none hnext
    rw [Grammar.records_of_nothing hfront]
    rfl
  | case3 found p text e q rest hnext =>
    have hstands : p.At text text := ⟨.refl text, hfinished⟩
    obtain ⟨hfront, -⟩ := hstands.of_next_error hnext
    have hq := hstands.next
    rw [hfront, hnext] at hq
    obtain ⟨t, heq⟩ := hq
    obtain ⟨rfl, -⟩ := Prod.mk.inj (Prod.mk.inj heq).2
    have hgoes : q.finished = false := by
      rw [Bool.eq_false_iff]
      intro hq
      rw [hfinished hq, Grammar.front_nil] at hfront
      cases hfront
    rw [Grammar.records_of_newline hfront]
    show q = ⟨q.grammar, q.records, false⟩
    rw [← hgoes]

/-- **A parser that met no end** parses a text as a new one does, with records counted on, and then
met an end unless there was an error. -/
theorem parse_of_unfinished (h : p.finished = false) (text : Text) :
    p.parse text =
      (((ofGrammar p.grammar).parse text).1.mapError (Error.countedFrom p.records),
        ⟨p.grammar, p.records + ((ofGrammar p.grammar).parse text).2.records,
          ((ofGrammar p.grammar).parse text).1.isOk⟩) := by
  have hgoes : p.finished = true → text = [] := fun hfinished => by simp [h] at hfinished
  have hnew : (ofGrammar p.grammar).finished = true → text = [] :=
    fun hfinished => by simp [ofGrammar] at hfinished
  refine Prod.ext ?_ ?_
  · rw [parse, parseAfter_eq [] p text hgoes, parse_eq]
    cases (p.grammar.records text).2 <;> simp [Except.mapError, Error.countedFrom, Nat.add_assoc]
  · rw [parse_eq, parse, parse, parseAfter_snd [] p text hgoes, parseAfter_snd [] _ text hnew]
    cases (p.grammar.records text).2 <;> simp [ofGrammar, Except.isOk, Except.toBool]

/-- A new parser counts the records of the text. -/
theorem records_parse (g : Grammar) (text : Text) :
    ((ofGrammar g).parse text).2.records = (g.records text).1.length := by
  rw [parse, parseAfter_snd [] _ text fun h => by cases h]
  exact Nat.zero_add _

/-- **After an end** a parser reads nothing of a text. -/
theorem parse_of_finished (h : p.finished = true) (text : Text) : p.parse text = (.ok [], p) := by
  have hnext : p.next text = (.ok none, p, text) := if_pos h
  rw [parse, parseAfter]
  split <;> simp_all

/-- Changing errors leaves the results that are none. -/
theorem mapError_eq_ok {α : Type} {x : Except Error α} {f : Error → Error} {a : α} :
    x.mapError f = .ok a ↔ x = .ok a := by
  cases x <;> simp [Except.mapError]

/-- A new parser gives no records, and no error, only for an empty text. -/
theorem parse_eq_nil_iff {g : Grammar} : ((ofGrammar g).parse text).1 = .ok [] ↔ text = [] := by
  rw [parse_eq, ← Grammar.records_eq_nil_iff (g := g)]
  rcases g.records text with ⟨rs, _ | _⟩ <;> simp

/-! ## Several texts -/

/-- What a parser gives for **texts in turn**: for each of them the records or the error, and how many
records were found up to there. -/
def parseEach : Parser → List Text → List (Except Error (List Record) × Nat)
  | _, [] => []
  | p, text :: texts =>
    ((p.parse text).1, (p.parse text).2.records) :: (p.parse text).2.parseEach texts

/-- How many records **new parsers** find in texts, one parser for each, counted on from `n`. -/
def countAnew (g : Grammar) (n : Nat) (texts : List Text) : Nat :=
  texts.foldl (fun n text => n + ((ofGrammar g).parse text).2.records) n

/-- What **new parsers** give for texts, one parser for each, with the records counted on from
`n`. -/
def parseAnew (g : Grammar) : Nat → List Text → List (Except Error (List Record) × Nat)
  | _, [] => []
  | n, text :: texts =>
    (((ofGrammar g).parse text).1.mapError (Error.countedFrom n), countAnew g n [text]) ::
      parseAnew g (countAnew g n [text]) texts

/-- The texts up to the first one that a new parser comes to the end of, and the texts after it. -/
def splitAtEnd (g : Grammar) : List Text → List Text × List Text
  | [] => ([], [])
  | text :: texts =>
    if ((ofGrammar g).parse text).1.isOk then ([text], texts)
    else (text :: (splitAtEnd g texts).1, (splitAtEnd g texts).2)

/-- The texts that a parser reads: those up to the first end. -/
def untilEnd (p : Parser) (texts : List Text) : List Text :=
  if p.finished then [] else (splitAtEnd p.grammar texts).1

/-- The texts that a parser leaves **unread**: those after an end. -/
def unread (p : Parser) (texts : List Text) : List Text :=
  if p.finished then texts else (splitAtEnd p.grammar texts).2

/-- The texts that are read and those that are left are all texts. -/
theorem untilEnd_append_unread (p : Parser) (texts : List Text) :
    p.untilEnd texts ++ p.unread texts = texts := by
  have hsplit : ∀ g, (splitAtEnd g texts).1 ++ (splitAtEnd g texts).2 = texts := by
    intro g
    fun_induction splitAtEnd g texts with
    | case1 => rfl
    | case2 text texts hok => rfl
    | case3 text texts hok ih => exact congrArg (text :: ·) ih
  unfold untilEnd unread
  split_ifs
  · rfl
  · exact hsplit p.grammar

/-- Texts after others are parsed with the count that these leave. -/
theorem parseAnew_append (g : Grammar) (n : Nat) (texts later : List Text) :
    parseAnew g n (texts ++ later) =
      parseAnew g n texts ++ parseAnew g (countAnew g n texts) later := by
  induction texts generalizing n with
  | nil => rfl
  | cons text texts ih => exact congrArg (_ :: ·) (ih _)

/-- New parsers give no records and no errors only for empty texts. -/
theorem parseAnew_eq_nothing_iff {g : Grammar} {n : Nat} {texts : List Text} :
    parseAnew g n texts = texts.map (fun _ => (.ok [], n)) ↔ ∀ text ∈ texts, text = [] := by
  have hcount : countAnew g n [[]] = n := by
    show n + ((ofGrammar g).parse []).2.records = n
    rw [records_parse, Grammar.records_nil]
    rfl
  induction texts with
  | nil => simp [parseAnew]
  | cons text texts ih =>
    rw [parseAnew, List.map_cons, List.cons.injEq, Prod.mk.injEq, mapError_eq_ok, parse_eq_nil_iff,
      List.forall_mem_cons]
    constructor
    · rintro ⟨⟨rfl, -⟩, htexts⟩
      rw [hcount] at htexts
      exact ⟨rfl, ih.1 htexts⟩
    · rintro ⟨rfl, htexts⟩
      rw [hcount]
      exact ⟨⟨rfl, rfl⟩, ih.2 htexts⟩

/-- After an end, a parser gives nothing more. -/
theorem parseEach_of_finished (h : p.finished = true) (texts : List Text) :
    p.parseEach texts = texts.map fun _ => (.ok [], p.records) := by
  induction texts with
  | nil => rfl
  | cons text texts ih => rw [parseEach, parse_of_finished h, ih, List.map_cons]

/-- **Texts in turn.** Up to the first end, a parser gives what new parsers give, with the records
counted on; after it, nothing.

**Proof sketch.** Induction on the texts. A parser that met no end parses the first one as a new one
does, and then met an end or not. -/
theorem parseEach_eq (p : Parser) (texts : List Text) :
    p.parseEach texts =
      parseAnew p.grammar p.records (p.untilEnd texts) ++
        (p.unread texts).map fun _ =>
          (.ok [], countAnew p.grammar p.records (p.untilEnd texts)) := by
  induction texts generalizing p with
  | nil => cases h : p.finished <;> simp [untilEnd, unread, h, splitAtEnd, parseEach, parseAnew]
  | cons text texts ih =>
    cases h : p.finished with
    | true =>
      rw [parseEach_of_finished h, untilEnd, unread, if_pos h, if_pos h]
      rfl
    | false =>
      have hgoes : ¬p.finished = true := by simp [h]
      rw [parseEach, parse_of_unfinished h, untilEnd, unread, if_neg hgoes, if_neg hgoes, splitAtEnd]
      cases hok : ((ofGrammar p.grammar).parse text).1.isOk with
      | true =>
        rw [if_pos rfl, parseEach_of_finished rfl]
        rfl
      | false =>
        rw [if_neg Bool.false_ne_true, ih]
        rfl

/-- **A parser does as new ones just where nothing is left unread.** Texts that are given in turn are
read as by new parsers up to the first end, with the records counted on. For the texts after it there
are no records and no errors, so that the answers are those of new parsers if and only if all of these
texts are empty. -/
theorem parseEach_eq_parseAnew_iff (p : Parser) (texts : List Text) :
    p.untilEnd texts ++ p.unread texts = texts ∧
      p.parseEach texts =
        parseAnew p.grammar p.records (p.untilEnd texts) ++
          ((p.unread texts).map fun _ =>
            (.ok [], countAnew p.grammar p.records (p.untilEnd texts))) ∧
      (p.parseEach texts = parseAnew p.grammar p.records texts ↔
        ∀ text ∈ p.unread texts, text = []) := by
  have hsplit := p.untilEnd_append_unread texts
  have hanew := parseAnew_append p.grammar p.records (p.untilEnd texts) (p.unread texts)
  rw [hsplit] at hanew
  refine ⟨hsplit, p.parseEach_eq texts, ?_⟩
  rw [p.parseEach_eq texts, hanew, List.append_cancel_left_eq, eq_comm, parseAnew_eq_nothing_iff]

/-- The second of two texts is not read, although a new parser finds a record in it. -/
theorem parseEach_ne_parseAnew_second :
    let d : Delimiters := ⟨['@', '@', '\n'], ['^', '|'], by decide, by decide⟩
    let g : Grammar := ⟨d, some '"', false, .preserve⟩
    (ofGrammar g).parseEach [['a'], ['b']] = [(.ok [[['a']]], 1), (.ok [], 1)] ∧
      parseAnew g 0 [['a'], ['b']] = [(.ok [[['a']]], 1), (.ok [[['b']]], 2)] ∧
      (ofGrammar g).parseEach [['a'], ['b']] ≠ parseAnew g 0 [['a'], ['b']] := by
  intro d g
  have heach : (ofGrammar g).parseEach [['a'], ['b']] = [(.ok [[['a']]], 1), (.ok [], 1)] := by
    decide +kernel
  have hanew : parseAnew g 0 [['a'], ['b']] = [(.ok [[['a']]], 1), (.ok [[['b']]], 2)] := by
    decide +kernel
  refine ⟨heach, hanew, ?_⟩
  rw [heach, hanew]
  decide

end Parser

end Delimited
