import Delimited.Proofs.Record.Piece

set_option autoImplicit false
set_option relaxedAutoImplicit false

/-!
# The records of a text

A text is a sequence of records, which may be cut short by a newline that is not allowed. A parser
that reads a source gives the records of the text that the source holds, one after another, whether
it is asked for the next one, drops some, or parses all of them.

## Main definitions

* `Delimited.Grammar.front` — the first record of a text, and the text after it.
* `Delimited.Grammar.records` — all records of a text.
* `Delimited.Grammar.splitRecords` — the first few records of a text, and the text after them.
* `Delimited.Parser.At` — a parser stands at a text.

## Main results

* `Delimited.Grammar.records_eq_splitRecords` — splitting off records leaves the others.
* `Delimited.Parser.At.next`, `Delimited.Parser.At.skip` — the next record of a parser, given or
  dropped, is the first one of the text.
* `Delimited.Parser.parse_eq` — parsing a text gives its records, or the newline in it.
-/

namespace Delimited

open CharSource

namespace Grammar

variable {g : Grammar}

/-- A scan of a text never fails for want of input, and it comes to the end of the input only when
the text is used up. -/
theorem scan_text_cases (g : Grammar) (fields : List Text) (field : Text) (place : Place)
    (text : Text) :
    (∃ r rest, g.scan fields field place text = (.record r, rest)) ∨
      (∃ last, g.scan fields field place text = (.ended last, [])) ∨
      ∃ rest, g.scan fields field place text = (.newline, rest) := by
  fun_induction g.pieces place text generalizing fields field with
  | case1 place => exact Or.inr (Or.inl ⟨_, g.scan_nil fields field place⟩)
  | case2 place c cs ih =>
    rw [g.scan_cons]
    split_ifs
    · exact Or.inl ⟨_, _, rfl⟩
    · split
      · exact Or.inr (Or.inr ⟨_, rfl⟩)
      · exact ih _ _

/-! ## The first record -/

/-- What comes **first** in a text. -/
inductive Front where
  /-- A record, and the text after it. -/
  | record (record : Record) (rest : Text)
  /-- Nothing: the text is used up. -/
  | nothing
  /-- A newline that is not allowed. -/
  | newline
  deriving DecidableEq, Repr

/-- What comes first in a text: the record that a scan from its start finds. -/
def front (g : Grammar) (text : Text) : Front :=
  match g.scan [] [] .start text with
  | (.record r, rest) => .record r rest
  | (.ended (some r), rest) => .record r rest
  | (.ended none, _) => .nothing
  | (.failed _, _) => .nothing
  | (.newline, _) => .newline

/-- The text after a record is shorter. -/
theorem length_lt_of_front {text rest : Text} {r : Record} (h : g.front text = .record r rest) :
    rest.length < text.length := by
  have hscan := g.remaining_scan [] [] .start text
  rw [(Holds.refl _).remaining_eq, (Holds.refl _).remaining_eq] at hscan
  unfold front at h
  split at h
  · next heq =>
    rw [heq] at hscan
    cases h
    simpa using hscan
  · next heq =>
    rw [heq] at hscan
    cases h
    simpa [last?] using hscan
  · cases h
  · cases h
  · cases h

/-- A scan leaves an end of the text. -/
theorem scan_isSuffix (g : Grammar) (fields : List Text) (field : Text) (place : Place)
    (text : Text) : (g.scan fields field place text).2 <:+ text := by
  fun_induction g.pieces place text generalizing fields field with
  | case1 place => simp [g.scan_nil]
  | case2 place c cs ih =>
    have hrest : g.restAt place c cs <:+ c :: cs := List.drop_suffix _ _
    rw [g.scan_cons]
    split_ifs
    · exact hrest
    · split
      · exact hrest
      · exact (ih _ _).trans hrest

/-- The text after a record is an end of the text. -/
theorem isSuffix_of_front {text rest : Text} {r : Record} (h : g.front text = .record r rest) :
    rest <:+ text := by
  have hscan := g.scan_isSuffix [] [] .start text
  unfold front at h
  split at h <;> simp_all

/-- A used up text has no record. -/
theorem front_nil : g.front [] = .nothing := by
  rw [front, g.scan_nil]
  rfl

/-- A scan comes to a newline that is not allowed only if newlines are refused. -/
theorem scan_ne_newline (h : g.newlines ≠ .reject) (fields : List Text) (field : Text)
    (place : Place) (text rest : Text) : g.scan fields field place text ≠ (.newline, rest) := by
  fun_induction g.pieces place text generalizing fields field with
  | case1 place =>
    rw [g.scan_nil]
    intro h
    cases h
  | case2 place c cs ih =>
    rw [g.scan_cons]
    split_ifs
    · intro h
      cases h
    · cases hextend : g.extend? fields field place (g.pieceAt place c cs) with
      | none =>
        have hplain := fun x => pushPlain?_ne_none h field x (place = .plain true)
        unfold extend? at hextend
        split at hextend <;> simp_all
      | some next => exact ih _ _

/-- A newline that is not allowed comes first only if newlines are refused. -/
theorem front_ne_newline_of_ne_reject (h : g.newlines ≠ .reject) (text : Text) :
    g.front text ≠ .newline := by
  intro hfront
  unfold front at hfront
  split at hfront <;> try cases hfront
  next hscan => exact scan_ne_newline h _ _ _ _ _ hscan

/-- A grammar that keeps newlines refuses none. -/
theorem front_ne_newline (h : g.newlines = .preserve) (text : Text) : g.front text ≠ .newline :=
  front_ne_newline_of_ne_reject (by rw [h]; decide) text

/-! ## All records -/

/-- The **records** of a text up to its end, or up to a newline that is not allowed; and whether it
came to such a newline. -/
def records (g : Grammar) (text : Text) : List Record × Bool :=
  match _h : g.front text with
  | .record r rest => (r :: (records g rest).1, (records g rest).2)
  | .nothing => ([], false)
  | .newline => ([], true)
termination_by text.length
decreasing_by
  exact length_lt_of_front _h

/-- The records of a text that starts with one are that record and those of the rest. -/
theorem records_of_record {text rest : Text} {r : Record} (h : g.front text = .record r rest) :
    g.records text = (r :: (g.records rest).1, (g.records rest).2) := by
  rw [Grammar.records]
  split <;> simp_all

/-- A text at whose start there is nothing has no records. -/
theorem records_of_nothing {text : Text} (h : g.front text = .nothing) :
    g.records text = ([], false) := by
  rw [Grammar.records]
  split <;> simp_all

/-- A newline that is refused ends the records. -/
theorem records_of_newline {text : Text} (h : g.front text = .newline) :
    g.records text = ([], true) := by
  rw [Grammar.records]
  split <;> simp_all

/-- A used up text has no records. -/
theorem records_nil : g.records [] = ([], false) :=
  records_of_nothing front_nil

/-- A grammar that does not refuse newlines comes to the end of every text. -/
theorem records_snd_of_ne_reject (h : g.newlines ≠ .reject) (text : Text) :
    (g.records text).2 = false := by
  fun_induction g.records text with
  | case1 text r rest hfront ih => exact ih
  | case2 text hfront => rfl
  | case3 text hfront => exact absurd hfront (front_ne_newline_of_ne_reject h text)

/-- A grammar that keeps newlines comes to the end of every text. -/
theorem records_snd (h : g.newlines = .preserve) (text : Text) : (g.records text).2 = false :=
  records_snd_of_ne_reject (by rw [h]; decide) text

/-- The grammar that keeps newlines. -/
def lenient (g : Grammar) : Grammar :=
  { g with newlines := .preserve }

/-- The **first `n` records** of a text, and the text after them. There is no such text if there are
fewer records. -/
def splitRecords (g : Grammar) : Nat → Text → List Record × Option Text
  | 0, text => ([], some text)
  | n + 1, text =>
    match g.front text with
    | .record r rest => (r :: (splitRecords g n rest).1, (splitRecords g n rest).2)
    | _ => ([], none)

/-- Records are split off one after another. -/
theorem splitRecords_of_record {text rest : Text} {r : Record} (h : g.front text = .record r rest)
    (n : Nat) :
    g.splitRecords (n + 1) text = (r :: (g.splitRecords n rest).1, (g.splitRecords n rest).2) := by
  rw [splitRecords, h]

/-- No record is split off where there is nothing. -/
theorem splitRecords_of_nothing {text : Text} (h : g.front text = .nothing) (n : Nat) :
    g.splitRecords (n + 1) text = ([], none) := by
  rw [splitRecords, h]

/-- **Splitting off records**: they are the first ones of the text, and they are `n` unless the text
has fewer. -/
theorem records_eq_splitRecords (g : Grammar) (n : Nat) (text : Text) :
    match g.splitRecords n text with
    | (dropped, some rest) =>
      dropped.length = n ∧ (g.records text).1 = dropped ++ (g.records rest).1
    | (dropped, none) => dropped.length < n ∧ (g.records text).1 = dropped := by
  induction n generalizing text with
  | zero => exact ⟨rfl, rfl⟩
  | succ n ih =>
    cases hfront : g.front text with
    | record r rest =>
      rw [splitRecords_of_record hfront, records_of_record hfront]
      have hrest := ih rest
      rcases hsplit : g.splitRecords n rest with ⟨dropped, _ | rest'⟩
      · rw [hsplit] at hrest
        obtain ⟨hlt, hrecords⟩ := hrest
        exact ⟨Nat.succ_lt_succ hlt, congrArg (r :: ·) hrecords⟩
      · rw [hsplit] at hrest
        obtain ⟨hlength, hrecords⟩ := hrest
        exact ⟨congrArg (· + 1) hlength, congrArg (r :: ·) hrecords⟩
    | nothing =>
      rw [splitRecords, hfront, records_of_nothing hfront]
      exact ⟨Nat.succ_pos n, rfl⟩
    | newline =>
      rw [splitRecords, hfront, records_of_newline hfront]
      exact ⟨Nat.succ_pos n, rfl⟩

end Grammar

/-! ## Parsers -/

namespace Parser

variable {σ : Type} [CharSource σ] {p : Parser} {s : σ} {text : Text}

/-- A parser **stands at** a text in a source: the source holds the text, of which nothing is left
if the parser is finished. -/
structure At (p : Parser) (s : σ) (text : Text) : Prop where
  holds : Holds s text
  finished : p.finished = true → text = []

/-- A new parser stands at the start of a text. -/
theorem At.start {g : Grammar} (h : Holds s text) : (ofGrammar g).At s text :=
  ⟨h, fun hfinished => absurd hfinished Bool.false_ne_true⟩

/-- **The next record** of a parser is the first one of the text at which it stands. -/
theorem At.next (h : p.At s text) :
    match p.grammar.front text with
    | .record r rest => ∃ b t, p.next s = (.ok (some r), ⟨p.grammar, p.records + 1, b⟩, t) ∧
        At ⟨p.grammar, p.records + 1, b⟩ t rest
    | .nothing => ∃ b t, p.next s = (.ok none, ⟨p.grammar, p.records, b⟩, t)
    | .newline => ∃ t, p.next s = (.error (.unquotedNewline (p.records + 1)), p, t) := by
  obtain ⟨g, n, b⟩ := p
  cases b with
  | true =>
    obtain rfl := h.finished rfl
    rw [Grammar.front_nil]
    exact ⟨true, s, rfl⟩
  | false =>
    obtain ⟨hres, hrest⟩ := h.holds.scan g [] [] .start
    rw [Parser.next, if_neg Bool.false_ne_true, Grammar.front]
    dsimp only
    rcases hscan : g.scan [] [] .start s with ⟨o, t⟩
    rw [hscan] at hres hrest
    rcases g.scan_text_cases [] [] .start text with ⟨r, rest, ht⟩ | ⟨last, ht⟩ | ⟨rest, ht⟩
    · rw [ht] at hres hrest ⊢
      obtain rfl : o = .record r := hres
      exact ⟨false, t, rfl, hrest, fun hfinished => absurd hfinished Bool.false_ne_true⟩
    · rw [ht] at hres hrest ⊢
      obtain rfl : o = .ended last := hres
      cases last with
      | some r => exact ⟨true, t, rfl, hrest, fun _ => rfl⟩
      | none => exact ⟨true, t, rfl⟩
    · rw [ht] at hres ⊢
      obtain rfl : o = .newline := hres
      exact ⟨t, rfl⟩

/-- **Dropping a record** goes on after the first record of the text, in which newlines are kept. -/
theorem At.skip (h : p.At s text) :
    match p.grammar.lenient.front text with
    | .record _ rest => ∃ b t, p.skip s = (.ok true, ⟨p.grammar, p.records + 1, b⟩, t) ∧
        At ⟨p.grammar, p.records + 1, b⟩ t rest
    | _ => ∃ b t, p.skip s = (.ok false, ⟨p.grammar, p.records, b⟩, t) := by
  have hlenient : At { p with grammar := p.grammar.lenient } s text := ⟨h.holds, h.finished⟩
  have hnext := hlenient.next
  have hskip : p.skip s =
      ((Parser.next { p with grammar := p.grammar.lenient } s).1.map Option.isSome,
        { (Parser.next { p with grammar := p.grammar.lenient } s).2.1 with grammar := p.grammar },
        (Parser.next { p with grammar := p.grammar.lenient } s).2.2) := rfl
  rw [hskip]
  cases hfront : p.grammar.lenient.front text with
  | record r rest =>
    rw [hfront] at hnext
    obtain ⟨b, t, heq, hat⟩ := hnext
    rw [heq]
    exact ⟨b, t, rfl, hat.holds, hat.finished⟩
  | nothing =>
    rw [hfront] at hnext
    obtain ⟨b, t, heq⟩ := hnext
    rw [heq]
    exact ⟨b, t, rfl⟩
  | newline => exact absurd hfront (Grammar.front_ne_newline rfl text)

/-- What an answer of the parser tells about the text at which it stands. -/
theorem At.next_cases {answer : Except Error (Option Record)} {q : Parser} {t : σ}
    (h : p.At s text) (hnext : p.next s = (answer, q, t)) :
    (∃ r rest, answer = .ok (some r) ∧ p.grammar.front text = .record r rest ∧ q.At t rest ∧
        q.grammar = p.grammar ∧ q.records = p.records + 1) ∨
      (answer = .ok none ∧ p.grammar.front text = .nothing) ∨
      (answer = .error (.unquotedNewline (p.records + 1)) ∧ p.grammar.front text = .newline) := by
  have hfirst := h.next
  cases hfront : p.grammar.front text with
  | record r rest =>
    rw [hfront, hnext] at hfirst
    obtain ⟨b, u, heq, hat⟩ := hfirst
    cases heq
    exact Or.inl ⟨r, rest, rfl, rfl, hat, rfl, rfl⟩
  | nothing =>
    rw [hfront, hnext] at hfirst
    obtain ⟨b, u, heq⟩ := hfirst
    cases heq
    exact Or.inr (Or.inl ⟨rfl, rfl⟩)
  | newline =>
    rw [hfront, hnext] at hfirst
    obtain ⟨u, heq⟩ := hfirst
    cases heq
    exact Or.inr (Or.inr ⟨rfl, rfl⟩)

/-- A record that the parser gives is the first one of the text, and the parser stands at the text
after it. -/
theorem At.of_next_record {q : Parser} {t : σ} {r : Record} (h : p.At s text)
    (hnext : p.next s = (.ok (some r), q, t)) :
    ∃ rest, p.grammar.front text = .record r rest ∧ q.At t rest ∧ q.grammar = p.grammar ∧
      q.records = p.records + 1 := by
  rcases h.next_cases hnext with ⟨r', rest, heq, hrest⟩ | ⟨heq, -⟩ | ⟨heq, -⟩
  · cases heq
    exact ⟨rest, hrest⟩
  · cases heq
  · cases heq

/-- The parser gives no record only where the text is used up. -/
theorem At.of_next_none {q : Parser} {t : σ} (h : p.At s text)
    (hnext : p.next s = (.ok none, q, t)) : p.grammar.front text = .nothing := by
  rcases h.next_cases hnext with ⟨r, rest, heq, -⟩ | ⟨-, hfront⟩ | ⟨heq, -⟩
  · cases heq
  · exact hfront
  · cases heq

/-- The parser fails only at a newline that is not allowed. -/
theorem At.of_next_error {q : Parser} {t : σ} {e : Error} (h : p.At s text)
    (hnext : p.next s = (.error e, q, t)) :
    p.grammar.front text = .newline ∧ e = .unquotedNewline (p.records + 1) := by
  rcases h.next_cases hnext with ⟨r, rest, heq, -⟩ | ⟨heq, -⟩ | ⟨heq, hfront⟩
  · cases heq
  · cases heq
  · cases heq
    exact ⟨hfront, rfl⟩

/-- Parsing goes on with the records of the text at which the parser stands.

**Proof sketch.** Induction along the parsing. Each record that the parser gives is the first one,
and it goes on at the text after it. -/
theorem parseAfter_eq (found : List Record) (p : Parser) (text : Text)
    (hfinished : p.finished = true → text = []) :
    (parseAfter found p text).1 =
      if (p.grammar.records text).2 then
        .error (.unquotedNewline (p.records + (p.grammar.records text).1.length + 1))
      else .ok (found.reverse ++ (p.grammar.records text).1) := by
  fun_induction parseAfter found p text with
  | case1 found p text r q rest hnext ih =>
    obtain ⟨rest', hfront, hat, hgrammar, hcount⟩ :=
      At.of_next_record ⟨.refl text, hfinished⟩ hnext
    obtain rfl := hat.holds.eq_text
    rw [ih hat.finished, hgrammar, hcount, Grammar.records_of_record hfront]
    simp [Nat.add_assoc, Nat.add_comm 1]
  | case2 found p text q rest hnext =>
    have hfront := At.of_next_none ⟨.refl text, hfinished⟩ hnext
    simp [Grammar.records_of_nothing hfront]
  | case3 found p text e q rest hnext =>
    obtain ⟨hfront, rfl⟩ := At.of_next_error ⟨.refl text, hfinished⟩ hnext
    simp [Grammar.records_of_newline hfront]

/-- **Parsing a text** gives its records, unless there is a newline that is not allowed. -/
theorem parse_eq (g : Grammar) (text : Text) :
    ((ofGrammar g).parse text).1 =
      if (g.records text).2 then .error (.unquotedNewline ((g.records text).1.length + 1))
      else .ok (g.records text).1 := by
  rw [parse, parseAfter_eq [] (ofGrammar g) text fun h => absurd h Bool.false_ne_true]
  simp [ofGrammar]

end Parser

end Delimited
