import Delimited.Delimiters
import Delimited.Record.Format

set_option autoImplicit false
set_option relaxedAutoImplicit false

/-!
# Parsing records

A parser takes one record at a time from a character source. A field that begins with the quote is
quoted up to the next single quote; a doubled quote inside stands for one. Delimiters count outside
quotes only. What follows a closing quote belongs to the field, and there a quote is data, as it is
inside an unquoted field. The end of the input closes an open quote and ends the last record.

## Main definitions

* `Delimited.Grammar` — delimiters, quote and newline policy.
* `Delimited.Parser` — a grammar with the count of records so far.
* `Delimited.Parser.next`, `Delimited.Parser.skip` — the next record.
* `Delimited.Parser.parse` — the records of a text.

## Main results

* `Delimited.Parser.remaining_next` — a record, or an error, uses up some of the source.
-/

namespace Delimited

open CharSource

/-- A **grammar** says how records are read. -/
structure Grammar where
  delimiters : Delimiters
  /-- The quote, if there is quoting. -/
  quote : Option Char
  /-- Whether quotes are kept in the fields. -/
  keepQuotes : Bool
  newlines : NewlinePolicy

namespace Grammar

/-- Where in a field the next character stands. -/
inductive Place where
  /-- At the start. -/
  | start
  /-- Outside quotes; `afterReturn` tells whether a carriage return outside quotes comes just before
  it. -/
  | plain (afterReturn : Bool)
  /-- Inside quotes. -/
  | quoted
  deriving DecidableEq, Repr

/-- What a scan for a record found. -/
inductive Scan where
  /-- A record with its row delimiter. -/
  | record (record : Record)
  /-- The end of the input, and the record that it ends, if there is one. -/
  | ended (record : Option Record)
  /-- Reading failed. -/
  | failed (fault : IoFault)
  /-- There is a newline outside quotes, where none is allowed. -/
  | newline
  deriving DecidableEq, Repr

/-- The field, the latest character first, after a further character outside quotes, unless that is a
newline which is not allowed. -/
def pushPlain? (g : Grammar) (field : Text) (c : Char) (afterReturn : Bool) : Option Text :=
  if c ≠ '\n' then some (c :: field)
  else
    match g.newlines with
    | .preserve => some (c :: field)
    | .space => some (' ' :: if afterReturn then field.tail else field)
    | .reject => none

/-- The field, the latest character first, after a quote that opens or closes a quotation. -/
def pushQuote (g : Grammar) (field : Text) (q : Char) : Text :=
  if g.keepQuotes then q :: field else field

/-- The fields, the latest first, with one more that is complete. -/
def pushField (fields : List Text) (field : Text) : List Text :=
  field.reverse :: fields

/-- The record whose last field is complete. -/
def complete (fields : List Text) (field : Text) : Record :=
  (pushField fields field).reverse

/-- The record that the end of the input ends. There is none if it has no character at all. -/
def last? (fields : List Text) (field : Text) (place : Place) : Option Record :=
  if place = .start ∧ fields = [] then none else some (complete fields field)

variable {σ : Type} [CharSource σ]

/-- Scans for the end of a record, of which `fields` are complete, the latest first, and `field`
holds the characters of the next one, the latest first. -/
def scan (g : Grammar) (fields : List Text) (field : Text) (place : Place) (s : σ) : Scan × σ :=
  match _h : read s with
  | (.error e, t) => (.failed e, t)
  | (.ok none, t) => (.ended (last? fields field place), t)
  | (.ok (some c), t) =>
    if place = .quoted then
      if g.quote = some c then
        match _h2 : read t with
        | (.error e, u) => (.failed e, u)
        | (.ok none, u) => (.ended (last? fields (g.pushQuote field c) place), u)
        | (.ok (some x), u) =>
          if x = c then g.scan fields (g.pushQuote (c :: field) c) .quoted u
          else g.scan fields (g.pushQuote field c) (.plain false) (unread [x] u)
      else g.scan fields (c :: field) .quoted t
    else if place = .start ∧ g.quote = some c then g.scan fields (g.pushQuote field c) .quoted t
    else
      match (g.delimiters.probe c t).hit with
      | .error e => (.failed e, (g.delimiters.probe c t).source)
      | .ok .row =>
        (.record (complete fields field), (g.delimiters.probe c t).source)
      | .ok .column => g.scan (pushField fields field) [] .start (g.delimiters.probe c t).source
      | .ok .data =>
        match g.pushPlain? field c (place = .plain true) with
        | none => (.newline, (g.delimiters.probe c t).source)
        | some field =>
          g.scan fields field (.plain (c = '\r')) (g.delimiters.probe c t).source
termination_by remaining s
decreasing_by
  all_goals have h1 := remaining_read_some _h
  · have h2 := remaining_read_some _h2
    omega
  · have h2 := remaining_read_some _h2
    have h3 := remaining_unread [x] u
    simp only [List.length_cons, List.length_nil] at h3
    omega
  · omega
  · omega
  · have h2 := g.delimiters.remaining_probe_le c t
    omega
  · have h2 := g.delimiters.remaining_probe_le c t
    omega

/-- What a scan uses up. Only a scan that ends at the end of the input without a new record uses
nothing. -/
theorem remaining_scan (g : Grammar) (fields : List Text) (field : Text) (place : Place) (s : σ) :
    remaining (g.scan fields field place s).2 < remaining s ∨
      remaining (g.scan fields field place s).2 = remaining s ∧
        (g.scan fields field place s).1 = .ended (last? fields field place) := by
  fun_induction scan g fields field place s with
  | case1 fields field place s e t h =>
    exact Or.inl (by simp only [remaining_read_error h]; omega)
  | case2 fields field place s t h =>
    exact Or.inr ⟨(remaining_read_none h).symm, rfl⟩
  | case3 fields field s c t h hq e u h2 =>
    exact Or.inl (by simp only [remaining_read_some h, remaining_read_error h2]; omega)
  | case4 fields field s c t h hq u h2 =>
    exact Or.inl (by simp only [remaining_read_some h, remaining_read_none h2]; omega)
  | case5 fields field s t c u h2 h hq ih =>
    have h1 := remaining_read_some h
    have h2 := remaining_read_some h2
    omega
  | case6 fields field s c t h hq x u h2 hx ih =>
    have h1 := remaining_read_some h
    have h2 := remaining_read_some h2
    have h3 := remaining_unread [x] u
    simp only [List.length_cons, List.length_nil] at h3
    omega
  | case7 fields field s c t h hq ih =>
    have h1 := remaining_read_some h
    omega
  | case8 fields field place s c t h hplace hq ih =>
    have h1 := remaining_read_some h
    omega
  | case9 fields field place s c t h hplace hq e he =>
    have h1 := remaining_read_some h
    have h2 := g.delimiters.remaining_probe_le c t
    exact Or.inl (by simp only; omega)
  | case10 fields field place s c t h hplace hq he =>
    have h1 := remaining_read_some h
    have h2 := g.delimiters.remaining_probe_le c t
    exact Or.inl (by simp only; omega)
  | case11 fields field place s c t h hplace hq he ih =>
    have h1 := remaining_read_some h
    have h2 := g.delimiters.remaining_probe_le c t
    omega
  | case12 fields field place s c t h hplace hq he hp =>
    have h1 := remaining_read_some h
    have h2 := g.delimiters.remaining_probe_le c t
    exact Or.inl (by simp only; omega)
  | case13 fields field place s c t h hplace hq he next hp ih =>
    have h1 := remaining_read_some h
    have h2 := g.delimiters.remaining_probe_le c t
    omega

end Grammar

/-- A **parser**. -/
structure Parser where
  grammar : Grammar
  /-- How many records were found so far. -/
  records : Nat
  /-- Whether the end of an input was met. -/
  finished : Bool

namespace Parser

/-- A parser that has read nothing. -/
def ofGrammar (grammar : Grammar) : Parser := ⟨grammar, 0, false⟩

variable {σ : Type} [CharSource σ]

/-- The next record, or none at the end of the input. After that end there are no more records,
whatever the source. -/
def next (p : Parser) (s : σ) : Except Error (Option Record) × Parser × σ :=
  if p.finished then (.ok none, p, s)
  else
    match p.grammar.scan [] [] .start s with
    | (.record r, t) => (.ok (some r), { p with records := p.records + 1 }, t)
    | (.ended (some r), t) =>
      (.ok (some r), { p with records := p.records + 1, finished := true }, t)
    | (.ended none, t) => (.ok none, { p with finished := true }, t)
    | (.failed e, t) => (.error (.stream e), p, t)
    | (.newline, t) => (.error (.unquotedNewline (p.records + 1)), p, t)

/-- Drops the next record; newlines are allowed in it. Tells whether there was one. -/
def skip (p : Parser) (s : σ) : Except Error Bool × Parser × σ :=
  let lenient := { p with grammar := { p.grammar with newlines := .preserve } }
  let (result, q, t) := lenient.next s
  (result.map Option.isSome, { q with grammar := p.grammar }, t)

/-- Everything but the end of the input uses up some of the source. -/
theorem remaining_next (p : Parser) (s : σ) :
    remaining (p.next s).2.2 < remaining s ∨
      remaining (p.next s).2.2 = remaining s ∧ (p.next s).1 = .ok none := by
  rw [next]
  split
  · exact Or.inr ⟨rfl, rfl⟩
  · have h := p.grammar.remaining_scan [] [] .start s
    simp only [Grammar.last?, and_self, if_true] at h
    split <;> simp_all

/-- A record uses up some of the source. -/
theorem remaining_lt_of_next {p q : Parser} {s t : σ} {r : Record}
    (h : p.next s = (.ok (some r), q, t)) : remaining t < remaining s := by
  have := p.remaining_next s
  simp_all

/-- An error uses up some of the source. -/
theorem remaining_lt_of_next_error {p q : Parser} {s t : σ} {e : Error}
    (h : p.next s = (.error e, q, t)) : remaining t < remaining s := by
  have := p.remaining_next s
  simp_all

/-- The records up to the end of a text, after those in `found`, the latest first. -/
def parseAfter (found : List Record) (p : Parser) (text : Text) :
    Except Error (List Record) × Parser :=
  match _h : p.next text with
  | (.ok (some r), q, rest) => parseAfter (r :: found) q rest
  | (.ok none, q, _) => (.ok found.reverse, q)
  | (.error e, q, _) => (.error e, q)
termination_by remaining text
decreasing_by exact remaining_lt_of_next _h

/-- The **records of a text**, or the first error. -/
def parse (p : Parser) (text : Text) : Except Error (List Record) × Parser :=
  parseAfter [] p text

end Parser

end Delimited
