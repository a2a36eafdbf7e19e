import Delimited.Proofs.Record.Parallel

set_option autoImplicit false
set_option relaxedAutoImplicit false

/-!
# Fields with and without their quotes

Whether quotes are kept changes what the fields hold and nothing else: the pieces of a text are the
same. And nothing is lost by keeping them. A field without its quotes can be told from the field with
them alone: the quote that closes a quotation is the first one inside it that no other one follows, in
the field as in the text.

## Main definitions

* `Delimited.unquote` — a field without its quotes.
* `Delimited.Grammar.withQuotes` — a grammar that keeps quotes, or does not.
* `Delimited.Unquotes` — the two forms of a field so far, and what they promise about the whole field.

## Main results

* `Delimited.Unquotes.extend` — what a piece adds to both forms of a field.
* `Delimited.Grammar.parallel_withQuotes` — reading goes in parallel with quotes and without.
* `Delimited.Parser.parse_unquoted` — parsing without quotes is parsing with them and unquoting.
-/

namespace Delimited

/-! ## Unquoting -/

/-- What the rest of a text after an **opening quote** stands for. Two quotes together stand for one.
The first quote that stands alone closes the quotation, and what comes after it is kept as it is. -/
def withinQuotes (q : Char) : Text → Text
  | [] => []
  | [c] => if c = q then [] else [c]
  | c :: x :: rest =>
    if c = q then if x = q then q :: withinQuotes q rest else x :: rest
    else c :: withinQuotes q (x :: rest)

/-- A field **without its quotes**. One that does not begin with a quote has none. -/
def unquote (q : Char) : Text → Text
  | [] => []
  | c :: cs => if c = q then withinQuotes q cs else c :: cs

section Unquote

variable {q c : Char} {text : Text}

/-- Between quotes, any other character stays. -/
theorem withinQuotes_of_ne (h : c ≠ q) (text : Text) :
    withinQuotes q (c :: text) = c :: withinQuotes q text := by
  cases text with
  | nil => exact if_neg h
  | cons x rest => exact if_neg h

/-- Between quotes, two of them stand for one. -/
theorem withinQuotes_doubled (q : Char) (text : Text) :
    withinQuotes q (q :: q :: text) = q :: withinQuotes q text := by
  rw [withinQuotes, if_pos rfl, if_pos rfl]

/-- A single quote ends the quoting, and what follows stays. -/
theorem withinQuotes_closing (h : text.head? ≠ some q) : withinQuotes q (q :: text) = text := by
  cases text with
  | nil => exact if_pos rfl
  | cons x rest =>
    have hx : x ≠ q := fun hx => h (congrArg some hx)
    rw [withinQuotes, if_pos rfl, if_neg hx]

/-- A field that starts with a quote is quoted. -/
theorem unquote_opening (q : Char) (text : Text) : unquote q (q :: text) = withinQuotes q text :=
  if_pos rfl

/-- Any other field stays as it is. -/
theorem unquote_of_ne (h : c ≠ q) (text : Text) : unquote q (c :: text) = c :: text :=
  if_neg h

/-- A quote after the quotation is a character like any other. -/
example : unquote '"' ['"', 'a', '"', '"', '"', 'b', '"', '"'] = ['a', '"', 'b', '"', '"'] := by
  decide

end Unquote

/-! ## Both forms of a field -/

open Grammar

/-- The characters of a field so far with its quotes, and without them, both with the latest first;
the field goes on at a place, where `rest` is left of the text. **Whatever more** the field may have,
unquoting it gives the form without quotes. Outside quotes this is promised only for what the text can
have there: a quote only if the text goes on with one. -/
def Unquotes (q : Char) (kept dropped : Text) (place : Place) (rest : Text) : Prop :=
  match place with
  | .start => kept = [] ∧ dropped = []
  | .quoted => ∀ more, unquote q (kept.reverse ++ more) = dropped.reverse ++ withinQuotes q more
  | .plain _ => ∀ more, (more.head? = some q → rest.head? = some q) →
      unquote q (kept.reverse ++ more) = dropped.reverse ++ more

namespace Unquotes

variable {q c : Char} {kept dropped rest : Text} {place : Place}

/-- A field that ends here has its two forms. -/
theorem complete (h : Unquotes q kept dropped place rest) :
    unquote q kept.reverse = dropped.reverse := by
  cases place with
  | start =>
    obtain ⟨rfl, rfl⟩ := h
    rfl
  | quoted => simpa [withinQuotes] using h []
  | plain afterReturn => simpa using h []

/-- A quote that opens a quotation belongs to the field with quotes. -/
theorem opening (h : Unquotes q kept dropped .start rest) (later : Text) :
    Unquotes q (q :: kept) dropped .quoted later := by
  obtain ⟨rfl, rfl⟩ := h
  exact fun more => unquote_opening q more

/-- Another character inside quotes belongs to both forms. -/
theorem quoted (h : Unquotes q kept dropped .quoted rest) (hc : c ≠ q) (later : Text) :
    Unquotes q (c :: kept) (c :: dropped) .quoted later := by
  intro more
  have hmore := h (c :: more)
  rw [withinQuotes_of_ne hc] at hmore
  simpa using hmore

/-- Of two quotes inside quotes, one belongs to both forms. -/
theorem doubled (h : Unquotes q kept dropped .quoted rest) (later : Text) :
    Unquotes q (q :: q :: kept) (q :: dropped) .quoted later := by
  intro more
  have hmore := h (q :: q :: more)
  rw [withinQuotes_doubled] at hmore
  simpa using hmore

/-- A quote that closes a quotation belongs to the field with quotes. It can be told from one of two
since the text, and hence the field, does not go on with a quote. -/
theorem closing (h : Unquotes q kept dropped .quoted rest) {later : Text}
    (hlater : later.head? ≠ some q) (afterReturn : Bool) :
    Unquotes q (q :: kept) dropped (.plain afterReturn) later := by
  intro more hhead
  have hmore := h (q :: more)
  rw [withinQuotes_closing fun hq => hlater (hhead hq)] at hmore
  simpa using hmore

/-- Outside quotes, a character belongs to both forms. Where it begins the field, it is not a
quote. -/
theorem plain (h : Unquotes q kept dropped place (c :: rest)) (hplace : place ≠ .quoted)
    (hopen : ¬(place = .start ∧ c = q)) (afterReturn : Bool) (later : Text) :
    Unquotes q (c :: kept) (c :: dropped) (.plain afterReturn) later := by
  intro more _
  rw [List.reverse_cons, List.reverse_cons, List.append_assoc, List.append_assoc]
  cases place with
  | start =>
    obtain ⟨rfl, rfl⟩ := h
    exact unquote_of_ne (fun hc => hopen ⟨rfl, hc⟩) more
  | quoted => exact absurd rfl hplace
  -- the text goes on with `c` itself, so the promise covers `c` even if it is a quote
  | plain afterReturn => exact h (c :: more) fun hc => hc

end Unquotes

namespace Grammar

variable (g : Grammar)

/-- The grammar that **keeps quotes**, or does not. -/
def withQuotes (keep : Bool) : Grammar :=
  { g with keepQuotes := keep }

end Grammar

section Scans

variable {g : Grammar} {q c : Char} {kept dropped cs : Text} {place : Place}

/-- **What a piece adds** to both forms of a field, unless it ends the record.

**Proof sketch.** One case for each kind of piece. -/
theorem Unquotes.extend (hquote : g.quote = some q) (hnewlines : g.newlines = .preserve)
    (h : Unquotes q kept dropped place (c :: cs))
    (hgoes : (g.pieceAt place c cs).endsRecord = false) (fields : List Text) :
    ∃ fields' kept' dropped',
      (g.withQuotes true).extend? fields kept place (g.pieceAt place c cs) =
        some (fields', kept') ∧
      (g.withQuotes false).extend? (fields.map (unquote q)) dropped place (g.pieceAt place c cs) =
        some (fields'.map (unquote q), dropped') ∧
      Unquotes q kept' dropped' (g.pieceAt place c cs).place (g.restAt place c cs) := by
  by_cases hplace : place = .quoted
  · subst hplace
    by_cases hc : c = q
    · subst hc
      by_cases hnext : cs.head? = some c
      · obtain ⟨rest, rfl⟩ := List.head?_eq_some_iff.1 hnext
        rw [pieceAt_doubled hquote]
        exact ⟨fields, c :: c :: kept, c :: dropped, rfl, rfl, h.doubled _⟩
      · rw [restAt, pieceAt_closing hquote hnext]
        exact ⟨fields, c :: kept, dropped, rfl, rfl, h.closing hnext _⟩
    · have hother : g.quote ≠ some c := by
        rw [hquote]
        exact fun hq => hc (Option.some.inj hq).symm
      rw [pieceAt_quoted hother]
      exact ⟨fields, c :: kept, c :: dropped, rfl, rfl, h.quoted hc _⟩
  · by_cases hopen : place = .start ∧ g.quote = some c
    · obtain ⟨rfl, hc⟩ := hopen
      obtain rfl : c = q := Option.some.inj (hc.symm.trans hquote)
      rw [pieceAt_opening hc]
      exact ⟨fields, c :: kept, dropped, rfl, rfl, h.opening _⟩
    · rcases pieceAt_unquoted cs hplace hopen with ⟨hp, -⟩ | ⟨hp, -⟩ | ⟨hp, -⟩ | ⟨hp, -⟩
      · rw [hp] at hgoes
        cases hgoes
      · rw [hp]
        refine ⟨pushField fields kept, [], [], rfl, ?_, rfl, rfl⟩
        rw [extend?, pushField, pushField, List.map_cons, h.complete]
      · rw [hp] at hgoes
        cases hgoes
      -- newlines are kept, so that any character outside quotes is pushed as it is
      · have hpush : ∀ keep fields field, (g.withQuotes keep).extend? fields field place (.plain c) =
            some (fields, c :: field) := by
          intro keep fields field
          rw [extend?, pushPlain?_of_preserve (g := g.withQuotes keep) hnewlines]
          rfl
        have hstart : ¬(place = .start ∧ c = q) := by
          rintro ⟨hstart, rfl⟩
          exact hopen ⟨hstart, hquote⟩
        rw [hp]
        exact ⟨fields, c :: kept, c :: dropped, hpush _ _ _, hpush _ _ _,
          h.plain hplace hstart _ _⟩

namespace Grammar

/-- Reading with quotes and without them goes in parallel. -/
theorem parallel_withQuotes (hquote : g.quote = some q) (hnewlines : g.newlines = .preserve) :
    (g.withQuotes true).Parallel (g.withQuotes false) (unquote q) (Unquotes q) where
  delimiters_eq := rfl
  quote_eq := rfl
  complete h := h.complete
  extend h hgoes fields := h.extend hquote hnewlines hgoes fields

/-- So **all records** are the same, except that their fields are unquoted. -/
theorem records_withQuotes (hquote : g.quote = some q) (hnewlines : g.newlines = .preserve)
    (text : Text) :
    ((g.withQuotes false).records text).1 =
      ((g.withQuotes true).records text).1.map (List.map (unquote q)) :=
  congrArg Prod.fst ((parallel_withQuotes hquote hnewlines).records fun _ _ => ⟨rfl, rfl⟩)

end Grammar

end Scans

/-- **Parsing without quotes is parsing with them and unquoting.** Where newlines are kept, a text has
as many records and fields with quotes as without, and each field without quotes can be told from the
field with quotes alone. This holds for all delimiters, also if the quote stands in them or they begin
with it, and for quotations that the text does not close.

**Proof sketch.** Both parse the same pieces, so that they find the same records. -/
theorem Parser.parse_unquoted (d : Delimiters) (q : Char) (text : Text) :
    ∃ records,
      ((ofGrammar ⟨d, some q, true, .preserve⟩).parse text).1 = .ok records ∧
      ((ofGrammar ⟨d, some q, false, .preserve⟩).parse text).1 =
        .ok (records.map (List.map (unquote q))) := by
  have hrecords := Grammar.records_withQuotes (g := ⟨d, some q, true, .preserve⟩) rfl rfl text
  refine ⟨((Grammar.mk d (some q) true .preserve).records text).1, ?_, ?_⟩
  · rw [parse_eq, Grammar.records_snd rfl]
    rfl
  · rw [parse_eq, Grammar.records_snd rfl]
    exact congrArg Except.ok hrecords

end Delimited
