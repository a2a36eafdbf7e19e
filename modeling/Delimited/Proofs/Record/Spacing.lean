import Delimited.Proofs.Record.Marks
import Delimited.Proofs.Record.Parallel
import Delimited.Proofs.Text.Replacement

set_option autoImplicit false
set_option relaxedAutoImplicit false

/-!
# Newlines that become spaces

There are two ways to turn newlines into spaces: while records are read, where only newlines outside
quotes are touched, and afterwards, field by field. The first takes one character after another and
takes a carriage return back when a newline follows it; the second looks at a whole field. On a text
without quotes they give the same records, whatever the delimiters are.

## Main definitions

* `Delimited.SpacedAlike` — a field in the making with its newlines, and with spaces in their place.

## Main results

* `Delimited.Processor.spaced_append` — spaces are put in part by part.
* `Delimited.SpacedAlike.extend` — what a piece adds to both forms of a field.
* `Delimited.Parser.parse_spaced` — reading with spaces is putting them in afterwards.
-/

namespace Delimited

/-! ## Fields with spaces -/

namespace Processor

/-- A character other than a newline stays at the front, unless it goes with a newline. -/
theorem spaced_cons {c : Char} {rest : Text} (hc : c ≠ '\n')
    (hpair : ¬(c = '\r' ∧ rest.head? = some '\n')) : spaced (c :: rest) = c :: spaced rest := by
  rw [spaced]
  · rintro more rfl rfl
    exact hpair ⟨rfl, rfl⟩
  · exact hc

/-- **Spaces are put in part by part**, unless a carriage return is cut off from its newline.

**Proof sketch.** Induction along the first part. Only where a single character is left does it matter
what the second part begins with. -/
theorem spaced_append {s t : Text} (h : ¬(s.getLast? = some '\r' ∧ t.head? = some '\n')) :
    spaced (s ++ t) = spaced s ++ spaced t := by
  fun_induction spaced s with
  | case1 rest ih =>
    have hrest : ¬(rest.getLast? = some '\r' ∧ t.head? = some '\n') := fun hpair =>
      h ⟨by simp [List.getLast?_cons, hpair.1], hpair.2⟩
    exact congrArg (' ' :: ·) (ih hrest)
  | case2 rest ih =>
    have hrest : ¬(rest.getLast? = some '\r' ∧ t.head? = some '\n') := fun hpair =>
      h ⟨by simp [List.getLast?_cons, hpair.1], hpair.2⟩
    rw [List.cons_append, spaced, ih hrest, List.cons_append]
  | case3 c rest hpair hnewline ih =>
    have hrest : ¬(rest.getLast? = some '\r' ∧ t.head? = some '\n') := fun hpair =>
      h ⟨by simp [List.getLast?_cons, hpair.1], hpair.2⟩
    have hstays : ¬(c = '\r' ∧ (rest ++ t).head? = some '\n') := by
      rintro ⟨rfl, hhead⟩
      cases rest with
      | nil => exact h ⟨rfl, hhead⟩
      | cons x rest =>
        obtain rfl : x = '\n' := Option.some.inj hhead
        exact hpair rest rfl rfl
    rw [List.cons_append, spaced_cons hnewline hstays, ih hrest, List.cons_append]
  | case4 => rfl

end Processor

open Grammar Processor

/-! ## Both forms of a field -/

/-- The characters of a field outside quotes, with the newlines that it **has** and with **spaces** in
their place, both with the latest first. The place tells whether the first form ends with a carriage
return. -/
structure SpacedAlike (kept field : Text) (place : Place) : Prop where
  field_eq : spaced kept.reverse = field.reverse
  outside : place ≠ .quoted
  afterReturn : place = .plain true ↔ kept.head? = some '\r'

namespace SpacedAlike

variable {g : Grammar} {kept field cs : Text} {c : Char} {place : Place}

/-- A field begins with nothing in both forms. -/
theorem nil : SpacedAlike [] [] .start :=
  ⟨rfl, by decide, by simp⟩

/-- **A further character** outside quotes. A newline becomes a space in the second form, which then
loses the carriage return before it. -/
theorem push (h : SpacedAlike kept field place) (c : Char) :
    ∃ field', (g.withNewlines .space).pushPlain? field c (place = .plain true) = some field' ∧
      SpacedAlike (c :: kept) field' (.plain (c = '\r')) := by
  have halike : ∀ field' : Text, spaced (kept.reverse ++ [c]) = field'.reverse →
      SpacedAlike (c :: kept) field' (.plain (c = '\r')) :=
    fun field' hfield => ⟨by rwa [List.reverse_cons], by simp, by simp⟩
  have hlast : kept.reverse.getLast? = kept.head? := List.getLast?_reverse
  by_cases hc : c = '\n'
  · subst hc
    by_cases hreturn : place = .plain true
    · obtain ⟨more, rfl⟩ := List.head?_eq_some_iff.1 (h.afterReturn.1 hreturn)
      have hbefore : spaced more.reverse ++ ['\r'] = field.reverse := by
        rw [← h.field_eq, List.reverse_cons, spaced_append (by simp)]
        rfl
      refine ⟨' ' :: field.tail, by simp [Grammar.pushPlain?, withNewlines, hreturn], halike _ ?_⟩
      have htail : field.tail.reverse = spaced more.reverse := by
        rw [← List.dropLast_reverse, ← hbefore, List.dropLast_concat]
      rw [List.reverse_cons, List.reverse_cons, htail, List.append_assoc, spaced_append (by simp)]
      rfl
    · have hother : kept.head? ≠ some '\r' := fun hhead => hreturn (h.afterReturn.2 hhead)
      refine ⟨' ' :: field, by simp [Grammar.pushPlain?, withNewlines, hreturn], halike _ ?_⟩
      rw [spaced_append (by simp [hlast, hother]), h.field_eq, List.reverse_cons]
      rfl
  · refine ⟨c :: field, by simp [Grammar.pushPlain?, hc], halike _ ?_⟩
    rw [spaced_append (by simp [hc]), h.field_eq, List.reverse_cons, spaced_cons hc (by simp)]
    rfl

/-- **What a piece adds** to both forms of a field, unless it ends the record. A quote that does not
occur in the text does not matter, so that there are only delimiters and characters outside quotes. -/
theorem extend (h : SpacedAlike kept field place) (hc : g.quote ≠ some c)
    (hgoes : (g.pieceAt place c cs).endsRecord = false) (fields : List Text) :
    ∃ fields' kept' field',
      (g.withNewlines .preserve).extend? fields kept place (g.pieceAt place c cs) =
        some (fields', kept') ∧
      (g.withNewlines .space).extend? (fields.map spaced) field place (g.pieceAt place c cs) =
        some (fields'.map spaced, field') ∧
      SpacedAlike kept' field' (g.pieceAt place c cs).place := by
  rcases pieceAt_unquoted cs h.outside (fun hopen => hc hopen.2) with
    ⟨hp, -⟩ | ⟨hp, -⟩ | ⟨hp, -⟩ | ⟨hp, -⟩
  · rw [hp] at hgoes
    cases hgoes
  · rw [hp]
    refine ⟨pushField fields kept, [], [], rfl, ?_, nil⟩
    rw [extend?, pushField, pushField, List.map_cons, h.field_eq]
  · rw [hp] at hgoes
    cases hgoes
  · obtain ⟨field', hpush, hnext⟩ := h.push (g := g) c
    rw [hp]
    refine ⟨fields, c :: kept, field', ?_, ?_, hnext⟩
    · rw [extend?, pushPlain?_of_preserve (g := g.withNewlines .preserve) rfl]
      rfl
    · rw [extend?, hpush]
      rfl

end SpacedAlike

/-! ## Whole texts -/

namespace Grammar

variable {g : Grammar}

/-- Keeping newlines and putting spaces in their place goes in parallel, in a text without quotes. -/
theorem parallel_withNewlines :
    (g.withNewlines .preserve).Parallel (g.withNewlines .space) spaced
      fun kept field place text => SpacedAlike kept field place ∧ ∀ q ∈ g.quote, q ∉ text where
  delimiters_eq := rfl
  quote_eq := rfl
  complete h := h.1.field_eq
  extend {kept field place c cs} h hgoes fields := by
    have hc : g.quote ≠ some c := fun hq => h.2 c hq List.mem_cons_self
    obtain ⟨fields', kept', field', hkept, hspaced, hnext⟩ := h.1.extend hc hgoes fields
    refine ⟨fields', kept', field', hkept, hspaced, hnext, fun q hq hmem => h.2 q hq ?_⟩
    exact List.mem_of_mem_drop hmem

/-- **Reading with spaces** gives the records that are read with newlines, with spaces put in
afterwards. -/
theorem records_withNewlines_space {text : Text} (hquote : ∀ q ∈ g.quote, q ∉ text) :
    (g.withNewlines .space).records text =
      (((g.withNewlines .preserve).records text).1.map (List.map spaced),
        ((g.withNewlines .preserve).records text).2) :=
  parallel_withNewlines.records fun _ hrest =>
    ⟨.nil, fun q hq hmem => hquote q hq (hrest.subset hmem)⟩

end Grammar

/-- **The two ways to turn newlines into spaces agree without quotes.** If there is no quoting, or the
quote does not occur in the text, then a parser that reads newlines as spaces gives the records that
come out when the processor for newlines is run over those which a parser that keeps newlines gives.
This holds for all delimiters, also if they hold carriage returns or newlines themselves.

**Proof sketch.** Both parsers take the same pieces. -/
theorem Parser.parse_spaced (d : Delimiters) (quote : Option Char) (keepQuotes : Bool) (text : Text)
    (hquote : ∀ q ∈ quote, q ∉ text) :
    ∃ records spaced : List Record,
      ((ofGrammar ⟨d, quote, keepQuotes, .preserve⟩).parse text).1 = .ok records ∧
      ((ofGrammar ⟨d, quote, keepQuotes, .space⟩).parse text).1 = .ok spaced ∧
      newlineToSpace.outcomes newlineToSpace.start records = spaced.map .ok := by
  have hkept : ((Grammar.mk d quote keepQuotes .preserve).records text).2 = false :=
    Grammar.records_snd rfl text
  have hspaced : (Grammar.mk d quote keepQuotes .space).records text =
      (((Grammar.mk d quote keepQuotes .preserve).records text).1.map (List.map Processor.spaced),
        ((Grammar.mk d quote keepQuotes .preserve).records text).2) :=
    Grammar.records_withNewlines_space (g := ⟨d, quote, keepQuotes, .preserve⟩) hquote
  refine ⟨((Grammar.mk d quote keepQuotes .preserve).records text).1, _, ?_, ?_,
    (outcomes_pointwise (List.map Processor.spaced) () _).trans List.map_map.symm⟩
  · rw [parse_eq, hkept]
    rfl
  · rw [parse_eq, hspaced, hkept]
    rfl

/-- Here the delimiters hold newlines and carriage returns. The carriage returns at the ends of fields
stay, since the newlines after them belong to a row delimiter, whole or cut off by the end. -/
theorem Parser.parse_spaced_returns :
    let d : Delimiters := ⟨['\n', '\n'], ['\r', '|'], by decide, by decide⟩
    let text : Text := ['a', '\r', '\r', '\n', 'b', '\r', '|', '\n', 'c', '\r'] ++
      ['\n', '\n', '\r', '\n']
    let kept : List Record := [[['a', '\r', '\r', '\n', 'b'], ['\n', 'c', '\r']], [['\r']]]
    (∀ q ∈ some '"', q ∉ text) ∧
      ((ofGrammar ⟨d, some '"', false, .preserve⟩).parse text).1 = .ok kept ∧
      ((ofGrammar ⟨d, some '"', false, .space⟩).parse text).1 =
        .ok [[['a', '\r', ' ', 'b'], [' ', 'c', '\r']], [['\r']]] := by
  intro d text kept
  have hquote : ∀ q ∈ some '"', q ∉ text := by
    rintro q ⟨⟩
    decide
  have hkept : ((ofGrammar ⟨d, some '"', false, .preserve⟩).parse text).1 = .ok kept := by
    decide +kernel
  obtain ⟨records, spaced, hrecords, hspaced, houtcomes⟩ :=
    parse_spaced d (some '"') false text hquote
  obtain rfl := Except.ok.inj (hrecords.symm.trans hkept)
  have hprocessed : newlineToSpace.outcomes newlineToSpace.start kept =
      [[['a', '\r', ' ', 'b'], [' ', 'c', '\r']], [['\r']]].map .ok := rfl
  refine ⟨hquote, hkept, hspaced.trans (congrArg Except.ok ?_)⟩
  exact (List.map_inj_right fun _ _ => Except.ok.inj).1 (houtcomes.symm.trans hprocessed)

end Delimited
