import Delimited.Config.Json
import Delimited.Proofs.Json.Rendering
import Mathlib.Data.List.Nodup
import Mathlib.Tactic.Common

set_option autoImplicit false
set_option relaxedAutoImplicit false

/-!
# The forms of a configuration

A configuration has one object with all its fields, and many other forms: fields that have their
default may be missing, fields with other keys may be added, and the fields come in any order, in the
configuration and in its dialects. All of them are read as the configuration.

## Main definitions

* `Delimited.Json.Trims`, `Delimited.Json.Presents` — an object gives some fields, up to what may be
  missing, added or moved.
* `Delimited.Dialect.Form`, `Delimited.Config.Form` — the forms of a dialect and of a configuration.
* `Delimited.Config.FitsWords` — every count fits in 64 bits.

## Main results

* `Delimited.Json.fields?_presents` — each field is found, or it is missing and has its default.
* `Delimited.Dialect.ofJson?_form` — every form of a dialect is read as the dialect.
* `Delimited.Config.ofJson?_form` — every form of a configuration is read as the configuration.
* `Delimited.Config.parse?_toJson_and_form` — so is the text of each of them.
-/

namespace Delimited

namespace Json

/-! ## Fields of an object -/

/-- The members of an object. -/
def members : Json → List (String × Json)
  | .object members => members
  | _ => []

/-- Of the fields `written` some are left, the others being the same in `standard`. -/
inductive Trims (standard : Json) : List (String × Json) → List (String × Json) → Prop
  | nil : Trims standard [] []
  | keep {m : String × Json} {written left : List (String × Json)}
      (h : Trims standard written left) : Trims standard (m :: written) (m :: left)
  | drop {m : String × Json} {written left : List (String × Json)}
      (hm : standard.member? m.1 = some m.2) (h : Trims standard written left) :
      Trims standard (m :: written) left

/-- The members `given` **present** the fields `written` of a value. A field may be missing if it is
the same in `standard`; members with other keys may be added; and the order does not matter. -/
def Presents (standard : Json) (written given : List (String × Json)) : Prop :=
  ∃ left others : List (String × Json), Trims standard written left ∧
    (∀ m ∈ others, m.1 ∉ written.map Prod.fst) ∧ given.Perm (left ++ others)

/-- What a field is read from: it is there, or it is missing and the same in `standard`. -/
def Slot (standard : Json) (m : String × Json) (slot : Option Json) : Prop :=
  slot = some m.2 ∨ slot = none ∧ standard.member? m.1 = some m.2

variable {standard : Json} {written left given wanted : List (String × Json)} {m : String × Json}

/-- All fields may be kept. -/
theorem Trims.refl (standard : Json) (written : List (String × Json)) :
    Trims standard written written := by
  induction written with
  | nil => exact .nil
  | cons m written ih => exact .keep ih

/-- The fields that are left are some of those written, in their order. -/
theorem Trims.sublist (h : Trims standard written left) : left.Sublist written := by
  induction h with
  | nil => exact .slnil
  | keep _ ih => exact ih.cons_cons _
  | drop _ _ ih => exact ih.cons _

/-- Each field is left, or the same in `standard`. -/
theorem Trims.mem_or (h : Trims standard written left) (hm : m ∈ written) :
    m ∈ left ∨ standard.member? m.1 = some m.2 := by
  induction h with
  | nil => cases hm
  | keep _ ih =>
    rcases List.mem_cons.1 hm with rfl | hm
    · exact .inl List.mem_cons_self
    · exact (ih hm).imp_left (List.mem_cons_of_mem _)
  | drop hstandard _ ih =>
    rcases List.mem_cons.1 hm with rfl | hm
    · exact .inr hstandard
    · exact ih hm

/-- The fields present themselves. -/
theorem Presents.refl (standard : Json) (written : List (String × Json)) :
    Presents standard written written :=
  ⟨written, [], .refl _ _, by simp, by simp⟩

/-- A key that no member has finds none. -/
theorem filter_key_of_ne {key : String} (h : ∀ x ∈ given, x.1 ≠ key) :
    given.filter (·.1 = key) = [] := by
  refine List.filter_eq_nil_iff.2 fun x hx => ?_
  simpa using h x hx

/-- Among members with different keys, a key finds its member. -/
theorem filter_key_of_mem (hkeys : (written.map Prod.fst).Nodup) (hm : m ∈ written) :
    written.filter (·.1 = m.1) = [m] := by
  induction written with
  | nil => cases hm
  | cons x xs ih =>
    rw [List.map_cons, List.nodup_cons] at hkeys
    rcases List.mem_cons.1 hm with rfl | hm
    · have hothers : ∀ y ∈ xs, y.1 ≠ m.1 := fun y hy h => hkeys.1 (h ▸ List.mem_map_of_mem hy)
      rw [List.filter_cons_of_pos (by simp), filter_key_of_ne hothers]
    · have hne : x.1 ≠ m.1 := fun h => hkeys.1 (h ▸ List.mem_map_of_mem hm)
      rw [List.filter_cons_of_neg (by simpa using hne), ih hkeys.2 hm]

/-- The members given with the key of a field are the field, or none if it may be missing. -/
theorem filter_key_of_presents (h : Presents standard written given)
    (hkeys : (written.map Prod.fst).Nodup) (hm : m ∈ written) :
    given.filter (·.1 = m.1) = [m] ∨
      given.filter (·.1 = m.1) = [] ∧ standard.member? m.1 = some m.2 := by
  obtain ⟨left, others, htrims, hothers, hperm⟩ := h
  have hleftKeys : (left.map Prod.fst).Nodup := hkeys.sublist (htrims.sublist.map _)
  have hother : ∀ x ∈ others, x.1 ≠ m.1 :=
    fun x hx h => hothers x hx (h ▸ List.mem_map_of_mem hm)
  have hfilter : (given.filter (·.1 = m.1)).Perm (left.filter (·.1 = m.1)) := by
    simpa [filter_key_of_ne hother] using hperm.filter (·.1 = m.1)
  by_cases hmem : m ∈ left
  · rw [filter_key_of_mem hleftKeys hmem] at hfilter
    exact .inl (List.perm_singleton.1 hfilter)
  · have hnone : ∀ x ∈ left, x.1 ≠ m.1 := fun x hx h =>
      hmem (List.inj_on_of_nodup_map hkeys (htrims.sublist.subset hx) hm h ▸ hx)
    rw [filter_key_of_ne hnone] at hfilter
    exact .inr ⟨hfilter.eq_nil, (htrims.mem_or hm).resolve_left hmem⟩

/-- **Each field is found**, or it is missing and has its default. -/
theorem fields?_presents (h : Presents standard written given)
    (hkeys : (written.map Prod.fst).Nodup) (hwanted : wanted ⊆ written) :
    ∃ slots, fields? (wanted.map Prod.fst) (.object given) = some slots ∧
      List.Forall₂ (Slot standard) wanted slots := by
  induction wanted with
  | nil => exact ⟨[], rfl, .nil⟩
  | cons m wanted ih =>
    obtain ⟨slots, hslots, hforall⟩ := ih (List.subset_of_cons_subset hwanted)
    have hm := filter_key_of_presents h hkeys (hwanted List.mem_cons_self)
    simp only [fields?] at hslots ⊢
    rw [List.map_cons, List.mapM_cons, hslots]
    rcases hm with hfound | ⟨hnone, hdefault⟩
    · exact ⟨some m.2 :: slots, by rw [hfound]; rfl, .cons (.inl rfl) hforall⟩
    · exact ⟨none :: slots, by rw [hnone]; rfl, .cons (.inr ⟨rfl, hdefault⟩) hforall⟩

/-- A field is read as its value, also where it is missing: then its value is the default. -/
theorem orDefault_slot {α : Type} {read : Json → Option α} {default x : α} {value : Json}
    {slot : Option Json} (hslot : Slot standard m slot)
    (hstandard : standard.member? m.1 = some value) (hdefault : read value = some default)
    (hx : read m.2 = some x) : orDefault read default slot = some x := by
  rcases hslot with rfl | ⟨rfl, hmissing⟩
  · exact hx
  · obtain rfl : value = m.2 := Option.some.inj (hstandard.symm.trans hmissing)
    exact hdefault.symm.trans hx

/-! ## Values of fields -/

/-- A text is read back from its form. -/
@[simp] theorem text?_ofText (text : Text) : text? (ofText text) = some text := by
  simp [ofText, text?]

/-- So is a count that fits in 64 bits. -/
theorem count?_natural {n : Nat} (h : n < UInt64.size) : count? (.natural n) = some n :=
  if_pos h

/-- What is written for a value, and is not null, is read back as that value. -/
theorem orNull?_some {α : Type} {read : Json → Option α} {x : α} {value : Json}
    (hvalue : value ≠ .null) (h : read value = some x) : orNull? read value = some (some x) := by
  rw [orNull?, h, Option.map_some]
  exact hvalue

end Json

open Json

/-- A charset is read from its canonical name. -/
theorem Charset.ofJson?_name (c : Charset) : Charset.ofJson? (.string c.name) = some c := by
  have hlabel : (Charset.ofLabel c.name.toList).toOption = some c := by
    cases c with
    | singleByte page => cases page <;> decide +kernel
    | _ => decide +kernel
  exact hlabel

/-- A quote mode is read back from its name. -/
theorem QuoteMode.ofJson?_name (m : QuoteMode) : QuoteMode.ofJson? (.string m.name) = some m := by
  cases m <;> rfl

/-- So is a newline policy. -/
theorem NewlinePolicy.ofJson?_name (p : NewlinePolicy) :
    NewlinePolicy.ofJson? (.string p.name) = some p := by
  cases p <;> rfl

/-- A check of widths is read back from its form. -/
theorem WidthCheck.ofJson?_toJson {w : WidthCheck} (h : w.width < UInt64.size) :
    WidthCheck.ofJson? w.toJson = some w := by
  cases w with
  | perField n => exact congrArg (Option.map _) (count?_natural h)
  | rowTotal n => exact congrArg (Option.map _) (count?_natural h)

/-! ## Dialects -/

namespace Dialect

/-- A value is a **form** of a dialect if it is an object that presents its fields. -/
def Form (d : Dialect) (value : Json) : Prop :=
  ∃ members, value = .object members ∧
    Presents ({} : Dialect).toJson d.toJson.members members

/-- The object with all fields is a form. -/
theorem form_toJson (d : Dialect) : d.Form d.toJson :=
  ⟨_, rfl, .refl _ _⟩

/-- **Every form of a dialect** is read as the dialect. -/
theorem ofJson?_form {d : Dialect} {value : Json} (h : d.Form value) : ofJson? value = some d := by
  obtain ⟨members, rfl, hpresents⟩ := h
  have hkeys : (d.toJson.members.map Prod.fst).Nodup :=
    show keys.Nodup by decide
  obtain ⟨slots, hslots, hforall⟩ := fields?_presents hpresents hkeys (List.Subset.refl _)
  rcases hforall with _ | ⟨hcolumn, _ | ⟨hrow, _ | ⟨hquote, _ | ⟨hcharset, ⟨⟩⟩⟩⟩⟩
  rename_i column row quote charset
  have hgiven : fields? keys (.object members) = some [column, row, quote, charset] := hslots
  have hcolumn : orDefault text? _ column = some d.columnDelimiter :=
    orDefault_slot hcolumn rfl (text?_ofText _) (text?_ofText _)
  have hrow : orDefault text? _ row = some d.rowDelimiter :=
    orDefault_slot hrow rfl (text?_ofText _) (text?_ofText _)
  have hquote : orDefault (orNull? charOfJson?) (some '"') quote = some d.quote := by
    refine orDefault_slot hquote rfl rfl ?_
    cases d.quote with
    | none => rfl
    | some q =>
      have hstring : ofText [q] ≠ .null := by
        intro h
        cases h
      exact orNull?_some hstring (by simp [charOfJson?])
  have hcharset : orDefault Charset.ofJson? .utf8 charset = some d.charset :=
    orDefault_slot hcharset rfl (Charset.ofJson?_name .utf8) (Charset.ofJson?_name _)
  simp only [ofJson?, hgiven, hcolumn, hrow, hquote, hcharset, Option.bind_eq_bind,
    Option.bind_some, Option.pure_def]

end Dialect

/-! ## Configurations -/

namespace Config

/-- Every count of a configuration **fits in 64 bits**. -/
structure FitsWords (c : Config) : Prop where
  expectedColumns : c.expectedColumns < UInt64.size
  skippedRows : c.skippedRows < UInt64.size
  width : ∀ check ∈ c.widthCheck, check.width < UInt64.size

/-- The fields of a configuration, with its dialects written as `input` and `output`. -/
def written (c : Config) (input output : Json) : List (String × Json) :=
  ("input", input) :: ("output", output) :: c.toJson.members.drop 2

/-- A value is a **form** of a configuration if it is an object that presents its fields, with its
dialects in any of their forms. -/
def Form (c : Config) (value : Json) : Prop :=
  ∃ input output members, value = .object members ∧ c.input.Form input ∧ c.output.Form output ∧
    Presents ({} : Config).toJson (c.written input output) members

variable {c : Config}

/-- The object with all fields is a form. -/
theorem form_toJson (c : Config) : c.Form c.toJson :=
  ⟨c.input.toJson, c.output.toJson, _, rfl, c.input.form_toJson, c.output.form_toJson, .refl _ _⟩

/-- **Every form of a configuration** whose counts fit in 64 bits is read as the configuration. -/
theorem ofJson?_form (hc : c.FitsWords) {value : Json} (h : c.Form value) :
    ofJson? value = some c := by
  obtain ⟨inputForm, outputForm, members, rfl, hinputForm, houtputForm, hpresents⟩ := h
  -- the fields in the order of their keys, each read from its slot
  have hkeys : ((c.written inputForm outputForm).map Prod.fst).Nodup :=
    show keys.Nodup by decide
  obtain ⟨slots, hslots, hforall⟩ := fields?_presents hpresents hkeys (List.Subset.refl _)
  rcases hforall with _ | ⟨hinput, _ | ⟨houtput, _ | ⟨hquoteMode, _ | ⟨hkeep, _ | ⟨hcolumns,
    _ | ⟨htrailing, _ | ⟨hwidth, _ | ⟨hskipped, _ | ⟨hheader, _ | ⟨hempty, _ | ⟨hnewlines,
    _ | ⟨hmark, ⟨⟩⟩⟩⟩⟩⟩⟩⟩⟩⟩⟩⟩⟩
  rename_i input output quoteMode keep columns trailing width skipped header empty newlines mark
  have hgiven : fields? keys (.object members) = some [input, output, quoteMode, keep, columns,
      trailing, width, skipped, header, empty, newlines, mark] :=
    hslots
  have hdialect : Dialect.ofJson? ({} : Dialect).toJson = some {} :=
    Dialect.ofJson?_form (Dialect.form_toJson {})
  have hinput : orDefault Dialect.ofJson? {} input = some c.input :=
    orDefault_slot hinput rfl hdialect (Dialect.ofJson?_form hinputForm)
  have houtput : orDefault Dialect.ofJson? {} output = some c.output :=
    orDefault_slot houtput rfl hdialect (Dialect.ofJson?_form houtputForm)
  have hquoteMode : orDefault QuoteMode.ofJson? .asNeeded quoteMode = some c.quoteMode :=
    orDefault_slot hquoteMode rfl rfl (QuoteMode.ofJson?_name _)
  have hkeep : orDefault bool? false keep = some c.keepInputQuotes :=
    orDefault_slot hkeep rfl rfl rfl
  have hcolumns : orDefault count? 0 columns = some c.expectedColumns :=
    orDefault_slot hcolumns rfl (count?_natural (by decide)) (count?_natural hc.expectedColumns)
  have htrailing : orDefault bool? false trailing = some c.trailingColumnDelimiter :=
    orDefault_slot htrailing rfl rfl rfl
  have hwidth : orDefault (orNull? WidthCheck.ofJson?) none width = some c.widthCheck := by
    have hfits := hc.width
    refine orDefault_slot hwidth rfl rfl ?_
    cases hcheck : c.widthCheck with
    | none => rfl
    | some check =>
      have hobject : check.toJson ≠ .null := by
        intro h
        cases check <;> cases h
      exact orNull?_some hobject (WidthCheck.ofJson?_toJson (hfits check hcheck))
  have hskipped : orDefault count? 0 skipped = some c.skippedRows :=
    orDefault_slot hskipped rfl (count?_natural (by decide)) (count?_natural hc.skippedRows)
  have hheader : orDefault bool? false header = some c.hasHeader :=
    orDefault_slot hheader rfl rfl rfl
  have hempty : orDefault bool? false empty = some c.skipEmptyRows :=
    orDefault_slot hempty rfl rfl rfl
  have hnewlines : orDefault NewlinePolicy.ofJson? .preserve newlines = some c.newlines :=
    orDefault_slot hnewlines rfl rfl (NewlinePolicy.ofJson?_name _)
  have hmark : orDefault bool? true mark = some c.stripMark :=
    orDefault_slot hmark rfl rfl rfl
  simp only [ofJson?, hgiven, hinput, houtput, hquoteMode, hkeep, hcolumns, htrailing, hwidth,
    hskipped, hheader, hempty, hnewlines, hmark, Option.bind_eq_bind, Option.bind_some,
    Option.pure_def]

/-- The object of a configuration holds no numbers but counts. -/
theorem legible_toJson (c : Config) : c.toJson.Legible := by
  have hdialect : ∀ d : Dialect, d.toJson.Legible := by
    intro d
    cases hquote : d.quote <;> simp [Dialect.toJson, hquote, ofText, Legible, LegibleMembers]
  have hcheck : ∀ check : WidthCheck, check.toJson.Legible := by
    intro check
    cases check <;> simp [WidthCheck.toJson, Legible, LegibleMembers]
  cases hwidth : c.widthCheck <;>
    simp [toJson, hwidth, hdialect, hcheck, Legible, LegibleMembers]

/-- **The round trip of configurations.** A configuration whose counts fit in 64 bits is read from the
text of its object, and from every other of its forms and the text of that. -/
theorem read_forms (hc : c.FitsWords) :
    (parse? c.toJson.render.toList).bind ofJson? = some c ∧
      ∀ value, c.Form value → ofJson? value = some c ∧
        (value.Legible → (parse? value.render.toList).bind ofJson? = some c) := by
  have hforms : ∀ value, c.Form value → ofJson? value = some c ∧
      (value.Legible → (parse? value.render.toList).bind ofJson? = some c) := by
    intro value hform
    refine ⟨ofJson?_form hc hform, fun hlegible => ?_⟩
    rw [parse?_render hlegible, Option.bind_some, ofJson?_form hc hform]
  exact ⟨(hforms _ c.form_toJson).2 c.legible_toJson, hforms⟩

/-- A configuration with odd delimiters and the greatest counts is read from an object in which the
fields come in another order, most of them and all of the output are left out, and unknown fields
stand in both objects. -/
theorem read_forms_reversed :
    let c : Config := {
      input := { columnDelimiter := ['"', '\\', '\x00', 'é'], quote := none, charset := .eucKr }
      expectedColumns := 18446744073709551615
      widthCheck := some (.rowTotal 18446744073709551615) }
    let input : Json := .object [("colour", .unpaired), ("charset", .string "EUC-KR"),
      ("quote", .null), ("column_delimiter", .string "\"\\\x00é")]
    let value : Json := .object [("quotes", .array [.number "-1.5e3"]),
      ("width_check", .object [("row_total", .natural 18446744073709551615)]),
      ("expected_columns", .natural 18446744073709551615), ("input", input)]
    c.FitsWords ∧ c.Form value ∧ value.Legible ∧ ofJson? value = some c ∧
      (parse? value.render.toList).bind ofJson? = some c := by
  intro c input value
  have hfits : c.FitsWords := ⟨by decide, by decide, by decide⟩
  have hinput : c.input.Form input := by
    refine ⟨_, rfl, [("column_delimiter", .string "\"\\\x00é"), ("quote", .null),
      ("charset", .string "EUC-KR")], [("colour", .unpaired)], ?_, by decide,
      List.reverse_perm [_, _, _, _]⟩
    exact .keep (.drop rfl (.refl _ _))
  have hform : c.Form value := by
    refine ⟨input, ({} : Dialect).toJson, _, rfl, hinput, Dialect.form_toJson _, [("input", input),
      ("expected_columns", .natural 18446744073709551615),
      ("width_check", .object [("row_total", .natural 18446744073709551615)])],
      [("quotes", .array [.number "-1.5e3"])], ?_, by decide, List.reverse_perm [_, _, _, _]⟩
    exact .keep (.drop rfl (.drop rfl (.drop rfl (.keep (.drop rfl (.keep (.drop rfl (.drop rfl
      (.drop rfl (.drop rfl (.drop rfl .nil)))))))))))
  have hnumber : IsNumber "-1.5e3".toList := ⟨by decide, rfl⟩
  have hlegible : value.Legible :=
    ⟨⟨hnumber, trivial⟩, ⟨trivial, trivial⟩, trivial,
      ⟨trivial, trivial, trivial, trivial, trivial⟩, trivial⟩
  obtain ⟨-, hforms⟩ := read_forms hfits
  obtain ⟨hread, htext⟩ := hforms value hform
  exact ⟨hfits, hform, hlegible, hread, htext hlegible⟩

end Config

end Delimited
