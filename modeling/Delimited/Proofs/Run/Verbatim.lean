import Delimited.Proofs.Record.Lossless
import Delimited.Proofs.Run.Agreement
import Delimited.Proofs.Run.Direct

set_option autoImplicit false
set_option relaxedAutoImplicit false

/-!
# Runs that change nothing

A run that reads and writes in one dialect, keeps quotes and newlines, and neither drops nor checks
nor changes anything gives back the text, with the row delimiter of the last record made whole.

## Main definitions

* `Delimited.Config.verbatim`, `Delimited.Pipeline.verbatim` — the settings of such a run.

## Main results

* `Delimited.Pipeline.runText_verbatim` — such a run gives back the text.
-/

namespace Delimited

/-- The settings with which a text in a dialect is given back. -/
def Config.verbatim (d : Dialect) : Config where
  input := d
  output := d
  quoteMode := .never
  keepInputQuotes := true
  stripMark := false

namespace Pipeline

/-- The pipeline that gives back a text in a valid dialect. -/
def verbatim (d : Dialect) (h : d.Valid) : Pipeline :=
  ⟨.verbatim d, h, h, (Option.some_ne_none 0).symm⟩

/-- The settings are accepted in a valid dialect. -/
theorem ofConfig_verbatim {d : Dialect} (h : d.Valid) :
    ofConfig (.verbatim d) = .ok (.verbatim d h) := by
  have hcheck : (Config.verbatim d).check = .ok () := Config.check_eq_ok_iff.2 (verbatim d h).valid
  unfold ofConfig
  split
  · rfl
  · simp_all

/-- The grammar of the pipeline keeps quotes and newlines. -/
theorem verbatim_grammar {d : Dialect} (h : d.Valid) : (verbatim d h).grammar.Verbatim :=
  ⟨rfl, rfl⟩

/-- The settings drop and check nothing. -/
theorem direct_verbatim {d : Dialect} (h : d.Valid) : (verbatim d h).config.Direct :=
  ⟨rfl, rfl, rfl, rfl, rfl, rfl, rfl⟩

/-- The course of the pipeline writes all records of a text. -/
theorem course_verbatim {d : Dialect} (h : d.Valid) (text : Text) :
    (verbatim d h).course .identity text =
      ⟨.ok { rowsIn := ((verbatim d h).grammar.records text).1.length
             rowsOut := ((verbatim d h).grammar.records text).1.length },
        ((verbatim d h).grammar.records text).1⟩ :=
  course_direct (direct_verbatim h) text

/-- **A run that changes nothing gives back the text**: it succeeds, and it writes the text with
what that lacks of its last row delimiter, which is an end of that delimiter. -/
theorem runText_verbatim {σ : Type} [CharSource σ] {source : σ} {text : Text} {d : Dialect}
    (h : d.Valid) (hs : Holds source text) (out : String) :
    ofConfig (.verbatim d) = .ok (verbatim d h) ∧
      (∃ stats, ((verbatim d h).runText source out .identity).result = .ok stats) ∧
      ((verbatim d h).runText source out .identity).sink =
        out ++ String.ofList (text ++ (verbatim d h).grammar.missing text) ∧
      (verbatim d h).grammar.missing text <:+ d.rowDelimiter := by
  obtain ⟨hresult, hsink⟩ := close_of_ends (Session.ends_drive (verbatim d h) .identity hs out)
  rw [course_verbatim] at hresult hsink
  refine ⟨ofConfig_verbatim h, ⟨_, hresult⟩, ?_, Grammar.missing_isSuffix _ text⟩
  rw [← (verbatim_grammar h).renderRows_records d.quote text]
  exact hsink

/-- A text that ends inside its row delimiter is given back with the rest of that. -/
theorem runText_verbatim_cut :
    ∃ h : Dialect.Valid {},
      let text : Text := "a^|\"b^|\"\"c\"\n@@".toList
      Holds text text ∧
        (∃ stats, ((verbatim {} h).runText text "" .identity).result = .ok stats) ∧
        ((verbatim {} h).runText text "" .identity).sink = "a^|\"b^|\"\"c\"\n@@\n" := by
  refine ⟨by decide, .refl _, ?_⟩
  obtain ⟨-, hresult, hsink, -⟩ :=
    runText_verbatim (d := {}) (by decide) (Holds.refl "a^|\"b^|\"\"c\"\n@@".toList) ""
  refine ⟨hresult, hsink.trans ?_⟩
  decide +kernel

end Pipeline

end Delimited
