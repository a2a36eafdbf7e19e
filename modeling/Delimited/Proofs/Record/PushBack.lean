import Delimited.Proofs.Record.Watching
import Delimited.Charset.Coding
import Delimited.Stream.TextReader

set_option autoImplicit false
set_option relaxedAutoImplicit false

/-!
# The push-back buffer is bounded

A reader pushes characters back into its source, and some of these were pushed back before. Still
the buffer never holds more than one look-ahead, or one character if there is none: what is pushed
back was read just before, and first of all from the buffer itself.

## Main definitions

* `Delimited.Watched.Within` — the buffer was within a bound in all states of a text reader.

## Main results

* `Delimited.TextReader.returned_readUpTo` — reading ahead empties the buffer from its front.
* `Delimited.Watched.keeps_within` — no use of the source exceeds the bound.
* `Delimited.RowReader.length_returned_le` — the bound for a reader in any state.
* `Delimited.RowReader.pushBack_bounded` — the bound for a reader before a new text reader.
-/

namespace Delimited

open CharSource

/-! ## The buffer of a text reader -/

namespace TextReader

variable {d : Decoder}

/-- A read takes a character from the buffer, if there is one. -/
theorem returned_read (s : TextReader d) : (CharSource.read s).2.returned = s.returned.tail := by
  have hread : (read s).2.returned = s.returned.tail := by
    fun_induction read s with
    | case1 s c cs hr => rw [hr]; rfl
    | case2 s c cs hd hr => rw [hr]; rfl
    | case3 s hd hr he => rw [hr]; rfl
    | case4 s hd hr he e r h => rw [hr]; rfl
    | case5 s hd hr he r h ih => exact ih
    | case6 s hd hr he r h hf => rw [hr]; rfl
    | case7 s hd hr he r h c cs hf => rw [hr]; rfl
    | case8 s hd hr he b bs r h ih => exact ih
  exact hread

/-- A read from a buffer that is not empty gives a character. -/
theorem read_of_returned {s : TextReader d} {c : Char} {cs : Text} (h : s.returned = c :: cs) :
    CharSource.read s = (.ok (some c), { s with returned := cs }) := by
  show read s = _
  rw [read.eq_def, h]

/-- **Reading ahead** takes as many characters from the buffer as it can. -/
theorem returned_readUpTo (n : Nat) (s : TextReader d) :
    (readUpTo n s).2.returned = s.returned.drop n := by
  induction n generalizing s with
  | zero => rfl
  | succ n ih =>
    rw [readUpTo]
    cases h : s.returned with
    | cons c cs =>
      rw [read_of_returned h]
      exact ih _
    | nil =>
      have hread : (CharSource.read s).2.returned = [] := by
        rw [returned_read, h]
        rfl
      rcases hanswer : CharSource.read s with ⟨e | _ | c, t⟩ <;> rw [hanswer] at hread
      · exact hread
      · exact hread
      · have hnext := ih t
        rw [show t.returned = [] from hread, List.drop_nil] at hnext
        exact hnext

end TextReader

/-! ## The bound -/

namespace Watched

variable {dec : Decoder} {bound : Nat} {w : Watched (TextReader dec)}

/-- The buffer was **within a bound** in all states. -/
def Within (bound : Nat) (w : Watched (TextReader dec)) : Prop :=
  ∀ s ∈ w.states, s.returned.length ≤ bound

/-- A state within the bound may come next. -/
theorem Within.become (h : w.Within bound) {s : TextReader dec} (hs : s.returned.length ≤ bound) :
    (w.become s).Within bound :=
  List.forall_mem_cons.2 ⟨hs, h⟩

/-- The present state is within the bound. -/
theorem Within.now (h : w.Within bound) : w.now.returned.length ≤ bound :=
  h w.now List.mem_cons_self

/-- Reading keeps the bound: it only takes out of what was returned. -/
theorem Within.read (h : w.Within bound) : (CharSource.read w).2.Within bound := by
  refine h.become ?_
  rw [TextReader.returned_read, List.length_tail]
  exact Nat.le_trans (Nat.sub_le _ _) h.now

/-- So does reading several characters. -/
theorem Within.readUpTo (h : w.Within bound) (n : Nat) :
    (CharSource.readUpTo n w).2.Within bound :=
  keeps_readUpTo Within.read h n

/-- Reading ahead takes characters from the buffer before any others are read. -/
theorem now_readUpTo (n : Nat) (w : Watched (TextReader dec)) :
    (CharSource.readUpTo n w).2.now.returned = w.now.returned.drop n := by
  have hnow := readUpTo_of_commutes (f := Watched.now) commutes_now.read_eq n w
  rw [← TextReader.returned_readUpTo, hnow]

/-- **No use of the source exceeds the bound**, if that is the look-ahead at least and not zero.

**Proof sketch.** A probe with look-ahead `n` takes `n` characters from the buffer, or it empties
the buffer. It pushes back `n` characters at most, so there are not more than before, or not more
than `n`. The other use pushes back one character after it took one, if there was one. -/
theorem keeps_within {d : Delimiters} (hone : 1 ≤ bound) (hahead : d.lookahead ≤ bound) :
    d.Keeps (Within bound : Watched (TextReader dec) → Prop) where
  read h := h.read
  putBack {w v c} h hr := by
    obtain ⟨-, rfl⟩ := Prod.mk.inj hr
    refine Within.become h.read ?_
    have hnow := h.now
    have hlength : (unread [c] (w.become (CharSource.read w.now).2).now).returned.length =
        w.now.returned.tail.length + 1 := by
      rw [← TextReader.returned_read]
      rfl
    rw [hlength, List.length_tail]
    omega
  probe {w v c} h hr := by
    obtain ⟨-, rfl⟩ := Prod.mk.inj hr
    have hread : (w.become (read w.now).2).Within bound := h.read
    generalize w.become (read w.now).2 = v at hread
    rcases d.source_probe_cases c v with hs | hs | ⟨xs, hxs, hs⟩
    · rw [hs]
      exact hread
    · rw [hs]
      exact hread.readUpTo d.lookahead
    · rw [hs]
      refine (hread.readUpTo d.lookahead).become ?_
      have hxs : xs.length ≤ d.lookahead := Nat.le_trans hxs.length_le (length_readUpTo _ _)
      have hnow := hread.now
      have hlength : (unread xs (CharSource.readUpTo d.lookahead v).2.now).returned.length =
          xs.length + (v.now.returned.length - d.lookahead) := by
        rw [← List.length_drop, ← now_readUpTo, ← List.length_append]
        rfl
      omega

end Watched

namespace RowReader

variable {dec : Decoder}

/-- **The buffer during any steps** of a reader: it never holds more than one look-ahead or one
character, unless it held more at the start, and then not more than that. -/
theorem length_returned_le (r : RowReader (TextReader dec)) (steps : List ReaderStep) :
    ∀ s ∈ r.sourceStates steps, s.returned.length ≤
      max r.source.returned.length (max 1 r.parser.grammar.delimiters.lookahead) := by
  generalize hbound : max r.source.returned.length
    (max 1 r.parser.grammar.delimiters.lookahead) = bound
  have hkeeps : r.parser.grammar.delimiters.Keeps
      fun w : Watched (TextReader dec) => w.Within bound :=
    Watched.keeps_within (by omega) (by omega)
  have hle : r.source.returned.length ≤ bound := by omega
  have hstart : (Watched.ofSource r.source).Within bound := List.forall_mem_singleton.2 hle
  have htrace := (r.mapSource Watched.ofSource).trace_perform steps
  exact (htrace.upholds hkeeps ⟨rfl, hstart⟩).source

/-- **The push-back buffer is bounded.** Before a new text reader, whatever its bytes and whichever
reads fail, any steps of a reader leave no more characters in the buffer than the longer delimiter
has after its first one, or one character if that is none. This is so in all states of the source
during the steps; these include the states between the calls, and the calls are those that the
reader makes when nobody watches. -/
theorem pushBack_bounded (input : ByteReader) (parser : Parser) (check : Option ColumnCheck)
    (skipEmptyRows : Bool) (rowCount emptyRows : Nat) (steps : List ReaderStep) :
    let r : RowReader (TextReader dec) :=
      ⟨.ofReader input, parser, check, skipEmptyRows, rowCount, emptyRows⟩
    let watched := (r.mapSource Watched.ofSource).perform steps
    let delimiters := parser.grammar.delimiters
    let bound := max 1 (max delimiters.row.length delimiters.column.length - 1)
    r.perform steps =
        (watched.1.map (Call.mapSource Watched.now), watched.2.mapSource Watched.now) ∧
      (∀ call ∈ (r.perform steps).1, call.before.source ∈ watched.2.source.states ∧
        call.after.source ∈ watched.2.source.states) ∧
      ∀ s ∈ watched.2.source.states, s.returned.length ≤ bound := by
  intro r watched delimiters bound
  refine ⟨r.perform_watched steps, r.mem_sourceStates steps, fun s hs => ?_⟩
  have hle := r.length_returned_le steps s hs
  have hbound : max r.source.returned.length (max 1 delimiters.lookahead) = bound :=
    Nat.max_eq_right (Nat.zero_le _)
  rwa [← hbound]

/-- With a look-ahead of three, three characters may be in the buffer: here it holds the last ones
of the input, which began like a row delimiter. -/
example :
    let r : RowReader (TextReader Charset.utf8.decoder) := ofSource
      (.ofReader [.chunk (utf8Bytes ['@', '@', '@', 'x'])])
      ⟨⟨['@', '@', '@', '@'], ['|'], by decide, by decide⟩, none, false, .preserve⟩ none false
    3 ∈ (r.sourceStates [.readRow]).map fun s => s.returned.length := by
  decide +kernel

end RowReader

end Delimited
