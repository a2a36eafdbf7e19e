import Delimited.Archive.Bits

set_option autoImplicit false
set_option relaxedAutoImplicit false

/-!
# State codes

A state code reads symbols by going from state to state. Each state has a symbol, and a number of
bits that have to be read to find the state after it. The more states a symbol has, the fewer bits it
takes. The shares of the symbols among the states fix the code.

## Main definitions

* `Delimited.StateCode` — a state code, with `ofShares`.
* `Delimited.StateCode.readShares` — the reader of shares.
* `Delimited.StateCode.first`, `Delimited.StateCode.after` — the states that bits tell.
-/

namespace Delimited

/-- A **state**: its symbol, and that the states after it begin at `base` and are told apart by
`bits` bits. -/
structure CodeState where
  symbol : Nat
  bits : Nat
  base : Nat
  deriving DecidableEq, Repr, Inhabited

/-- A **state code** has as many states as there are numbers of `log` bits. -/
structure StateCode where
  log : Nat
  states : Array CodeState
  deriving Repr

namespace StateCode

open BitReader

/-- The **shares** of the symbols from zero on: how many states each has. A rare symbol has no share.
It has a state all the same, from which any other one can be reached. -/
abbrev Shares := List (Option Nat)

/-- A number up to `limit`, in as many bits as `limit` has, or in one bit less if it is among the
smallest. -/
def numberUpTo (limit : Nat) : BitReader Nat := do
  let low ← number limit.log2
  let short := (2 <<< limit.log2) - 1 - limit
  if low < short then return low
  else if ← bit then return low + (1 <<< limit.log2) - short
  else return low

/-- How many more symbols without a state follow the first one: a sum of numbers up to three, of which
only the last is less. -/
def absentRun : BitReader Nat :=
  repeated (fun count => do
    let more ← number 2
    return (count + more, more < 3)) 0

/-- The next shares, where `left` states have no symbol yet: the states that are left after them, all
shares so far, and whether no state is left. -/
def readShare : Nat × Array (Option Nat) → BitReader ((Nat × Array (Option Nat)) × Bool)
  | (left, found) => do
    match ← numberUpTo (left + 1) with
    | 0 => return ((left - 1, found.push none), left = 1)
    | 1 =>
      let more ← absentRun
      return ((left, found ++ Array.replicate (more + 1) (some 0)), false)
    | n + 1 => return ((left - n, found.push (some n)), left = n)

/-- The number of bits of a state and the **shares** of the symbols, which end with a whole byte. -/
def readShares : BitReader (Nat × Shares) := do
  let log := (← number 4) + 5
  let (_, shares) ← repeated readShare (1 <<< log, #[])
  align
  return (log, shares.toList)

/-- The places of the states with their symbols. Those of rare symbols are the last ones, from the end
down; the others are dealt out in strides around all places. -/
def dealt (log : Nat) (shares : Shares) : List (Nat × Nat) :=
  let size := 1 <<< log
  let rare := shares.zipIdx.filterMap fun (share, symbol) =>
    if share.isNone then some symbol else none
  let stride := size / 2 + size / 8 + 3
  let others := ((List.range size).map (· * stride % size)).filter (· < size - rare.length)
  let symbols := shares.zipIdx.flatMap fun (share, symbol) =>
    List.replicate (share.getD 0) symbol
  rare.zipIdx.map (fun (symbol, i) => (size - 1 - i, symbol)) ++ others.zip symbols

/-- The state of a symbol with a rank. If a symbol has `n` states, their ranks start at `n`. The states
after them make up all states: the higher the rank the fewer the bits, and of equally many bits the
later the states. -/
def state (log symbol rank : Nat) : CodeState :=
  let bits := log - rank.log2
  ⟨symbol, bits, (rank <<< bits) - (1 <<< log)⟩

/-- The **code with these shares**. -/
def ofShares (log : Nat) (shares : Shares) : StateCode :=
  let symbols := (dealt log shares).foldl (fun all (place, symbol) => all.setIfInBounds place symbol)
    (Array.replicate (1 <<< log) 0)
  let ranks := (shares.map (·.getD 1)).toArray
  let (states, _) := symbols.foldl (fun (states, ranks) symbol =>
    let rank := ranks.getD symbol 1
    (states.push (state log symbol rank), ranks.setIfInBounds symbol (rank + 1)))
    ((#[] : Array CodeState), ranks)
  ⟨log, states⟩

/-- The code with one symbol, which takes no bits. -/
def single (symbol : Nat) : StateCode :=
  ⟨0, #[⟨symbol, 0, 0⟩]⟩

/-- The reader of a code for so many symbols and states of so many bits at most. It ends with a whole
byte. -/
def read (symbolCount maxLog : Nat) : BitReader StateCode := do
  let (log, shares) ← readShares
  if shares.length ≤ symbolCount ∧ log ≤ maxLog then return ofShares log shares else malformed

/-- The **first state**, which a number of `log` bits tells. -/
def first (code : StateCode) (number : Nat) : CodeState :=
  code.states.getD number default

/-- The **state after** another one, which a number of as many bits as that one says tells. -/
def after (code : StateCode) (state : CodeState) (number : Nat) : CodeState :=
  code.states.getD (state.base + number) default

end StateCode

end Delimited
