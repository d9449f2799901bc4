/-!
# Busy indicators

An indicator tells whether any request is in flight. Copies of an indicator share one counter, and
a hook, if the indicator was made with one, is told each time the counter leaves zero and each
time it comes back to zero. A guard holds one slot of the counter until it is dropped.

A `Board` holds the counters. An indicator, and a guard as well, is no more than the place of its
counter on the board, so copies share it by being equal.

Correspondence:
  `BusyIndicator::new`, `with_hook`             ↔ `Board.add`
  `BusyIndicator::acquire`                      ↔ `Counter.acquire`, `Board.acquire`
  `BusyIndicator::release`, the drop of a guard ↔ `Counter.release`, `Board.release`
  `BusyIndicator::notify`                       ↔ `Counter.tell`
  `in_flight`, `is_busy`                        ↔ `Counter.inFlight`, `Counter.isBusy`
-/

namespace CatalogClient

namespace Busy

/-- A counter with what its hook was told. -/
structure Counter where
  inFlight : Nat
  hooked : Bool
  transitions : List Bool
deriving DecidableEq, Inhabited

namespace Counter

def fresh (hooked : Bool) : Counter := ⟨0, hooked, []⟩

def isBusy (c : Counter) : Bool := 0 < c.inFlight

/-- Tells the hook, if there is one. -/
def tell (c : Counter) (busy : Bool) : Counter :=
  if c.hooked then { c with transitions := c.transitions ++ [busy] } else c

/-- Takes a slot; the first one is told to the hook. -/
def acquire (c : Counter) : Counter :=
  let c' := if c.inFlight = 0 then c.tell true else c
  { c' with inFlight := c.inFlight + 1 }

/-- Gives a slot back; the last one is told to the hook. -/
def release (c : Counter) : Counter :=
  let c' := if c.inFlight = 1 then c.tell false else c
  { c' with inFlight := c.inFlight - 1 }

end Counter

/-- The place of a counter on a board. -/
structure Indicator where
  place : Nat
deriving DecidableEq, Inhabited

/-- Holds one slot of an indicator's counter. -/
structure Guard where
  indicator : Indicator
deriving DecidableEq

/-- Counters, each at its place. -/
abbrev Board := List Counter

namespace Board

/-- The counter of an indicator. -/
def counter (board : Board) (i : Indicator) : Counter := (board[i.place]?).getD (.fresh false)

/-- A new counter at the end of the board. -/
def add (board : Board) (hooked : Bool) : Indicator × Board :=
  (⟨board.length⟩, board ++ [.fresh hooked])

def acquire (board : Board) (i : Indicator) : Guard × Board :=
  (⟨i⟩, board.modify i.place Counter.acquire)

def release (board : Board) (g : Guard) : Board := board.modify g.indicator.place Counter.release

end Board

/-! ## Many indicators -/

/-- Indicators and guards in the order in which they were made, dropped guards leaving a gap. -/
structure Bench where
  board : Board
  indicators : List Indicator
  guards : List (Option Guard)

/-- What can be done with indicators and guards, which go by their numbers. -/
inductive Act
  | acquire (indicator : Nat)
  | drop (guard : Nat)
  | clone (indicator : Nat)
  | create (hooked : Bool)
deriving DecidableEq

namespace Bench

/-- One indicator, nothing held. -/
def start (hooked : Bool) : Bench :=
  let (i, board) := Board.add [] hooked
  ⟨board, [i], []⟩

/-- Does one thing. Numbers that stand for nothing and guards dropped before leave all as it is. -/
def step (bench : Bench) : Act → Bench
  | .acquire n =>
    match bench.indicators[n]? with
    | none => bench
    | some i =>
      let (g, board) := bench.board.acquire i
      { bench with board := board, guards := bench.guards ++ [some g] }
  | .drop n =>
    match bench.guards[n]? with
    | some (some g) =>
      { bench with board := bench.board.release g, guards := bench.guards.set n none }
    | _ => bench
  | .clone n =>
    match bench.indicators[n]? with
    | none => bench
    | some i => { bench with indicators := bench.indicators ++ [i] }
  | .create hooked =>
    let (i, board) := bench.board.add hooked
    { bench with board := board, indicators := bench.indicators ++ [i] }

/-- Does one thing after the other. -/
def run (bench : Bench) (acts : List Act) : Bench := acts.foldl step bench

/-- The counter behind an indicator. -/
def counterOf (bench : Bench) (i : Indicator) : Counter := bench.board.counter i

end Bench

end Busy

end CatalogClient
