/-!
Contract: a clock for rehearsals, which moves by a script.

Owns:
- `SteppingClock`, whose time advances by the next of a cycle of steps at
  every look, and by whatever a kernel spends;
- the operations of a clock on it.

Time is a word of 64 bits that stops at its greatest value.
-/

namespace Throughput.Rehearsal

/-- The greatest time that the clock shows. -/
def latest : Nat := Nat.pow 2 64 - 1

/-- A clock that moves by a script. -/
structure SteppingClock where
  /-- The steps by which time advances, over and over. -/
  steps : List Nat
  now : Nat := 0
  origin : Nat := 0
  reads : Nat := 0
  starts : Nat := 0
deriving DecidableEq, Repr

/-- The entry of a cycle with an index; a cycle without entries has none but
zeros. -/
def cyclic (cycle : List Nat) (index : Nat) : Nat :=
  (cycle[index % cycle.length]?).getD 0

namespace SteppingClock

def spend (clock : SteppingClock) (duration : Nat) : SteppingClock :=
  { clock with now := min (clock.now + duration) latest }

def restart (clock : SteppingClock) : SteppingClock :=
  { clock with origin := clock.now, starts := clock.starts + 1 }

/-- A look at the clock: time advances by the next step. -/
def look (clock : SteppingClock) : Nat × SteppingClock :=
  let moved := clock.spend (cyclic clock.steps clock.reads)
  (moved.now - moved.origin, { moved with reads := clock.reads + 1 })

end SteppingClock

end Throughput.Rehearsal
