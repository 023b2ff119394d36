import Throughput.Kernel

/-!
Contract: the workload that finds the n-th prime by trial division.

Owns:
- `isPrime` and `nthPrime`, on words of 64 bits;
- the state of the workload, the steps of its cycle, and the kernel.

The square of a divisor is reduced to a word, as words are multiplied. There is
no answer where a number would be divided by zero, or where the candidates run
out; no search comes to either. The state is the prime found last; a fresh cycle
has found none.
-/

namespace Throughput.Primes

/-- Below another word, the next word does not wrap. -/
theorem toNat_next {word bound : UInt64} (below : word < bound) :
    (word + 1).toNat = word.toNat + 1 ∧ word.toNat < bound.toNat := by
  have less : word.toNat < bound.toNat := UInt64.lt_iff_toNat_lt.mp below
  have limit : bound.toNat < 18446744073709551616 := bound.toNat_lt
  have one : (1 : UInt64).toNat = 1 := rfl
  rw [UInt64.toNat_add]
  omega

/-- Unless a word is zero, the next one is nearer to the end of the words. -/
theorem toNat_neg_next {word : UInt64} (notZero : ¬word = 0) :
    (-(word + 1)).toNat < (-word).toNat := by
  have positive : word.toNat ≠ 0 := fun zero => notZero (UInt64.toNat_inj.mp zero)
  have limit := word.toNat_lt
  have one : (1 : UInt64).toNat = 1 := rfl
  rw [UInt64.toNat_neg, UInt64.toNat_neg, UInt64.toNat_add, one, UInt64.size]
  omega

/-- Whether no divisor from `divisor` on divides a number, up to the first one
whose square is greater. The square is reduced to a word, so that the loop may
pass the square root and go on. None where the divisor is zero, which has no
remainder. -/
def noDivisorFrom (number divisor : UInt64) : Option Bool :=
  if divisor * divisor ≤ number then
    if _ : divisor = 0 then none
    else if number % divisor = 0 then some false
    else noDivisorFrom number (divisor + 1)
  else some true
termination_by (-divisor).toNat
decreasing_by exact toNat_neg_next ‹¬divisor = 0›

def isPrime (number : UInt64) : Option Bool :=
  if number < 2 then some false else noDivisorFrom number 2

def greatestWord : UInt64 := 18446744073709551615

/-- Counts primes after `candidate`, of which `count` have been found so far,
up to the one with the number `nth`. -/
def primeAfter (nth count : UInt32) (candidate : UInt64) : Option UInt64 :=
  if _ : candidate < greatestWord then
    match isPrime (candidate + 1) with
    | none => none
    | some false => primeAfter nth count (candidate + 1)
    | some true =>
      if count + 1 = nth then some (candidate + 1)
      else primeAfter nth (count + 1) (candidate + 1)
  else none
termination_by greatestWord.toNat - candidate.toNat
decreasing_by
  all_goals
    have next := toNat_next ‹candidate < greatestWord›
    omega

/-- The n-th prime, counting 2 as the first. -/
def nthPrime (nth : UInt32) : Option UInt64 :=
  primeAfter nth 0 1

/-- What the workload looks for, and what it expects to find. -/
structure Target where
  nth : UInt32
  expected : UInt64
deriving DecidableEq, Repr

/-- The target of the bundled kernel: the hundredth prime is 541. -/
def Target.standard : Target := ⟨100, 541⟩

/-- The state of the workload: the prime found last, or zero. -/
structure State where
  found : UInt64 := 0
deriving DecidableEq, Repr

namespace Target

/-- A fresh cycle has found nothing. Primes are counted from one. -/
def setup (target : Target) (state : State) : Except Fault Unit × State :=
  if target.nth = 0 then
    (.error (.ofMessage "prime index must be at least 1"), state)
  else
    (.ok (), { found := 0 })

/-- Finds the prime and compares it with the one expected. -/
def run (target : Target) (state : State) : Except Fault Unit × State :=
  match nthPrime target.nth with
  | none =>
    (.error (.ofMessage ("prime #" ++ toString target.nth ++ " is out of range")), state)
  | some found =>
    if found = target.expected then
      (.ok (), { found })
    else
      (.error (.ofMessage
        ("prime #" ++ toString target.nth ++ " was " ++ toString found ++
          ", expected " ++ toString target.expected)),
        { found })

end Target

/-- The number of the prime that a warmup looks for. -/
def warmupNth : UInt32 := 10

/-- A search that is much cheaper, and leaves no trace. -/
def warmup (state : State) : Except Fault Unit × State :=
  match nthPrime warmupNth with
  | none => (.error (.ofMessage "the warmup prime is out of range"), state)
  | some _ => (.ok (), state)

def Target.kernel (target : Target) : Kernel (StateM State) where
  name := "NthPrime"
  setup := stateStep target.setup
  run := stateStep target.run
  warmup := stateStep warmup

end Throughput.Primes
