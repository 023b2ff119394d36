import Mathlib.Logic.Function.Iterate
import Throughput.Proofs.Primes.Search

/-!
Contract: the search for a prime, step by step, in every arithmetic of words.

Owns:
- `Arithmetic`, what becomes of a number that does not fit into its word;
- `Position`, a point of the search with all its variables, and `step`, one
  turn of a loop of the search;
- `Reaches`, and the statement that wrapping steps go where the search on words
  goes;
- `Untried`, the invariant of the loop over divisors: the least factor of the
  number is still ahead, and the square of the divisor before is not beyond it;
- `Sound`, the invariant of the steps, under which no number is too great;
- the theorem that a search never overflows, so that it goes through the same
  positions in every arithmetic.

The variables are natural numbers here, put into their words by the arithmetic:
the candidate and the divisor have 64 bits, and the count has 32.
-/

namespace Throughput.Primes

/-- What becomes of a number that does not fit into a word. -/
inductive Arithmetic where
  /-- Words have no end. -/
  | unbounded
  /-- The number is reduced to the size of the word. -/
  | wrapping
  /-- The search stops. -/
  | checked
deriving DecidableEq, Repr

/-- A number put into a word that holds `size` numbers. -/
def Arithmetic.fit : Arithmetic → (size number : Nat) → Option Nat
  | .unbounded, _, number => some number
  | .wrapping, size, number => some (number % size)
  | .checked, size, number => if number < size then some number else none

/-- A point of the search. -/
inductive Position where
  /-- The next candidate is to be taken. -/
  | seek (count candidate : Nat)
  /-- A divisor of the candidate is to be tried. -/
  | divide (count candidate divisor : Nat)
  /-- The last prime has been counted. -/
  | found (count candidate : Nat)
  /-- A number did not fit, or a divisor was zero. -/
  | stopped
deriving DecidableEq, Repr

/-- The position after a prime has been met. -/
def countPrime (arithmetic : Arithmetic) (nth count candidate : Nat) : Position :=
  match arithmetic.fit UInt32.size (count + 1) with
  | none => .stopped
  | some next => if next = nth then .found next candidate else .seek next candidate

/-- One turn of the loop over candidates or of the loop over divisors. -/
def step (arithmetic : Arithmetic) (nth : Nat) : Position → Position
  | .seek count candidate =>
    match arithmetic.fit UInt64.size (candidate + 1) with
    | none => .stopped
    | some next => if next < 2 then .seek count next else .divide count next 2
  | .divide count candidate divisor =>
    match arithmetic.fit UInt64.size (divisor * divisor) with
    | none => .stopped
    | some square =>
      if square ≤ candidate then
        if divisor = 0 then .stopped
        else if candidate % divisor = 0 then .seek count candidate
        else
          match arithmetic.fit UInt64.size (divisor + 1) with
          | none => .stopped
          | some next => .divide count candidate next
      else countPrime arithmetic nth count candidate
  | .found count candidate => .found count candidate
  | .stopped => .stopped

/-- The position after so many steps from the beginning of a search. -/
def positionAt (arithmetic : Arithmetic) (nth steps : Nat) : Position :=
  (step arithmetic nth)^[steps] (.seek 0 1)

/-- Every variable fits into its word, and so does the square of the divisor;
the count is not above the number that is asked for. -/
def Position.Within (nth : Nat) : Position → Prop
  | .seek count candidate => count ≤ nth ∧ count < UInt32.size ∧ candidate < UInt64.size
  | .divide count candidate divisor =>
    count ≤ nth ∧ count < UInt32.size ∧ candidate < UInt64.size ∧ divisor < UInt64.size ∧
      divisor * divisor < UInt64.size
  | .found count candidate => count ≤ nth ∧ count < UInt32.size ∧ candidate < UInt64.size
  | .stopped => False

theorem Arithmetic.fit_of_lt {size number : Nat} (arithmetic : Arithmetic)
    (small : number < size) : arithmetic.fit size number = some number := by
  cases arithmetic with
  | unbounded => rfl
  | wrapping => exact congrArg some (Nat.mod_eq_of_lt small)
  | checked => exact if_pos small

/-! ### The steps, where the numbers fit -/

section Steps

variable {arithmetic : Arithmetic} {nth count candidate divisor : Nat}

theorem countPrime_of_lt (small : count + 1 < UInt32.size) :
    countPrime arithmetic nth count candidate =
      if count + 1 = nth then .found (count + 1) candidate else .seek (count + 1) candidate := by
  rw [countPrime, arithmetic.fit_of_lt small]

theorem step_seek (small : candidate + 1 < UInt64.size) :
    step arithmetic nth (.seek count candidate) =
      if candidate + 1 < 2 then .seek count (candidate + 1)
      else .divide count (candidate + 1) 2 := by
  rw [step, arithmetic.fit_of_lt small]

theorem step_divide_of_beyond (small : divisor * divisor < UInt64.size)
    (beyond : candidate < divisor * divisor) :
    step arithmetic nth (.divide count candidate divisor) =
      countPrime arithmetic nth count candidate := by
  rw [step, arithmetic.fit_of_lt small]
  exact if_neg (Nat.not_le.mpr beyond)

theorem step_divide_of_dvd (small : divisor * divisor < UInt64.size)
    (within : divisor * divisor ≤ candidate) (positive : 1 ≤ divisor)
    (divides : divisor ∣ candidate) :
    step arithmetic nth (.divide count candidate divisor) = .seek count candidate := by
  have notZero : divisor ≠ 0 := Nat.ne_of_gt positive
  rw [step, arithmetic.fit_of_lt small]
  simp only [if_pos within, if_neg notZero, Nat.mod_eq_zero_of_dvd divides, if_true]

theorem step_divide_of_not_dvd (small : divisor * divisor < UInt64.size)
    (within : divisor * divisor ≤ candidate) (positive : 1 ≤ divisor)
    (remains : ¬divisor ∣ candidate) :
    step arithmetic nth (.divide count candidate divisor) = .divide count candidate (divisor + 1) := by
  have notZero : divisor ≠ 0 := Nat.ne_of_gt positive
  have notDivided : candidate % divisor ≠ 0 := mt Nat.dvd_of_mod_eq_zero remains
  -- A word whose square is a word is itself far from the last one.
  have next : divisor + 1 < UInt64.size := by
    rw [UInt64.size] at small ⊢
    by_contra great
    have many : 2 ≤ divisor := by omega
    have more := Nat.mul_le_mul_right divisor many
    omega
  rw [step, arithmetic.fit_of_lt small]
  simp only [if_pos within, if_neg notZero, if_neg notDivided, arithmetic.fit_of_lt next]

end Steps

/-! ### Wrapping steps go where the search on words goes -/

/-- Some number of steps leads from one position to another. -/
def Reaches (arithmetic : Arithmetic) (nth : Nat) (first last : Position) : Prop :=
  ∃ steps, (step arithmetic nth)^[steps] first = last

namespace Reaches

variable {arithmetic : Arithmetic} {nth : Nat} {first between last : Position}

theorem refl (position : Position) : Reaches arithmetic nth position position :=
  ⟨0, rfl⟩

/-- A step, and more steps after it. -/
theorem head (moves : step arithmetic nth first = between)
    (reaches : Reaches arithmetic nth between last) : Reaches arithmetic nth first last := by
  obtain ⟨steps, arrives⟩ := reaches
  refine ⟨steps + 1, ?_⟩
  rw [Function.iterate_succ_apply, moves, arrives]

theorem trans (reaches : Reaches arithmetic nth first between)
    (onward : Reaches arithmetic nth between last) : Reaches arithmetic nth first last := by
  obtain ⟨steps, arrives⟩ := reaches
  obtain ⟨more, arrivesLater⟩ := onward
  refine ⟨more + steps, ?_⟩
  rw [Function.iterate_add_apply, arrives, arrivesLater]

end Reaches

/-- Where wrapping steps go when trial division gives its answer. -/
def afterTrial (nth count candidate : Nat) : Option Bool → Position
  | some false => .seek count candidate
  | some true => countPrime .wrapping nth count candidate
  | none => .stopped

section Words

/-- One turn of the loop over divisors, on words. -/
theorem step_divide_words (nth count : Nat) (number divisor : UInt64) :
    step .wrapping nth (.divide count number.toNat divisor.toNat) =
      if divisor * divisor ≤ number then
        if divisor = 0 then .stopped
        else if number % divisor = 0 then .seek count number.toNat
        else .divide count number.toNat (divisor + 1).toNat
      else countPrime .wrapping nth count number.toNat := by
  have within : divisor * divisor ≤ number ↔
      divisor.toNat * divisor.toNat % UInt64.size ≤ number.toNat := by
    rw [UInt64.le_iff_toNat_le, UInt64.toNat_mul]
  have zero : divisor = 0 ↔ divisor.toNat = 0 := UInt64.toNat_inj.symm
  have divides : number % divisor = 0 ↔ number.toNat % divisor.toNat = 0 := by
    rw [mod_eq_zero_iff, Nat.dvd_iff_mod_eq_zero]
  have next : (divisor + 1).toNat = (divisor.toNat + 1) % UInt64.size := UInt64.toNat_add ..
  simp only [step, Arithmetic.fit, within, zero, divides, next]

/-- The loop over divisors, from any divisor. -/
theorem reaches_noDivisorFrom (nth count : Nat) (number divisor : UInt64) :
    Reaches .wrapping nth (.divide count number.toNat divisor.toNat)
      (afterTrial nth count number.toNat (noDivisorFrom number divisor)) := by
  fun_induction noDivisorFrom number divisor with
  | case1 within =>
      have stops := step_divide_words nth count number 0
      rw [if_pos within, if_pos rfl] at stops
      exact .head stops (.refl _)
  | case2 divisor within notZero divides =>
      have divided := step_divide_words nth count number divisor
      rw [if_pos within, if_neg notZero, if_pos divides] at divided
      exact .head divided (.refl _)
  | case3 divisor within notZero remains inductionHypothesis =>
      have goesOn := step_divide_words nth count number divisor
      rw [if_pos within, if_neg notZero, if_neg remains] at goesOn
      exact .head goesOn inductionHypothesis
  | case4 divisor beyond =>
      have ends := step_divide_words nth count number divisor
      rw [if_neg beyond] at ends
      exact .head ends (.refl _)

/-- The next candidate and its trial division. -/
theorem reaches_isPrime (nth count : Nat) {candidate : UInt64}
    (below : candidate < greatestWord) :
    Reaches .wrapping nth (.seek count candidate.toNat)
      (afterTrial nth count (candidate + 1).toNat (isPrime (candidate + 1))) := by
  obtain ⟨next, less⟩ := toNat_next below
  have small : candidate.toNat + 1 < UInt64.size := Nat.succ_lt_of_lt_pred less
  have takes : step .wrapping nth (.seek count candidate.toNat) =
      if candidate.toNat + 1 < 2 then .seek count (candidate.toNat + 1)
      else .divide count (candidate.toNat + 1) 2 := step_seek small
  rw [← next] at takes
  have tiny_iff : candidate + 1 < 2 ↔ (candidate + 1).toNat < 2 := UInt64.lt_iff_toNat_lt
  unfold isPrime
  by_cases tiny : candidate + 1 < 2
  · rw [if_pos (tiny_iff.mp tiny)] at takes
    rw [if_pos tiny]
    exact .head takes (.refl _)
  · rw [if_neg (mt tiny_iff.mpr tiny)] at takes
    rw [if_neg tiny]
    exact .head takes (reaches_noDivisorFrom nth count _ 2)

/-- The loop over candidates: where the search on words finds a prime,
wrapping steps find it. -/
theorem reaches_primeAfter {nth count : UInt32} {candidate found : UInt64}
    (fewer : count.toNat < nth.toNat) (searched : primeAfter nth count candidate = some found) :
    Reaches .wrapping nth.toNat (.seek count.toNat candidate.toNat)
      (.found nth.toNat found.toNat) := by
  have noWrap : ∀ {count : UInt32}, count.toNat < nth.toNat → count.toNat + 1 < UInt32.size :=
    fun fewer => Nat.lt_of_le_of_lt fewer nth.toNat_lt
  fun_induction primeAfter nth count candidate with
  | case1 count candidate _ _ => cases searched
  | case2 count candidate below answer inductionHypothesis =>
      have tried := reaches_isPrime nth.toNat count.toNat below
      rw [answer] at tried
      exact tried.trans (inductionHypothesis fewer searched)
  | case3 count candidate below answer last =>
      have tried := reaches_isPrime nth.toNat count.toNat below
      have isLast : count.toNat + 1 = nth.toNat := by
        rw [← toNat_succ_count fewer, last]
      rw [answer, afterTrial, countPrime_of_lt (noWrap fewer), if_pos isLast, isLast] at tried
      rw [← Option.some.inj searched]
      exact tried
  | case4 count candidate below answer notLast inductionHypothesis =>
      have tried := reaches_isPrime nth.toNat count.toNat below
      have counted := toNat_succ_count fewer
      have isNotLast : count.toNat + 1 ≠ nth.toNat := by
        rw [← counted]
        exact fun last => notLast (UInt32.toNat_inj.mp last)
      rw [answer, afterTrial, countPrime_of_lt (noWrap fewer), if_neg isNotLast, ← counted] at tried
      refine tried.trans (inductionHypothesis ?_ searched)
      rw [counted]
      exact Nat.lt_of_le_of_ne fewer isNotLast
  | case5 count candidate _ => cases searched

end Words

/-! ### No number is too great -/

/-- What holds of a number when a divisor of it is to be tried: no factor has
been passed, and the square of the divisor before is not beyond the number. -/
structure Untried (number divisor : Nat) : Prop where
  two_le : 2 ≤ divisor
  le_minFac : divisor ≤ number.minFac
  square_le : (divisor - 1) * (divisor - 1) ≤ number

namespace Untried

variable {number divisor : Nat}

theorem first (large : 2 ≤ number) : Untried number 2 where
  two_le := Nat.le_refl 2
  le_minFac := (Nat.minFac_prime (by omega)).two_le
  square_le := by omega

theorem next (untried : Untried number divisor) (within : divisor * divisor ≤ number)
    (remains : ¬divisor ∣ number) : Untried number (divisor + 1) where
  two_le := Nat.le_succ_of_le untried.two_le
  le_minFac := by
    have different : divisor ≠ number.minFac := by
      rintro rfl
      exact remains number.minFac_dvd
    exact Nat.lt_of_le_of_ne untried.le_minFac different
  square_le := within

theorem not_prime_of_dvd (untried : Untried number divisor) (within : divisor * divisor ≤ number)
    (divides : divisor ∣ number) : ¬number.Prime := by
  intro prime
  have two := untried.two_le
  rcases prime.eq_one_or_self_of_dvd divisor divides with rfl | rfl
  · omega
  · have more := Nat.mul_le_mul_right divisor two
    omega

theorem prime_of_lt_square (untried : Untried number divisor) (beyond : number < divisor * divisor)
    (large : 2 ≤ number) : number.Prime := by
  by_contra composite
  have square : number.minFac ^ 2 ≤ number := Nat.minFac_sq_le_self (by omega) composite
  have atLeast := Nat.mul_le_mul untried.le_minFac untried.le_minFac
  rw [← pow_two number.minFac] at atLeast
  omega

end Untried

/-- What holds at every position of a search. -/
inductive Sound (nth : Nat) : Position → Prop where
  | seek {count candidate : Nat} (seeking : Seeking nth count candidate)
      (positive : 1 ≤ candidate) : Sound nth (.seek count candidate)
  | divide {count before divisor : Nat} (seeking : Seeking nth count before)
      (positive : 1 ≤ before) (untried : Untried (before + 1) divisor) :
      Sound nth (.divide count (before + 1) divisor)
  | found {candidate : Nat} (isNth : IsNth nth candidate) : Sound nth (.found nth candidate)

/-- The divisors of a candidate stay far below the size of a word. -/
theorem Untried.divisor_le {number divisor : Nat} (untried : Untried number divisor)
    (small : number ≤ candidateLimit) : divisor ≤ 524289 := by
  by_contra great
  have before : 524289 ≤ divisor - 1 := by omega
  have square := (Nat.mul_le_mul before before).trans (untried.square_le.trans small)
  rw [candidateLimit] at square
  omega

theorem Untried.square_lt {number divisor : Nat} (untried : Untried number divisor)
    (small : number ≤ candidateLimit) : divisor * divisor < UInt64.size := by
  have atMost := untried.divisor_le small
  exact Nat.lt_of_le_of_lt (Nat.mul_le_mul atMost atMost) (by decide)

namespace Sound

variable {nth : Nat} {position : Position}

theorem within (sound : Sound nth position) (isWord : nth < UInt32.size) :
    position.Within nth := by
  have toWord : candidateLimit < UInt64.size := by decide
  cases sound with
  | seek seeking _ =>
      have fewer := seeking.fewer
      have small := seeking.candidate_lt isWord
      exact ⟨fewer.le, fewer.trans isWord, small.trans toWord⟩
  | @divide _ _ divisor seeking _ untried =>
      have fewer := seeking.fewer
      have small := seeking.candidate_lt isWord
      have divisor_lt : divisor < UInt64.size :=
        Nat.lt_of_le_of_lt (untried.divisor_le small) (by decide)
      exact ⟨fewer.le, fewer.trans isWord, Nat.lt_of_le_of_lt small toWord, divisor_lt,
        untried.square_lt small⟩
  | found isNth =>
      have small := lt_candidateLimit (Nat.lt_of_le_of_lt isNth.counted.le isWord)
      exact ⟨Nat.le_refl nth, isWord, small.trans toWord⟩

/-- From a sound position, every arithmetic takes one and the same step, to a
sound position. -/
theorem exists_next (sound : Sound nth position) (isWord : nth < UInt32.size) :
    ∃ next, Sound nth next ∧ ∀ arithmetic, step arithmetic nth position = next := by
  cases sound with
  | @seek count candidate seeking positive =>
      have small := seeking.candidate_lt isWord
      have large : ¬candidate + 1 < 2 := by omega
      refine ⟨.divide count (candidate + 1) 2,
        .divide seeking positive (.first (Nat.succ_le_succ positive)), fun arithmetic => ?_⟩
      rw [step_seek (Nat.lt_of_le_of_lt small (by decide)), if_neg large]
  | @divide count before divisor seeking positive untried =>
      have small := seeking.candidate_lt isWord
      have square := untried.square_lt small
      have two := untried.two_le
      rcases Nat.lt_or_ge (before + 1) (divisor * divisor) with beyond | within
      · have prime := untried.prime_of_lt_square beyond (Nat.succ_le_succ positive)
        have counts : ∀ arithmetic, step arithmetic nth (.divide count (before + 1) divisor) =
            if count + 1 = nth then .found (count + 1) (before + 1)
            else .seek (count + 1) (before + 1) := fun arithmetic => by
          rw [step_divide_of_beyond square beyond,
            countPrime_of_lt (Nat.lt_of_le_of_lt seeking.fewer isWord)]
        by_cases last : count + 1 = nth
        · simp only [if_pos last] at counts
          rw [last] at counts
          exact ⟨_, .found (seeking.arrive prime last), counts⟩
        · simp only [if_neg last] at counts
          exact ⟨_, .seek (seeking.goOn prime last) (Nat.le_succ_of_le positive), counts⟩
      · by_cases divides : divisor ∣ before + 1
        · have composite := untried.not_prime_of_dvd within divides
          exact ⟨_, .seek (seeking.skip composite) (Nat.le_succ_of_le positive),
            fun _ => step_divide_of_dvd square within (Nat.le_of_succ_le two) divides⟩
        · exact ⟨_, .divide seeking positive (untried.next within divides),
            fun _ => step_divide_of_not_dvd square within (Nat.le_of_succ_le two) divides⟩
  | found isNth => exact ⟨_, .found isNth, fun _ => rfl⟩

end Sound

/-- What one step preserves, a run preserves: in every arithmetic the search is
at one and the same sound position. -/
theorem exists_positionAt {nth : Nat} (counted : 1 ≤ nth) (isWord : nth < UInt32.size)
    (steps : Nat) :
    ∃ position, Sound nth position ∧ ∀ arithmetic, positionAt arithmetic nth steps = position := by
  induction steps with
  | zero => exact ⟨_, .seek (.begin counted) (Nat.le_refl 1), fun _ => rfl⟩
  | succ steps inductionHypothesis =>
      obtain ⟨position, sound, isThere⟩ := inductionHypothesis
      obtain ⟨next, soundNext, moves⟩ := sound.exists_next isWord
      refine ⟨next, soundNext, fun arithmetic => ?_⟩
      rw [positionAt, Function.iterate_succ_apply']
      exact (congrArg _ (isThere arithmetic)).trans (moves arithmetic)

/-- A search never overflows, whatever number is asked for. At each of its
positions the candidate, the divisor and the square of the divisor fit into 64
bits, and the count does not exceed the number. So checked, wrapping and
unbounded arithmetic go through the same positions, step by step, and after the
same number of steps they find the prime that the search on words finds. -/
theorem nthPrime_never_overflows
    (nth : UInt32)
    (counted : 1 ≤ nth) :
    (∀ arithmetic steps,
      (positionAt arithmetic nth.toNat steps).Within nth.toNat ∧
        positionAt arithmetic nth.toNat steps = positionAt .unbounded nth.toNat steps) ∧
    ∃ found steps, nthPrime nth = some found ∧
      ∀ arithmetic, positionAt arithmetic nth.toNat steps = .found nth.toNat found.toNat := by
  have isWord : nth.toNat < UInt32.size := nth.toNat_lt
  have positive : 1 ≤ nth.toNat := UInt32.le_iff_toNat_le.mp counted
  have same : ∀ arithmetic steps,
      positionAt arithmetic nth.toNat steps = positionAt .unbounded nth.toNat steps := by
    intro arithmetic steps
    obtain ⟨position, _, isThere⟩ := exists_positionAt positive isWord steps
    rw [isThere, isThere]
  refine ⟨fun arithmetic steps => ⟨?_, same arithmetic steps⟩, ?_⟩
  · obtain ⟨position, sound, isThere⟩ := exists_positionAt positive isWord steps
    rw [isThere]
    exact sound.within isWord
  · obtain ⟨found, searched, _⟩ := nthPrime_isNth counted
    have fewer : (0 : UInt32).toNat < nth.toNat := positive
    obtain ⟨steps, arrives⟩ : Reaches .wrapping nth.toNat (.seek 0 1) (.found nth.toNat found.toNat) :=
      reaches_primeAfter fewer searched
    refine ⟨found, steps, searched, fun arithmetic => ?_⟩
    rw [same, ← same .wrapping]
    exact arrives

/-- The greatest number that can be asked for. -/
theorem last_search_never_overflows :
    (1 : UInt32) ≤ 4294967295 ∧
    ∀ arithmetic steps, (positionAt arithmetic 4294967295 steps).Within 4294967295 :=
  ⟨by decide, fun arithmetic steps =>
    ((nthPrime_never_overflows 4294967295 (by decide)).1 arithmetic steps).1⟩

end Throughput.Primes
