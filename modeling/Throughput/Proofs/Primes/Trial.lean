import Mathlib.Data.Nat.Prime.Basic
import Mathlib.Order.WellFounded
import Mathlib.Tactic.IntervalCases
import Mathlib.Tactic.NormNum.Prime
import Throughput.Primes

/-!
Contract: trial division tells for every word whether it is a prime.

Owns:
- `ComesTo`, that the loop over divisors comes to a divisor, and what that says
  of the divisors before;
- where the loop ends: for a composite number at its least factor, for a prime
  at the first divisor whose square, reduced to a word, is greater;
- the theorem that the answer is right for every word.

The least factor of a composite number is met before any square leaves the
words. For a prime above their squares the loop passes the square root. It still
ends before it comes to the prime itself: `2 ^ 64 - 7` is among the squares that
are reduced to a word, and no prime of 64 bits is as great.
-/

namespace Throughput.Primes

/-- The divisors whose square fits into a word lie below this one. -/
def divisorLimit : UInt64 := 4294967296

/-- The greatest square that fits into a word, that of the divisor before
`divisorLimit`. -/
def greatestSquare : Nat := 18446744065119617025

theorem not_prime_greatestSquare : ¬greatestSquare.Prime :=
  Nat.not_prime_mul (a := 4294967295) (b := 4294967295) (by decide) (by decide)

/-- The square of a word fits into a word exactly if the word lies below the
limit. -/
theorem lt_divisorLimit_iff (divisor : UInt64) :
    divisor < divisorLimit ↔ divisor.toNat * divisor.toNat < UInt64.size := by
  have limit : divisorLimit.toNat = 4294967296 := rfl
  rw [UInt64.lt_iff_toNat_lt, limit]
  constructor
  · intro below
    have atMost : divisor.toNat ≤ 4294967295 := by omega
    exact Nat.lt_of_le_of_lt (Nat.mul_le_mul atMost atMost) (by decide)
  · intro fits
    by_contra above
    have atLeast : 4294967296 ≤ divisor.toNat := Nat.not_lt.mp above
    exact Nat.not_lt.mpr (Nat.mul_le_mul atLeast atLeast) fits

/-- Below the limit, the square does not wrap. -/
theorem square_le_iff {divisor : UInt64} (below : divisor < divisorLimit) (number : UInt64) :
    divisor * divisor ≤ number ↔ divisor.toNat * divisor.toNat ≤ number.toNat := by
  have small := (lt_divisorLimit_iff divisor).mp below
  rw [UInt64.le_iff_toNat_le, UInt64.toNat_mul, Nat.mod_eq_of_lt small]

theorem mod_eq_zero_iff (number divisor : UInt64) :
    number % divisor = 0 ↔ divisor.toNat ∣ number.toNat := by
  rw [Nat.dvd_iff_mod_eq_zero, ← UInt64.toNat_mod, ← UInt64.toNat_inj]
  rfl

/-! ### The loop over divisors -/

/-- The loop comes to a divisor, and squares it. -/
inductive ComesTo (number : UInt64) : UInt64 → Prop where
  | first (large : ¬number < 2) : ComesTo number 2
  | next {divisor : UInt64} (comes : ComesTo number divisor)
      (within : divisor * divisor ≤ number) (notZero : ¬divisor = 0)
      (remains : ¬number % divisor = 0) : ComesTo number (divisor + 1)

/-- All divisors before have a square that is not greater, reduced to a word,
and leave a remainder. -/
def Passed (number divisor : UInt64) : Prop :=
  ∀ earlier : UInt64, 2 ≤ earlier.toNat → earlier.toNat < divisor.toNat →
    earlier * earlier ≤ number ∧ ¬earlier.toNat ∣ number.toNat

/-- The divisors do not wrap: the loop ends at the number itself, if not before,
and at three if the number is the greatest word. -/
theorem Passed.lt_greatestWord {number divisor : UInt64} (passed : Passed number divisor)
    (large : 2 ≤ number.toNat) : divisor < greatestWord := by
  by_contra notBelow
  have last : greatestWord.toNat ≤ divisor.toNat :=
    UInt64.le_iff_toNat_le.mp (UInt64.not_lt.mp notBelow)
  have greatest : greatestWord.toNat = 18446744073709551615 := rfl
  rcases Nat.lt_or_ge number.toNat divisor.toNat with below | above
  · exact (passed number large below).2 (Nat.dvd_refl number.toNat)
  · have limit := number.toNat_lt
    have same : number.toNat = 18446744073709551615 := by omega
    have three : (3 : UInt64).toNat = 3 := rfl
    have remains := (passed 3 (by decide) (by omega)).2
    rw [three, same] at remains
    exact remains (by decide)

namespace ComesTo

variable {number divisor : UInt64}

theorem large (comes : ComesTo number divisor) : 2 ≤ number.toNat := by
  induction comes with
  | first large => exact UInt64.le_iff_toNat_le.mp (UInt64.not_lt.mp large)
  | next _ _ _ _ inductionHypothesis => exact inductionHypothesis

/-- The answer is decided from there on. -/
theorem isPrime_eq (comes : ComesTo number divisor) :
    isPrime number = noDivisorFrom number divisor := by
  induction comes with
  | first large => rw [isPrime, if_neg large]
  | next _ within notZero remains inductionHypothesis =>
      rw [inductionHypothesis, noDivisorFrom, if_pos within, dif_neg notZero, if_neg remains]

theorem passed (comes : ComesTo number divisor) :
    2 ≤ divisor.toNat ∧ Passed number divisor := by
  induction comes with
  | first large =>
      refine ⟨Nat.le_refl 2, fun earlier twoLe below => ?_⟩
      exact absurd below (Nat.not_lt.mpr twoLe)
  | @next divisor comes within notZero remains inductionHypothesis =>
      obtain ⟨twoLe, passed⟩ := inductionHypothesis
      have next := (toNat_next (passed.lt_greatestWord comes.large)).1
      rw [next]
      refine ⟨Nat.le_succ_of_le twoLe, fun earlier isDivisor below => ?_⟩
      rw [next] at below
      rcases Nat.lt_succ_iff_lt_or_eq.mp below with before | same
      · exact passed earlier isDivisor before
      · rw [UInt64.toNat_inj.mp same]
        exact ⟨within, mt (mod_eq_zero_iff number divisor).mpr remains⟩

theorem isPrime_of_dvd (comes : ComesTo number divisor) (within : divisor * divisor ≤ number)
    (divides : divisor.toNat ∣ number.toNat) : isPrime number = some false := by
  have notZero : ¬divisor = 0 := by
    rintro rfl
    exact absurd comes.passed.1 (by decide)
  rw [comes.isPrime_eq, noDivisorFrom, if_pos within, dif_neg notZero,
    if_pos ((mod_eq_zero_iff number divisor).mpr divides)]

theorem isPrime_of_beyond (comes : ComesTo number divisor) (beyond : number < divisor * divisor) :
    isPrime number = some true := by
  rw [comes.isPrime_eq, noDivisorFrom, if_neg (UInt64.not_le.mpr beyond)]

end ComesTo

/-- By induction on the divisors that have been reached. -/
theorem Passed.comesTo {number divisor : UInt64} (passed : Passed number divisor)
    (large : 2 ≤ number.toNat) (twoLe : 2 ≤ divisor.toNat) : ComesTo number divisor := by
  have arrives : ∀ reached, 2 ≤ reached → reached ≤ divisor.toNat →
      ComesTo number (.ofNat reached) := by
    intro reached isDivisor
    induction reached, isDivisor using Nat.le_induction with
    | base =>
        intro _
        exact .first (UInt64.not_lt.mpr (UInt64.le_iff_toNat_le.mpr large))
    | succ reached isDivisor inductionHypothesis =>
        intro before
        have back : (UInt64.ofNat reached).toNat = reached :=
          UInt64.toNat_ofNat_of_lt' (Nat.lt_trans before divisor.toNat_lt)
        have pass := passed (.ofNat reached)
        rw [back] at pass
        obtain ⟨within, remains⟩ := pass isDivisor before
        have notZero : ¬UInt64.ofNat reached = 0 := by
          intro isZero
          rw [isZero] at back
          have zero : (0 : UInt64).toNat = 0 := rfl
          omega
        rw [← back] at remains
        rw [UInt64.ofNat_add]
        exact .next (inductionHypothesis (Nat.le_of_lt before)) within notZero
          (mt (mod_eq_zero_iff number _).mp remains)
  have arrived := arrives divisor.toNat twoLe (Nat.le_refl _)
  rwa [UInt64.ofNat_toNat] at arrived

/-- The loop comes to a divisor exactly if it passes all the divisors before. -/
theorem comesTo_iff {number divisor : UInt64} :
    ComesTo number divisor ↔
      2 ≤ number.toNat ∧ 2 ≤ divisor.toNat ∧ Passed number divisor :=
  ⟨fun comes => ⟨comes.large, comes.passed⟩,
    fun ⟨large, twoLe, passed⟩ => passed.comesTo large twoLe⟩

/-! ### Composite numbers -/

/-- The least factor of a composite number is a word whose square fits. -/
theorem exists_factor {number : UInt64} (large : 2 ≤ number.toNat)
    (composite : ¬number.toNat.Prime) :
    ∃ factor : UInt64, factor.toNat = number.toNat.minFac ∧ 2 ≤ factor.toNat ∧
      factor < divisorLimit ∧ factor.toNat * factor.toNat ≤ number.toNat := by
  have twoLe : 2 ≤ number.toNat.minFac := (Nat.minFac_prime (by omega)).two_le
  have square : number.toNat.minFac ^ 2 ≤ number.toNat :=
    Nat.minFac_sq_le_self (by omega) composite
  have isWord : number.toNat.minFac < UInt64.size :=
    Nat.lt_of_le_of_lt (Nat.minFac_le (by omega)) number.toNat_lt
  have back : (UInt64.ofNat number.toNat.minFac).toNat = number.toNat.minFac :=
    UInt64.toNat_ofNat_of_lt' isWord
  rw [pow_two, ← back] at square
  rw [← back] at twoLe
  have fits := Nat.lt_of_le_of_lt square number.toNat_lt
  exact ⟨_, back, twoLe, (lt_divisorLimit_iff _).mpr fits, square⟩

theorem isPrime_of_not_prime {number : UInt64} (large : 2 ≤ number.toNat)
    (composite : ¬number.toNat.Prime) : isPrime number = some false := by
  obtain ⟨factor, least, twoLe, below, square⟩ := exists_factor large composite
  have passed : Passed number factor := by
    intro earlier isDivisor before
    have earlierBelow : earlier < divisorLimit := UInt64.lt_trans before below
    refine ⟨(square_le_iff earlierBelow number).mpr ?_, fun divides => ?_⟩
    · exact (Nat.mul_le_mul before.le before.le).trans square
    · have noLess := Nat.minFac_le_of_dvd isDivisor divides
      omega
  apply (passed.comesTo large twoLe).isPrime_of_dvd ((square_le_iff below number).mpr square)
  rw [least]
  exact number.toNat.minFac_dvd

/-! ### Primes -/

/-- No prime of 64 bits is as great as this number, which is a square of a word
reduced to a word. -/
theorem lt_of_prime {number : Nat} (prime : number.Prime) (isWord : number < UInt64.size) :
    number < 18446744073709551609 := by
  by_contra above
  rw [UInt64.size] at isWord
  rw [Nat.not_lt] at above
  interval_cases number
  all_goals norm_num at prime

/-- Some divisor that is not beyond a prime has a greater square, also when that
is reduced to a word. -/
theorem exists_square_above {number : UInt64} (prime : number.toNat.Prime) :
    ∃ last : UInt64, 2 ≤ last.toNat ∧ last.toNat ≤ number.toNat ∧ number < last * last := by
  rcases Nat.lt_or_ge greatestSquare number.toNat with great | small
  · have below := lt_of_prime prime number.toNat_lt
    have root : (1852311383259529397 : UInt64).toNat = 1852311383259529397 := rfl
    rw [greatestSquare] at great
    refine ⟨1852311383259529397, by omega, by omega, ?_⟩
    exact UInt64.lt_iff_toNat_lt.mpr below
  · -- Up to the greatest square, it is the divisor after the square root.
    have notSquare : number.toNat ≠ greatestSquare := by
      intro same
      rw [same] at prime
      exact not_prime_greatestSquare prime
    have root : number.toNat.sqrt < 4294967295 :=
      Nat.sqrt_lt.mpr (Nat.lt_of_le_of_ne small notSquare)
    have back : (UInt64.ofNat (number.toNat.sqrt + 1)).toNat = number.toNat.sqrt + 1 :=
      UInt64.toNat_ofNat_of_lt' (by rw [UInt64.size]; omega)
    have within : number.toNat.sqrt < number.toNat := Nat.sqrt_lt_self prime.one_lt
    have positive : 0 < number.toNat.sqrt := Nat.sqrt_pos.mpr prime.pos
    have below : UInt64.ofNat (number.toNat.sqrt + 1) < divisorLimit := by
      rw [UInt64.lt_iff_toNat_lt, back]
      exact Nat.succ_lt_succ root
    refine ⟨.ofNat (number.toNat.sqrt + 1), by omega, by omega, ?_⟩
    rw [← UInt64.not_le, square_le_iff below, back]
    exact Nat.not_le.mpr (Nat.lt_succ_sqrt number.toNat)

theorem isPrime_of_prime {number : UInt64} (prime : number.toNat.Prime) :
    isPrime number = some true := by
  obtain ⟨last, isDivisor, notBeyond, above⟩ := exists_square_above prime
  -- The loop ends at the least of the divisors with a greater square.
  obtain ⟨least, ⟨twoLe, beyond⟩, isLeast⟩ := (measure UInt64.toNat).wf.has_min
    {divisor : UInt64 | 2 ≤ divisor.toNat ∧ number < divisor * divisor} ⟨last, isDivisor, above⟩
  have leastLe : least.toNat ≤ last.toNat := Nat.not_lt.mp (isLeast last ⟨isDivisor, above⟩)
  have passed : Passed number least := by
    intro earlier earlierIsDivisor before
    refine ⟨?_, fun divides => ?_⟩
    · rw [← UInt64.not_lt]
      exact fun beyond => isLeast earlier ⟨earlierIsDivisor, beyond⟩ before
    · have self := (Nat.dvd_prime_two_le prime earlierIsDivisor).mp divides
      omega
  exact (passed.comesTo prime.two_le twoLe).isPrime_of_beyond beyond

/-- Trial division decides for every word whether it is a prime. -/
theorem isPrime_eq (number : UInt64) :
    isPrime number = some (decide number.toNat.Prime) := by
  by_cases prime : number.toNat.Prime
  · rw [isPrime_of_prime prime, decide_eq_true prime]
  · rw [decide_eq_false prime]
    rcases Nat.lt_or_ge number.toNat 2 with tiny | large
    · rw [isPrime, if_pos (UInt64.lt_iff_toNat_lt.mpr tiny)]
    · exact isPrime_of_not_prime large prime

end Throughput.Primes
