import Mathlib.Data.List.Prime
import Mathlib.Data.Nat.ModEq
import Mathlib.NumberTheory.LucasPrimality
import Mathlib.Tactic.ReduceModChar
import Mathlib.Tactic.Ring
import Throughput.Proofs.Primes.Trial

/-!
Contract: for which words trial division squares a divisor that is too great.

Owns:
- `Overruns`, that the loop squares a divisor whose square does not fit into a
  word, and the numbers for which it does: the primes above the greatest square;
- the theorem that says what trial division answers and when it overruns;
- how far the loop goes for a prime near the end of the words.

The loop has to pass the square root of a prime. Above the greatest square of a
word there is no divisor that does: the square of `2 ^ 32` wraps to zero, and
the divisors go on until a square leaves a remainder greater than the prime.
-/

namespace Throughput.Primes

/-- The loop over divisors squares one whose square does not fit into a word. -/
def Overruns (number : UInt64) : Prop :=
  ∃ divisor, ComesTo number divisor ∧ UInt64.size ≤ divisor.toNat * divisor.toNat

/-- Where all the divisors below the limit have been passed, the number is a
prime, and greater than their squares. -/
theorem Passed.prime_of_limit {number divisor : UInt64} (passed : Passed number divisor)
    (large : 2 ≤ number.toNat) (limit : ¬divisor < divisorLimit) :
    number.toNat.Prime ∧ greatestSquare < number.toNat := by
  have atLimit : divisorLimit.toNat ≤ divisor.toNat :=
    UInt64.le_iff_toNat_le.mp (UInt64.not_lt.mp limit)
  have prime : number.toNat.Prime := by
    by_contra composite
    obtain ⟨factor, least, twoLe, below, _⟩ := exists_factor large composite
    have remains := (passed factor twoLe (Nat.lt_of_lt_of_le below atLimit)).2
    rw [least] at remains
    exact remains number.toNat.minFac_dvd
  have square : 4294967295 * 4294967295 ≤ number :=
    (passed 4294967295 (by decide) (Nat.lt_of_lt_of_le (by decide) atLimit)).1
  refine ⟨prime, Nat.lt_of_le_of_ne (UInt64.le_iff_toNat_le.mp square) ?_⟩
  intro same
  change greatestSquare = number.toNat at same
  rw [← same] at prime
  exact not_prime_greatestSquare prime

/-- A prime above the greatest square has all the divisors below the limit
passed. -/
theorem comesTo_limit {number : UInt64} (prime : number.toNat.Prime)
    (great : greatestSquare < number.toNat) : ComesTo number divisorLimit := by
  have limit : divisorLimit.toNat = 4294967296 := rfl
  refine comesTo_iff.mpr ⟨prime.two_le, by decide, fun earlier isDivisor before => ?_⟩
  refine ⟨(square_le_iff before number).mpr ?_, fun divides => ?_⟩
  · have atMost : earlier.toNat ≤ 4294967295 := by omega
    exact (Nat.mul_le_mul atMost atMost).trans great.le
  · rw [greatestSquare] at great
    have self := (Nat.dvd_prime_two_le prime isDivisor).mp divides
    omega

theorem overruns_iff (number : UInt64) :
    Overruns number ↔ number.toNat.Prime ∧ greatestSquare < number.toNat := by
  constructor
  · rintro ⟨divisor, comes, tooGreat⟩
    have limit : ¬divisor < divisorLimit :=
      fun below => Nat.not_lt.mpr tooGreat ((lt_divisorLimit_iff divisor).mp below)
    exact comes.passed.2.prime_of_limit comes.large limit
  · rintro ⟨prime, great⟩
    exact ⟨divisorLimit, comesTo_limit prime great, by decide⟩

/-- What trial division answers for every word, and when it leaves the words. It
always ends with the right answer: whether the number is a prime. The square of
a divisor runs over for the primes above the greatest square of a word, and for
no other number. -/
theorem isPrime_right_and_overruns_iff (number : UInt64) :
    isPrime number = some (decide number.toNat.Prime) ∧
      (Overruns number ↔ number.toNat.Prime ∧ greatestSquare < number.toNat) :=
  ⟨isPrime_eq number, overruns_iff number⟩

/-! ### A prime near the end of the words -/

/-- Lucas's test of a number, from the prime factors of its predecessor. -/
theorem prime_of_factors {number : Nat} (base : ZMod number) (factors : List Nat)
    (primes : ∀ factor ∈ factors, factor.Prime) (product : factors.prod = number - 1)
    (cycles : base ^ (number - 1) = 1)
    (notSooner : ∀ factor ∈ factors, base ^ ((number - 1) / factor) ≠ 1) : number.Prime := by
  refine lucas_primality number base cycles fun factor isPrime divides => notSooner factor ?_
  rw [← product] at divides
  exact mem_list_primes_of_dvd_prod isPrime.prime
    (fun other member => (primes other member).prime) divides

/-- The greatest factor of `2 ^ 64 - 60`. -/
theorem prime_factor : Nat.Prime 5594472617641 := by
  refine prime_of_factors 13 [2, 2, 2, 3, 5, 1427, 2131, 15331] ?_ rfl ?_ ?_
  · norm_num
  · reduce_mod_char
  · simp only [List.forall_mem_cons, List.not_mem_nil]
    norm_num
    reduce_mod_char
    decide

/-- The number `2 ^ 64 - 59` is a prime: the powers of two run through all its
residues but zero. -/
theorem prime_near_end : Nat.Prime 18446744073709551557 := by
  refine prime_of_factors 2 [2, 2, 11, 137, 547, 5594472617641] ?_ rfl ?_ ?_
  · simp only [List.forall_mem_cons, prime_factor]
    norm_num
  · reduce_mod_char
  · simp only [List.forall_mem_cons, List.not_mem_nil]
    norm_num
    reduce_mod_char
    decide

theorem odd_square_mod {number : Nat} (odd : number % 2 = 1) : number * number % 8 = 1 := by
  have residues : number % 8 = 1 ∨ number % 8 = 3 ∨ number % 8 = 5 ∨ number % 8 = 7 := by omega
  rw [Nat.mul_mod]
  rcases residues with residue | residue | residue | residue
  all_goals rw [residue]

/-- Two odd numbers whose sum is small have different squares, also when these
are reduced to a power of two. -/
theorem odd_squares_ne {first second : Nat} (exponent : Nat) (firstOdd : first % 2 = 1)
    (secondOdd : second % 2 = 1) (less : first < second)
    (small : first + second < 2 ^ (exponent + 1)) :
    first * first % 2 ^ (exponent + 2) ≠ second * second % 2 ^ (exponent + 2) := by
  intro same
  obtain ⟨half, difference⟩ : ∃ half, second = first + 2 * half :=
    ⟨(second - first) / 2, by omega⟩
  -- The square of the second is that of the first and four times this product.
  have divides : 2 ^ exponent ∣ half * (first + half) := by
    have atLeast : first * first ≤ second * second := Nat.mul_le_mul less.le less.le
    have more : second * second - first * first = 4 * (half * (first + half)) := by
      rw [difference]
      have expand : (first + 2 * half) * (first + 2 * half) =
          first * first + 4 * (half * (first + half)) := by ring
      rw [expand, Nat.add_sub_cancel_left]
    have divided := (Nat.modEq_iff_dvd' atLeast).mp same
    rw [more, pow_add, Nat.mul_comm (2 ^ exponent)] at divided
    exact Nat.dvd_of_mul_dvd_mul_left (by norm_num) divided
  have bounds : 0 < half ∧ first + half < 2 ^ exponent := by
    rw [pow_succ] at small
    omega
  -- One of the two factors is odd, so that the power of two divides the other.
  rcases Nat.mod_two_eq_zero_or_one half with even | odd
  · have coprime : (2 ^ exponent).Coprime (first + half) :=
      Nat.Coprime.pow_left exponent (Nat.coprime_two_left.mpr (Nat.odd_iff.mpr (by omega)))
    have atMost := Nat.le_of_dvd bounds.1 (coprime.dvd_of_dvd_mul_right divides)
    omega
  · have coprime : (2 ^ exponent).Coprime half :=
      Nat.Coprime.pow_left exponent (Nat.coprime_two_left.mpr (Nat.odd_iff.mpr odd))
    have atMost := Nat.le_of_dvd (by omega) (coprime.dvd_of_dvd_mul_left divides)
    omega

/-- What a square lacks to the power of two decides which of two odd numbers it
is the square of. -/
theorem odd_square_add_ne {number gap : Nat} (exponent root : Nat) (odd : number % 2 = 1)
    (rootOdd : root % 2 = 1) (less : number < root) (small : number + root < 2 ^ (exponent + 1))
    (isRoot : root * root % 2 ^ (exponent + 2) + gap = 2 ^ (exponent + 2)) :
    number * number % 2 ^ (exponent + 2) + gap ≠ 2 ^ (exponent + 2) := by
  have different := odd_squares_ne exponent odd rootOdd less small
  omega

/-- What the square of an odd number lacks to the end of the words. It leaves
seven as a remainder of eight, and so has one of few values up to 58; each of them
belongs to greater numbers. -/
theorem lt_gap_of_odd {number gap : Nat} (odd : number % 2 = 1)
    (small : number < 907063251908329110)
    (sum : number * number % 18446744073709551616 + gap = 18446744073709551616) : 58 < gap := by
  by_contra few
  have residue := odd_square_mod odd
  have gaps : gap = 7 ∨ gap = 15 ∨ gap = 23 ∨ gap = 31 ∨ gap = 39 ∨ gap = 47 ∨ gap = 55 := by
    omega
  rcases gaps with rfl | rfl | rfl | rfl | rfl | rfl | rfl
  · exact odd_square_add_ne 62 1852311383259529397 odd rfl (by omega) (by omega) rfl sum
  · exact odd_square_add_ne 62 1215244570335492903 odd rfl (by omega) (by omega) rfl sum
  · exact odd_square_add_ne 62 4254847139108525011 odd rfl (by omega) (by omega) rfl sum
  · exact odd_square_add_ne 62 1735557714909505679 odd rfl (by omega) (by omega) rfl sum
  · exact odd_square_add_ne 62 2025957358496416667 odd rfl (by omega) (by omega) rfl sum
  · exact odd_square_add_ne 62 2087343169315219913 odd rfl (by omega) (by omega) rfl sum
  · exact odd_square_add_ne 62 4258566776166955869 odd rfl (by omega) (by omega) rfl sum

/-- The same for the square of an even number. It is four times that of its half,
which lacks a quarter as much to a power of two: seven if the half is odd, and
three at most, which no square does, if it is even. -/
theorem lt_gap_of_even {half gap : Nat} (small : half < 453531625954164555) (positive : 0 < gap)
    (sum : 2 * half * (2 * half) % 18446744073709551616 + gap = 18446744073709551616) :
    58 < gap := by
  by_contra few
  have square := Nat.mul_mul_mul_comm 2 half 2 half
  have halfSum : half * half % 4611686018427387904 + gap / 4 = 4611686018427387904 := by omega
  rcases Nat.mod_two_eq_zero_or_one half with even | odd
  · obtain ⟨quarter, rfl⟩ : ∃ quarter, half = 2 * quarter := ⟨half / 2, by omega⟩
    have halfSquare := Nat.mul_mul_mul_comm 2 quarter 2 quarter
    rcases Nat.mod_two_eq_zero_or_one quarter with quarterEven | quarterOdd
    · obtain ⟨eighth, rfl⟩ : ∃ eighth, quarter = 2 * eighth := ⟨quarter / 2, by omega⟩
      have quarterSquare := Nat.mul_mul_mul_comm 2 eighth 2 eighth
      omega
    · have residue := odd_square_mod quarterOdd
      omega
  · have residue := odd_square_mod odd
    have seven : gap / 4 = 7 := by omega
    rw [seven] at halfSum
    exact odd_square_add_ne 60 453531625954164555 odd rfl small (by omega) rfl halfSum

/-- The squares of these numbers are not near the end of the words. -/
theorem square_mod_le {number : Nat} (small : number < 907063251908329110) :
    number * number % 18446744073709551616 ≤ 18446744073709551557 := by
  have below : number * number % 18446744073709551616 < 18446744073709551616 :=
    Nat.mod_lt _ (by decide)
  obtain ⟨gap, sum⟩ : ∃ gap, number * number % 18446744073709551616 + gap =
      18446744073709551616 := ⟨_, Nat.add_sub_of_le below.le⟩
  have wide : 58 < gap := by
    rcases Nat.mod_two_eq_zero_or_one number with even | odd
    · obtain ⟨half, rfl⟩ : ∃ half, number = 2 * half := ⟨number / 2, by omega⟩
      exact lt_gap_of_even (by omega) (by omega) sum
    · exact lt_gap_of_odd odd small sum
  omega

/-- Trial division of a prime near the end of the words. The square of `2 ^ 32`,
which does not fit, is met; reduced to a word it is zero, and the loop goes on
to a divisor that is more than two hundred million times as great. Only there it
ends, with the answer that it is a prime. -/
theorem isPrime_overruns :
    Nat.Prime (18446744073709551557 : UInt64).toNat ∧
      Overruns 18446744073709551557 ∧
      ComesTo 18446744073709551557 907063251908329110 ∧
      isPrime 18446744073709551557 = some true := by
  have prime : Nat.Prime (18446744073709551557 : UInt64).toNat := prime_near_end
  have passed : Passed 18446744073709551557 907063251908329110 := by
    intro earlier isDivisor before
    have small : earlier.toNat < 907063251908329110 := before
    refine ⟨?_, fun divides => ?_⟩
    · rw [UInt64.le_iff_toNat_le, UInt64.toNat_mul]
      exact square_mod_le small
    · have number : (18446744073709551557 : UInt64).toNat = 18446744073709551557 := rfl
      have self := (Nat.dvd_prime_two_le prime isDivisor).mp divides
      omega
  refine ⟨prime, (overruns_iff _).mpr ⟨prime, by decide⟩, ?_, ?_⟩
  · exact passed.comesTo (by decide) (by decide)
  · rw [isPrime_eq, decide_eq_true prime]

end Throughput.Primes
