import Mathlib.NumberTheory.Chebyshev
import Throughput.Proofs.Primes.Trial

/-!
Contract: the search for the n-th prime finds it, within words of 64 bits.

Owns:
- `IsNth`, the prime that has a number when 2 is counted as the first;
- a lower bound for how many primes there are, and what follows from it: the
  search for a number of 32 bits stays below `candidateLimit`;
- `Seeking`, the invariant of the search, and its steps;
- the theorem that the search ends with the prime that has the number.

The search has no bound of its own. That it ends without running out of words
is a fact about the primes: below two to the 38th there are more of them than a
number of 32 bits can ask for.
-/

namespace Throughput.Primes

/-- The number is a prime, and so many primes are not greater than it. -/
structure IsNth (nth number : Nat) : Prop where
  prime : number.Prime
  counted : number.primeCounting = nth

theorem primeCounting_succ_of_prime {number : Nat} (prime : (number + 1).Prime) :
    (number + 1).primeCounting = number.primeCounting + 1 :=
  Nat.count_succ_eq_succ_count prime

theorem primeCounting_succ_of_not_prime {number : Nat} (composite : ¬(number + 1).Prime) :
    (number + 1).primeCounting = number.primeCounting :=
  Nat.count_succ_eq_count composite

theorem primeCounting_lt_of_prime {number prime : Nat} (isPrime : prime.Prime)
    (below : number < prime) : number.primeCounting < prime.primeCounting := by
  obtain ⟨before, rfl⟩ := Nat.exists_eq_add_one_of_ne_zero isPrime.ne_zero
  rw [primeCounting_succ_of_prime isPrime]
  exact Nat.lt_succ_of_le (Nat.monotone_primeCounting (Nat.le_of_lt_succ below))

theorem IsNth.unique {nth number other : Nat} (first : IsNth nth number)
    (second : IsNth nth other) : number = other := by
  have counted := first.counted.trans second.counted.symm
  rcases Nat.lt_trichotomy number other with below | same | above
  · exact absurd counted (Nat.ne_of_lt (primeCounting_lt_of_prime second.prime below))
  · exact same
  · exact absurd counted.symm (Nat.ne_of_lt (primeCounting_lt_of_prime first.prime above))

/-! ### How many primes there are -/

/-- Chebyshev's lower bound at a power of two. -/
theorem two_pow_le_mul_primeCounting (exponent : Nat) :
    2 ^ exponent ≤ exponent * (2 ^ exponent).primeCounting + (exponent + 1) := by
  have positive : 0 < Real.log 2 := Real.log_pos (by norm_num)
  have bound := (Chebyshev.psi_ge (2 ^ exponent)).trans
    (Chebyshev.psi_le_primeCounting_mul_log (2 ^ exponent))
  have logSucc : Real.log ((2 ^ exponent : Nat) + 1) ≤ (exponent + 1) * Real.log 2 := by
    have double : ((2 ^ exponent : Nat) + 1 : ℝ) ≤ 2 ^ (exponent + 1) := by
      have one : (1 : ℝ) ≤ 2 ^ exponent := one_le_pow₀ (by norm_num)
      push_cast
      rw [pow_succ]
      linarith
    calc Real.log ((2 ^ exponent : Nat) + 1)
        ≤ Real.log (2 ^ (exponent + 1)) := Real.log_le_log (by positivity) double
      _ = (exponent + 1) * Real.log 2 := by
          rw [Real.log_pow]
          push_cast
          rfl
  have logPower : Real.log ((2 ^ exponent : Nat) : ℝ) = exponent * Real.log 2 := by
    push_cast
    rw [Real.log_pow]
  rw [logPower] at bound
  have scaled : ((2 ^ exponent : Nat) : ℝ) * Real.log 2 ≤
      ((exponent * (2 ^ exponent).primeCounting + (exponent + 1) : Nat) : ℝ) * Real.log 2 := by
    push_cast at bound logSucc ⊢
    linarith
  exact_mod_cast le_of_mul_le_mul_right scaled positive

/-- No candidate of the search lies above this number. -/
def candidateLimit : Nat := 274877906944

theorem le_primeCounting_candidateLimit : UInt32.size ≤ candidateLimit.primeCounting := by
  have bound := two_pow_le_mul_primeCounting 38
  have power : 2 ^ 38 = candidateLimit := by norm_num [candidateLimit]
  rw [power, candidateLimit] at bound
  rw [candidateLimit, UInt32.size]
  omega

theorem lt_candidateLimit {number : Nat} (few : number.primeCounting < UInt32.size) :
    number < candidateLimit := by
  by_contra above
  have more := Nat.monotone_primeCounting (Nat.not_lt.mp above)
  have enough := le_primeCounting_candidateLimit
  omega

/-! ### The search -/

/-- What holds before a candidate is taken: so many primes have been counted up
to the last one, and fewer than are asked for. -/
structure Seeking (nth count candidate : Nat) : Prop where
  counted : candidate.primeCounting = count
  fewer : count < nth

namespace Seeking

variable {nth count candidate : Nat}

theorem candidate_lt (seeking : Seeking nth count candidate) (isWord : nth < UInt32.size) :
    candidate < candidateLimit := by
  apply lt_candidateLimit
  rw [seeking.counted]
  exact seeking.fewer.trans isWord

theorem skip (seeking : Seeking nth count candidate) (composite : ¬(candidate + 1).Prime) :
    Seeking nth count (candidate + 1) where
  counted := (primeCounting_succ_of_not_prime composite).trans seeking.counted
  fewer := seeking.fewer

theorem count_next (seeking : Seeking nth count candidate) (prime : (candidate + 1).Prime) :
    (candidate + 1).primeCounting = count + 1 := by
  rw [primeCounting_succ_of_prime prime, seeking.counted]

theorem arrive (seeking : Seeking nth count candidate) (prime : (candidate + 1).Prime)
    (last : count + 1 = nth) : IsNth nth (candidate + 1) where
  prime := prime
  counted := (seeking.count_next prime).trans last

theorem goOn (seeking : Seeking nth count candidate) (prime : (candidate + 1).Prime)
    (notLast : count + 1 ≠ nth) : Seeking nth (count + 1) (candidate + 1) where
  counted := seeking.count_next prime
  fewer := Nat.lt_of_le_of_ne seeking.fewer notLast

end Seeking

/-- A count below another one does not wrap when a prime is added. -/
theorem toNat_succ_count {count nth : UInt32} (below : count.toNat < nth.toNat) :
    (count + 1).toNat = count.toNat + 1 := by
  have limit := nth.toNat_lt
  rw [UInt32.toNat_add]
  exact Nat.mod_eq_of_lt (by simpa using by omega)

section Words

variable {nth count : UInt32} {candidate : UInt64}

/-- While the search goes on, the next candidate does not wrap, and trial
division tells whether it is a prime. -/
theorem Seeking.next_candidate (seeking : Seeking nth.toNat count.toNat candidate.toNat) :
    candidate < greatestWord ∧ (candidate + 1).toNat = candidate.toNat + 1 ∧
      isPrime (candidate + 1) = some (decide (candidate.toNat + 1).Prime) := by
  have small := seeking.candidate_lt nth.toNat_lt
  have below : candidate < greatestWord :=
    UInt64.lt_iff_toNat_lt.mpr (small.trans (by decide))
  have next := (toNat_next below).1
  exact ⟨below, next, by rw [isPrime_eq, next]⟩

theorem Seeking.not_prime_of_isPrime (seeking : Seeking nth.toNat count.toNat candidate.toNat)
    (answer : isPrime (candidate + 1) = some false) : ¬(candidate.toNat + 1).Prime := by
  obtain ⟨_, _, told⟩ := seeking.next_candidate
  rw [told] at answer
  exact of_decide_eq_false (Option.some.inj answer)

theorem Seeking.prime_of_isPrime (seeking : Seeking nth.toNat count.toNat candidate.toNat)
    (answer : isPrime (candidate + 1) = some true) : (candidate.toNat + 1).Prime := by
  obtain ⟨_, _, told⟩ := seeking.next_candidate
  rw [told] at answer
  exact of_decide_eq_true (Option.some.inj answer)

/-- From every point at which the invariant holds, the search ends. -/
theorem primeAfter_isNth (seeking : Seeking nth.toNat count.toNat candidate.toNat) :
    ∃ found, primeAfter nth count candidate = some found ∧ IsNth nth.toNat found.toNat := by
  fun_induction primeAfter nth count candidate with
  | case1 count candidate _ answer =>
      obtain ⟨_, _, told⟩ := seeking.next_candidate
      rw [answer] at told
      cases told
  | case2 count candidate _ answer inductionHypothesis =>
      apply inductionHypothesis
      rw [seeking.next_candidate.2.1]
      exact seeking.skip (seeking.not_prime_of_isPrime answer)
  | case3 count candidate _ answer last =>
      refine ⟨candidate + 1, rfl, ?_⟩
      rw [seeking.next_candidate.2.1]
      apply seeking.arrive (seeking.prime_of_isPrime answer)
      rw [← toNat_succ_count seeking.fewer, last]
  | case4 count candidate _ answer notLast inductionHypothesis =>
      have counted := toNat_succ_count seeking.fewer
      apply inductionHypothesis
      rw [seeking.next_candidate.2.1, counted]
      apply seeking.goOn (seeking.prime_of_isPrime answer)
      rw [← counted]
      exact fun last => notLast (UInt32.toNat_inj.mp last)
  | case5 count candidate above => exact absurd seeking.next_candidate.1 above

end Words

/-- Nothing has been counted when the search begins. -/
theorem Seeking.begin {nth : Nat} (counted : 1 ≤ nth) : Seeking nth 0 1 where
  counted := Nat.primeCounting_one
  fewer := counted

theorem nthPrime_isNth {nth : UInt32} (counted : 1 ≤ nth) :
    ∃ found, nthPrime nth = some found ∧ IsNth nth.toNat found.toNat :=
  primeAfter_isNth (.begin (UInt32.le_iff_toNat_le.mp counted))

/-- The search for every number from one on ends, and finds the prime that has
the number: a prime such that so many primes are not greater than it. -/
theorem nthPrime_finds_nth
    (nth : UInt32)
    (counted : 1 ≤ nth) :
    ∃ found, nthPrime nth = some found ∧ found.toNat.Prime ∧
      found.toNat.primeCounting = nth.toNat := by
  obtain ⟨found, searched, isNth⟩ := nthPrime_isNth counted
  exact ⟨found, searched, isNth.prime, isNth.counted⟩

/-- The greatest number that can be asked for. -/
theorem nthPrime_finds_last :
    (1 : UInt32) ≤ 4294967295 ∧
    ∃ found, nthPrime 4294967295 = some found ∧ found.toNat.Prime ∧
      found.toNat.primeCounting = 4294967295 :=
  ⟨by decide, nthPrime_finds_nth 4294967295 (by decide)⟩

end Throughput.Primes
