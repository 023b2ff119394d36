import Throughput.Proofs.Lifecycle
import Throughput.Proofs.Primes.Search
import Throughput.Proofs.Repeated
import Throughput.Proofs.Trace.Bench

/-!
Contract: where a measurement of the prime search fails, and where it succeeds.

Owns:
- `Target.refusal` and `Target.mismatch`, what the workload fails with;
- `Target.runBy` and `warmupBy`, the steps for a search that is an action of its
  own, and `Target.searched`, the kernel whose search keeps a list of its calls;
- the answer of each step, and what it leaves, by the target alone;
- the theorem that says for every target, every clock and every state of the
  workload how a measurement ends and which primes it has looked for.

No step depends on the state that it finds. Setup fails exactly for the number
zero, so no search is made for it; the first run of a batch tells whether the
prime is the one expected, and every other run does the same.
-/

namespace Throughput.Primes

/-- What the workload says when it is asked for no prime. -/
def Target.refusal : Fault :=
  .ofMessage "prime index must be at least 1"

/-- What the workload says when the prime is not the one expected. -/
def Target.mismatch (target : Target) (found : UInt64) : Fault :=
  .ofMessage
    ("prime #" ++ toString target.nth ++ " was " ++ toString found ++
      ", expected " ++ toString target.expected)

/-! ### The kernel by its searches -/

section

variable {m : Type → Type} [Monad m] (search : UInt32 → m (Option UInt64))

/-- A run whose search is an action of its own. -/
def Target.runBy (target : Target) (state : State) : m (Except Fault Unit × State) := do
  match ← search target.nth with
  | none =>
    return (.error (.ofMessage ("prime #" ++ toString target.nth ++ " is out of range")), state)
  | some found =>
    if found = target.expected then
      return (.ok (), { found })
    else
      return (.error (target.mismatch found), { found })

/-- A warmup whose search is an action of its own. -/
def warmupBy (state : State) : m (Except Fault Unit × State) := do
  match ← search warmupNth with
  | none => return (.error (.ofMessage "the warmup prime is out of range"), state)
  | some _ => return (.ok (), state)

end

/-- A search that puts the number it is called with on a list. -/
def listed (nth : UInt32) : StateM (List UInt32) (Option UInt64) := do
  modify (· ++ [nth])
  return nthPrime nth

/-- A step does what the plain one does, and lists these searches. -/
def Lists (step : State → StateM (List UInt32) (Except Fault Unit × State))
    (plain : State → Except Fault Unit × State) (made : List UInt32) : Prop :=
  ∀ state searches, (step state).run searches = (plain state, searches ++ made)

theorem listed_run (nth : UInt32) (searches : List UInt32) :
    (listed nth).run searches = (nthPrime nth, searches ++ [nth]) := rfl

theorem Target.setup_lists (target : Target) :
    Lists (fun state => return target.setup state) target.setup [] :=
  fun state searches => congrArg (Prod.mk (target.setup state)) (List.append_nil searches).symm

theorem Target.runBy_lists (target : Target) :
    Lists (target.runBy listed) target.run [target.nth] := by
  intro state searches
  rw [runBy, run, StateT.run_bind, listed_run]
  cases nthPrime target.nth with
  | none => rfl
  | some found =>
      change (if found = target.expected then _ else _ : StateM (List UInt32) _).run _ =
        ((if found = target.expected then _ else _ : Except Fault Unit × State), _)
      split <;> rfl

theorem warmupBy_lists : Lists (warmupBy listed) warmup [warmupNth] := by
  intro state searches
  rw [warmupBy, warmup, StateT.run_bind, listed_run]
  cases nthPrime warmupNth <;> rfl

/-- The state of the workload, and the numbers of the primes looked for. -/
structure Searched where
  state : State
  searches : List UInt32

/-- The list aside, the states are the same. -/
def Searched.Over (listed : Searched) (state : State) : Prop :=
  listed.state = state

/-- A step that searches, beside the list of the searches. -/
def searching (step : State → StateM (List UInt32) (Except Fault Unit × State)) :
    ExceptT Fault (StateM Searched) Unit :=
  stateStep fun before =>
    let ((answer, state), searches) := (step before.state).run before.searches
    (answer, ⟨state, searches⟩)

/-- The kernel of a target, with each call of the search put on the list. -/
def Target.searched (target : Target) : Kernel (StateM Searched) where
  name := target.kernel.name
  setup := searching fun state => return target.setup state
  run := searching (target.runBy listed)
  warmup := searching (warmupBy listed)

section

variable {step : State → StateM (List UInt32) (Except Fault Unit × State)}
variable {plain : State → Except Fault Unit × State} {made : List UInt32}

theorem searching_run (lists : Lists step plain made) {before : Searched}
    {answer : Except Fault Unit} {state : State} (result : plain before.state = (answer, state)) :
    (searching step).run.run before = (answer, ⟨state, before.searches ++ made⟩) := by
  have stepped := lists before.state before.searches
  rw [result] at stepped
  exact congrArg (fun next => (next.1.1, Searched.mk next.1.2 next.2)) stepped

theorem searching_paired (lists : Lists step plain made) :
    Paired Searched.Over (Likewise Eq) (searching step).run (stateStep plain).run := by
  intro before state same
  obtain rfl : before.state = state := same
  rw [searching_run lists rfl]
  exact ⟨likewise_refl (fun _ => rfl) _, rfl⟩

end

/-- Without the list, it is the kernel of the target. -/
theorem Target.searched_paired (target : Target) :
    PairedKernels Searched.Over target.searched target.kernel where
  name_eq := rfl
  step := by
    intro phase
    cases phase with
    | setup => exact searching_paired target.setup_lists
    | warmup => exact searching_paired warmupBy_lists
    | exercise => exact repeatTimes_paired (searching_paired target.runBy_lists) exerciseRuns
    | teardown => exact Paired.pure rfl

/-! ### What several searches leave -/

/-- The searches of a warmup: each finds a prime, and none of them is kept. -/
def Searched.warm (times : Nat) (before : Searched) : Searched :=
  ⟨before.state, before.searches ++ List.replicate times warmupNth⟩

/-- Searches for one and the same prime. -/
def Searched.find (prime : UInt64) (nth : UInt32) (times : Nat) (before : Searched) : Searched :=
  ⟨⟨prime⟩, before.searches ++ List.replicate times nth⟩

theorem Searched.warm_iterate (times : Nat) (before : Searched) :
    (warm 1)^[times] before = before.warm times := by
  induction times with
  | zero => exact congrArg (Searched.mk _) (List.append_nil _).symm
  | succ times inductionHypothesis =>
      rw [Function.iterate_succ_apply', inductionHypothesis]
      simp only [warm, List.append_assoc, List.replicate_append_replicate]

theorem Searched.find_iterate (prime : UInt64) (nth : UInt32) (times : Nat) {count : Nat}
    (positive : 1 ≤ count) (before : Searched) :
    (find prime nth times)^[count] before = before.find prime nth (count * times) := by
  induction count, positive using Nat.le_induction with
  | base => rw [Nat.one_mul, Function.iterate_one]
  | succ count _ inductionHypothesis =>
      rw [Function.iterate_succ_apply', inductionHypothesis]
      simp only [find, List.append_assoc, List.replicate_append_replicate]
      rw [Nat.succ_mul count times]

/-! ### The steps -/

/-- A warmup finds its own prime, and keeps the one that was found before. -/
theorem warmup_eq (state : State) : warmup state = (.ok (), state) := by
  have counted : 1 ≤ warmupNth := by decide
  obtain ⟨found, searched, _⟩ := nthPrime_isNth counted
  unfold warmup
  rw [searched]

namespace Target

variable {target : Target} {prime : UInt64}

theorem setup_of_zero (isZero : target.nth = 0) (state : State) :
    target.setup state = (.error refusal, state) :=
  if_pos isZero

theorem setup_of_ne_zero (notZero : target.nth ≠ 0) (state : State) :
    target.setup state = (.ok (), {}) :=
  if_neg notZero

theorem run_of_expected (found : nthPrime target.nth = some prime)
    (expected : prime = target.expected) (state : State) :
    target.run state = (.ok (), ⟨prime⟩) := by
  rw [run, found]
  exact if_pos expected

theorem run_of_unexpected (found : nthPrime target.nth = some prime)
    (unexpected : prime ≠ target.expected) (state : State) :
    target.run state = (.error (target.mismatch prime), ⟨prime⟩) := by
  rw [run, found]
  exact if_neg unexpected

/-! Each step of the kernel with the list, from any state. -/

variable (before : Searched)

theorem searched_setup_of_zero (isZero : target.nth = 0) :
    (target.searched.step .setup).run.run before = (.error refusal, before) := by
  have result := searching_run target.setup_lists (setup_of_zero isZero before.state)
  rw [List.append_nil] at result
  exact result

theorem searched_setup_of_ne_zero (notZero : target.nth ≠ 0) :
    (target.searched.step .setup).run.run before = (.ok (), ⟨{}, before.searches⟩) := by
  have result := searching_run target.setup_lists (setup_of_ne_zero notZero before.state)
  rw [List.append_nil] at result
  exact result

theorem searched_warmup :
    (target.searched.step .warmup).run.run before = (.ok (), before.warm 1) :=
  searching_run warmupBy_lists (warmup_eq before.state)

/-- A batch that finds what is expected makes all its runs. -/
theorem searched_exercise_of_expected (found : nthPrime target.nth = some prime)
    (expected : prime = target.expected) :
    (target.searched.step .exercise).run.run before =
      (.ok (), before.find prime target.nth exerciseRuns) := by
  have runs : ∀ between : Searched, target.searched.run.run.run between =
      (.ok (), between.find prime target.nth 1) := fun between =>
    searching_run target.runBy_lists (run_of_expected found expected between.state)
  have positive : 1 ≤ exerciseRuns := by decide
  have batch := Searched.find_iterate prime target.nth 1 positive before
  rw [Nat.mul_one] at batch
  exact (repeatTimes_of_ok runs exerciseRuns before).trans (congrArg _ batch)

/-- A batch that does not ends with its first run. -/
theorem searched_exercise_of_unexpected (found : nthPrime target.nth = some prime)
    (unexpected : prime ≠ target.expected) :
    (target.searched.step .exercise).run.run before =
      (.error (target.mismatch prime), before.find prime target.nth 1) := by
  have fails : target.searched.run.run.run before =
      (.error (target.mismatch prime), before.find prime target.nth 1) :=
    searching_run target.runBy_lists (run_of_unexpected found unexpected before.state)
  exact repeatTimes_of_error fails (by decide)

theorem searched_teardown :
    (target.searched.step .teardown).run.run before = (.ok (), before) := rfl

/-! ### What the calls of a measurement leave -/

/-- What a call leaves. -/
def leave (target : Target) (before : Searched) (phase : Phase) : Searched :=
  ((target.searched.step phase).run.run before).2

theorem leave_setup (notZero : target.nth ≠ 0) :
    target.leave before .setup = ⟨{}, before.searches⟩ :=
  congrArg Prod.snd (searched_setup_of_ne_zero before notZero)

theorem leave_teardown : target.leave before .teardown = before := rfl

/-- One phase, called so many times. -/
theorem foldl_leave_replicate (phase : Phase) (times : Nat) :
    (List.replicate times phase).foldl target.leave before =
      (fun between => target.leave between phase)^[times] before := by
  induction times generalizing before with
  | zero => rfl
  | succ times inductionHypothesis =>
      rw [List.replicate_succ, List.foldl_cons, inductionHypothesis]
      rfl

theorem leave_warmups (times : Nat) :
    (List.replicate times Phase.warmup).foldl target.leave before = before.warm times := by
  have one : (fun between => target.leave between .warmup) = Searched.warm 1 :=
    funext fun between => congrArg Prod.snd (searched_warmup between)
  rw [foldl_leave_replicate, one, Searched.warm_iterate]

theorem leave_exercises (found : nthPrime target.nth = some prime)
    (expected : prime = target.expected) {times : Nat} (positive : 1 ≤ times) :
    (List.replicate times Phase.exercise).foldl target.leave before =
      before.find prime target.nth (times * exerciseRuns) := by
  have one : (fun between => target.leave between .exercise) =
      Searched.find prime target.nth exerciseRuns :=
    funext fun between => congrArg Prod.snd (searched_exercise_of_expected between found expected)
  rw [foldl_leave_replicate, one, Searched.find_iterate prime target.nth exerciseRuns positive]

end Target

/-! ### Measurements -/

open Trace

variable {κ : Type}

theorem Searched.eq_of_related {listed : Bench Searched κ} {plain : Bench State κ}
    (related : Bench.Related Searched.Over listed plain) :
    listed = ⟨⟨plain.state, listed.state.searches⟩, plain.surroundings⟩ := by
  obtain ⟨⟨state, searches⟩, surroundings⟩ := listed
  obtain ⟨rfl, rfl⟩ := related
  rfl

namespace Target

variable (target : Target) (prime : UInt64)

/-- The first exercise fails, and it makes no run but the first. -/
def EndsAtFirstRun (answer : Except Halt Timing) (searches : List UInt32) (trace : Trace) : Prop :=
  answer = .error (.failed (.kernel "NthPrime" .exercise (target.mismatch prime))) ∧
    ∃ warmups last, Trace.Reaches warmupMillis warmups last ∧
      trace = .called 0 .setup (.ok ()) :: (loop 0 .warmup warmupMillis warmups last ++
        [.started, .called 0 .exercise (.error (target.mismatch prime))]) ∧
      searches = List.replicate warmups.length warmupNth ++ [target.nth]

/-- Nothing fails. Each warmup makes one search of its own, and each exercise
makes all its runs. -/
def Completes (answer : Except Halt Timing) (searches : List UInt32) (trace : Trace) : Prop :=
  ∃ timing warmups exercises last, answer = .ok timing ∧
    Trace.Reaches warmupMillis warmups last ∧
    Trace.Reaches exerciseMillis exercises timing.elapsed ∧
    timing.iterations = exercises.length ∧ trace.steps = protocol 0 warmups exercises ∧
    searches = List.replicate warmups.length warmupNth ++
      List.replicate (exercises.length * exerciseRuns) target.nth

variable {target prime} {host : Host (StateM κ)} {before after : Bench Searched κ} {trace : Trace}

theorem zero_notMem_find {between : Searched} (notZero : target.nth ≠ 0)
    (none : 0 ∉ between.searches) (times : Nat) :
    0 ∉ (between.find prime target.nth times).searches := by
  intro member
  rcases List.mem_append.mp member with early | late
  · exact none early
  · exact notZero (List.eq_of_mem_replicate late).symm

/-- No search is made for the number zero. -/
theorem zero_not_searched (notZero : target.nth ≠ 0) (found : nthPrime target.nth = some prime)
    (account : Account (Bench.host host) [Bench.kernel target.searched] before trace after)
    (none : 0 ∉ before.state.searches) : 0 ∉ after.state.searches := by
  refine Bench.keeps_of_account (fun between => 0 ∉ between.searches)
    (fun phase between none => ?_) account none
  cases phase with
  | setup =>
      rw [searched_setup_of_ne_zero between notZero]
      exact none
  | warmup =>
      rw [searched_warmup between]
      simpa [Searched.warm, warmupNth] using none
  | exercise =>
      by_cases expected : prime = target.expected
      · rw [searched_exercise_of_expected between found expected]
        exact zero_notMem_find notZero none exerciseRuns
      · rw [searched_exercise_of_unexpected between found expected]
        exact zero_notMem_find notZero none 1
  | teardown => exact none

/-- Where no prime is asked for, setup does not succeed. -/
theorem setup_ok_notMem (isZero : target.nth = 0)
    (account : Account (Bench.host host) [Bench.kernel target.searched] before trace after) :
    .called 0 .setup (.ok ()) ∉ trace := by
  intro member
  cases Bench.outcome_eq (fun between => searched_setup_of_zero between isZero) account member

theorem ends_of_zero {patience : Nat} {answer : Except Halt Timing} (isZero : target.nth = 0)
    (account : Account (Bench.host host) [Bench.kernel target.searched] before trace after)
    (shape : CycleShape 0 "NthPrime" patience answer trace) :
    answer = .error (.failed (.kernel "NthPrime" .setup refusal)) ∧
      trace = [.called 0 .setup (.error refusal)] ∧ after = before := by
  have noSetup := setup_ok_notMem isZero account
  match answer, shape with
  | .ok _, .intro .. => exact absurd (List.mem_cons_self ..) noSetup
  | .error .unfinished, .warmup .. => exact absurd (List.mem_cons_self ..) noSetup
  | .error .unfinished, .exercise .. => exact absurd (List.mem_cons_self ..) noSetup
  | .error (.failed _), .warmup .. => exact absurd (List.mem_cons_self ..) noSetup
  | .error (.failed _), .exercise .. => exact absurd (List.mem_cons_self ..) noSetup
  | .error (.failed _), .teardown .. => exact absurd (List.mem_cons_self ..) noSetup
  | .error (.failed _), .setup fault =>
      cases account with
      | cons happens rest =>
          cases rest
          obtain ⟨called, sameSurroundings⟩ := Bench.called_of_happens happens
          rw [searched_setup_of_zero before.state isZero] at called
          cases before
          cases after
          cases called
          cases sameSurroundings
          exact ⟨rfl, rfl, rfl⟩

/-- Where a prime is asked for, only an exercise can fail. -/
theorem exercise_of_error (phase : Phase) (fault : Fault) (notZero : target.nth ≠ 0)
    (account : Account (Bench.host host) [Bench.kernel target.searched] before trace after)
    (member : .called 0 phase (.error fault) ∈ trace) : phase = .exercise := by
  cases phase with
  | setup =>
      cases Bench.outcome_eq
        (fun between => searched_setup_of_ne_zero between notZero) account member
  | warmup => cases Bench.outcome_eq searched_warmup account member
  | exercise => rfl
  | teardown => cases Bench.outcome_eq searched_teardown account member

/-- An exercise that succeeds tells that the prime is the one expected. -/
theorem expected_of_exercise_ok (found : nthPrime target.nth = some prime)
    (account : Account (Bench.host host) [Bench.kernel target.searched] before trace after)
    (member : .called 0 .exercise (.ok ()) ∈ trace) : prime = target.expected := by
  by_contra unexpected
  cases Bench.outcome_eq
    (fun between => searched_exercise_of_unexpected between found unexpected) account member

/-- An exercise that fails tells that it is not, and says so. -/
theorem unexpected_of_exercise_error {fault : Fault} (found : nthPrime target.nth = some prime)
    (account : Account (Bench.host host) [Bench.kernel target.searched] before trace after)
    (member : .called 0 .exercise (.error fault) ∈ trace) :
    prime ≠ target.expected ∧ fault = target.mismatch prime := by
  have unexpected : prime ≠ target.expected := by
    intro expected
    cases Bench.outcome_eq
      (fun between => searched_exercise_of_expected between found expected) account member
  have failed := Bench.outcome_eq
    (fun between => searched_exercise_of_unexpected between found unexpected) account member
  exact ⟨unexpected, Except.error.inj failed⟩

theorem completes_of_fullCycle {timing : Timing} (notZero : target.nth ≠ 0)
    (found : nthPrime target.nth = some prime)
    (account : Account (Bench.host host) [Bench.kernel target.searched] before trace after)
    (full : FullCycle 0 timing trace) (fresh : before.state.searches = []) :
    after.state.state.found = prime ∧ prime = target.expected ∧
      target.Completes (.ok timing) after.state.searches trace := by
  obtain @⟨warmups, exercises, last, timing, warm, exercised, counted⟩ := full
  obtain ⟨short, areExercises, _, _⟩ := id exercised
  have expected : prime = target.expected := by
    apply expected_of_exercise_ok found account
    simp [loop, rounds, areExercises]
  have positive : 1 ≤ exercises.length := by
    rw [areExercises, List.length_append]
    exact Nat.le_add_left 1 short.length
  have left : after.state = ((⟨{}, before.state.searches⟩ : Searched).warm warmups.length).find
      prime target.nth (exercises.length * exerciseRuns) := by
    rw [Bench.state_of_account account]
    change List.foldl target.leave before.state _ = _
    simp only [calls_called, calls_append, calls_loop, calls_nil, List.foldl_cons,
      List.foldl_append, List.foldl_nil, leave_setup before.state notZero, leave_warmups,
      leave_teardown, leave_exercises _ found expected positive]
  rw [left, Searched.find, Searched.warm, fresh]
  exact ⟨rfl, expected, timing, warmups, exercises, last, rfl, warm, exercised, counted,
    by simp [protocol], rfl⟩

theorem endsAtFirstRun_of_brokenCycle {failure : Failure} (notZero : target.nth ≠ 0)
    (found : nthPrime target.nth = some prime)
    (account : Account (Bench.host host) [Bench.kernel target.searched] before trace after)
    (broken : BrokenCycle 0 "NthPrime" failure trace) (fresh : before.state.searches = []) :
    after.state.state.found = prime ∧ prime ≠ target.expected ∧
      target.EndsAtFirstRun prime (.error (.failed failure)) after.state.searches trace := by
  cases broken with
  | setup fault => cases exercise_of_error .setup fault notZero account (by simp)
  | warmup fault below => cases exercise_of_error .warmup fault notZero account (by simp)
  | @exercise warmups readings last fault warm below =>
      obtain ⟨unexpected, rfl⟩ : prime ≠ target.expected ∧ fault = target.mismatch prime :=
        unexpected_of_exercise_error found account (by simp)
      -- A round before the failure would tell that the prime is the one expected.
      obtain rfl : readings = [] := by
        cases readings with
        | nil => rfl
        | cons reading readings =>
            exact absurd (expected_of_exercise_ok found account (by simp)) unexpected
      have left : after.state =
          ((⟨{}, before.state.searches⟩ : Searched).warm warmups.length).find
            prime target.nth 1 := by
        rw [Bench.state_of_account account]
        change List.foldl target.leave before.state _ = _
        simp only [calls_called, calls_append, calls_loop, calls_started, calls_nil, rounds_nil,
          List.nil_append, List.foldl_cons, List.foldl_append, List.foldl_nil,
          leave_setup before.state notZero, leave_warmups]
        exact congrArg Prod.snd (searched_exercise_of_unexpected _ found unexpected)
      rw [left, Searched.find, Searched.warm, fresh]
      exact ⟨rfl, unexpected, rfl, warmups, last, warm, rfl, rfl⟩
  | teardown fault warm exercised => cases exercise_of_error .teardown fault notZero account (by simp)

theorem ends_of_ne_zero {patience : Nat} {answer : Except Halt Timing} (notZero : target.nth ≠ 0)
    (found : nthPrime target.nth = some prime)
    (account : Account (Bench.host host) [Bench.kernel target.searched] before trace after)
    (shape : CycleShape 0 "NthPrime" patience answer trace)
    (fresh : before.state.searches = []) :
    (answer = .error .unfinished ∧ Stuck patience trace) ∨
      (after.state.state.found = prime ∧
        ((prime ≠ target.expected ∧
            target.EndsAtFirstRun prime answer after.state.searches trace) ∨
          (prime = target.expected ∧ target.Completes answer after.state.searches trace))) := by
  match answer, shape with
  | .ok timing, full =>
      obtain ⟨isPrime, expected, completes⟩ :=
        completes_of_fullCycle notZero found account full fresh
      exact .inr ⟨isPrime, .inr ⟨expected, completes⟩⟩
  | .error (.failed failure), broken =>
      obtain ⟨isPrime, unexpected, ends⟩ :=
        endsAtFirstRun_of_brokenCycle notZero found account broken fresh
      exact .inr ⟨isPrime, .inl ⟨unexpected, ends⟩⟩
  | .error .unfinished, endless => exact .inl ⟨rfl, endless.stuck⟩

end Target

/-- How a measurement of the prime search ends, for every target, every clock and
every state of the workload. If no prime is asked for, setup fails: the clock is
not started, and no search is made. Otherwise the measurement gets to the prime
that is asked for. If another one was expected, the first run of the first
exercise fails, and nothing follows; if not, nothing fails. In no other phase
does anything fail, a warmup leaves the prime that was found before, and there is
no search for the number zero. A measurement is left unfinished only where a loop
has gone round `patience` times without reaching its minimum. -/
theorem measure_of_target
    (host : Host (StateM κ))
    (target : Target)
    (patience : Nat)
    (before : Bench State κ) :
    let run := ((Bench.kernel target.kernel).measure (Bench.host host) patience).run.run before
    ∃ trace searches,
      (((Bench.kernel target.kernel).watched 0).measure (Bench.host host).watched
          patience).run.run ⟨before, []⟩ = (run.1, ⟨run.2, trace⟩) ∧
      ((Bench.kernel target.searched).measure (Bench.host host) patience).run.run
          ⟨⟨before.state, []⟩, before.surroundings⟩ =
        (run.1, ⟨⟨run.2.state, searches⟩, run.2.surroundings⟩) ∧
      (∀ state, target.kernel.warmup.run.run state = (.ok (), state)) ∧
      0 ∉ searches ∧
      (target.nth = 0 →
        run = (.error (.failed (.kernel "NthPrime" .setup Target.refusal)), before) ∧
          trace = [.called 0 .setup (.error Target.refusal)] ∧ searches = []) ∧
      (target.nth ≠ 0 → ∃ prime : UInt64,
        (∀ number, IsNth target.nth.toNat number ↔ number = prime.toNat) ∧
        ((run.1 = .error .unfinished ∧ Stuck patience trace) ∨
          (run.2.state.found = prime ∧
            ((prime ≠ target.expected ∧ target.EndsAtFirstRun prime run.1 searches trace) ∨
              (prime = target.expected ∧ target.Completes run.1 searches trace))))) := by
  intro run
  have isRelated : Bench.Related Searched.Over
      ⟨⟨before.state, []⟩, before.surroundings⟩ before := ⟨rfl, rfl⟩
  obtain ⟨sameAnswer, benches, trace, account, watchedRun, shape⟩ :=
    Bench.exists_common_trace target.searched_paired isRelated host patience
  let listed := ((Bench.kernel target.searched).measure (Bench.host host) patience).run.run
    ⟨⟨before.state, []⟩, before.surroundings⟩
  refine ⟨trace, listed.2.state.searches, watchedRun,
    Prod.ext sameAnswer (Searched.eq_of_related benches), ?_, ?_⟩
  · exact fun state => warmup_eq state
  by_cases isZero : target.nth = 0
  · obtain ⟨ended, shown, unchanged⟩ := Target.ends_of_zero isZero account shape
    have noSearch : listed.2.state.searches = [] :=
      congrArg (fun bench => bench.state.searches) unchanged
    rw [unchanged] at benches
    have sameBench : run.2 = before := Bench.ext benches.1.symm benches.2.symm
    rw [noSearch]
    exact ⟨by simp, fun _ => ⟨Prod.ext ended sameBench, shown, rfl⟩,
      fun notZero => absurd isZero notZero⟩
  · have counted : 1 ≤ target.nth := UInt32.le_iff_toNat_le.mpr
      (Nat.one_le_iff_ne_zero.mpr fun none => isZero (UInt32.toNat_inj.mp none))
    obtain ⟨prime, found, isNth⟩ := nthPrime_isNth counted
    have onlyPrime : ∀ number, IsNth target.nth.toNat number ↔ number = prime.toNat :=
      fun number => ⟨fun other => other.unique isNth, fun same => same ▸ isNth⟩
    have ends := Target.ends_of_ne_zero isZero found account shape rfl
    rw [benches.1] at ends
    exact ⟨Target.zero_not_searched isZero found account (by simp),
      fun zero => absurd zero isZero, fun _ => ⟨prime, onlyPrime, ends⟩⟩

end Throughput.Primes
