import Throughput.Proofs.TimingLoop
import Throughput.Proofs.Trace.Bench

/-!
Contract: how a measurement loop depends on its minimum.

Owns:
- `Course.shown`, what the first rounds of a course show;
- `Returns.ends`, the round at which a measurement that returns has ended;
- the theorem that a measurement with a larger minimum goes on from where one
  with a smaller minimum ends, unless that one has failed.

The two measurements go through one course. A round that passes for a minimum
passes for every larger one, and nothing else about the clock is needed.
-/

namespace Throughput

variable {ω : Type}

namespace Trace

/-- An entry in the log is no step. -/
@[simp]
theorem steps_append_recorded (trace : Trace) (entry : Log.Entry) :
    (trace ++ [Event.recorded entry]).steps = trace.steps := by
  rw [steps_append]
  exact List.append_nil _

@[simp]
theorem calls_append_recorded (trace : Trace) (entry : Log.Entry) :
    (trace ++ [Event.recorded entry]).calls = trace.calls := by
  rw [calls_append]
  exact List.append_nil _

end Trace

namespace Course

variable {course : Course ω} {minimum larger round other count more : Nat} {fault : Fault}

theorem Passes.mono (passes : course.Passes minimum round) (notSmaller : minimum ≤ larger) :
    course.Passes larger round :=
  ⟨passes.1, Nat.lt_of_lt_of_le passes.2 notSmaller⟩

/-- A reading that reaches the larger minimum too ends either loop. -/
theorem ReachesAt.mono (reaches : course.ReachesAt minimum round) (notSmaller : minimum ≤ larger)
    (enough : larger ≤ course.reading round) : course.ReachesAt larger round :=
  ⟨fun earlier below => (reaches.1 earlier below).mono notSmaller, reaches.2.1, enough⟩

/-- Work that fails ends either loop. -/
theorem FailsAt.mono (fails : course.FailsAt minimum round fault) (notSmaller : minimum ≤ larger) :
    course.FailsAt larger round fault :=
  ⟨fun earlier below => (fails.1 earlier below).mono notSmaller, fails.2⟩

/-- A reading below the larger minimum ends the one loop and not the other. -/
theorem ReachesAt.passes (reaches : course.ReachesAt minimum round) (notSmaller : minimum ≤ larger)
    (short : course.reading round < larger) : ∀ earlier < round + 1, course.Passes larger earlier := by
  intro earlier below
  rcases Nat.lt_succ_iff_lt_or_eq.mp below with before | rfl
  · exact (reaches.1 earlier before).mono notSmaller
  · exact ⟨reaches.2.1, short⟩

theorem ReachesAt.not_passes (reaches : course.ReachesAt minimum round) :
    ¬course.Passes minimum round :=
  fun passes => Nat.not_lt.mpr reaches.2.2 passes.2

theorem FailsAt.not_passes (fails : course.FailsAt minimum round fault) :
    ¬course.Passes minimum round := by
  intro passes
  have contradictory := passes.1.symm.trans fails.2
  cases contradictory

/-- What the first rounds show, so many of them, from the start of the clock. -/
def shown (course : Course ω) (count : Nat) : Trace :=
  .started :: Trace.rounds 0 .exercise (course.readings count)

theorem shown_succ (course : Course ω) (count : Nat) :
    course.shown (count + 1) =
      course.shown count ++ [.called 0 .exercise (.ok ()), .looked (course.reading count)] := by
  rw [shown, readings_succ, Trace.rounds_append]
  rfl

theorem shown_prefix (notMore : count ≤ more) : course.shown count <+: course.shown more := by
  induction more, notMore using Nat.le_induction with
  | base => exact List.prefix_refl _
  | succ more _ inductionHypothesis =>
      rw [shown_succ]
      exact inductionHypothesis.trans (List.prefix_append _ _)

@[simp]
theorem steps_shown (course : Course ω) (count : Nat) :
    (course.shown count).steps = course.shown count := by
  simp [shown]

@[simp]
theorem length_calls_shown (course : Course ω) (count : Nat) :
    (course.shown count).calls.length = count := by
  simp [shown, readings]

theorem getLast?_shown_succ (course : Course ω) (count : Nat) :
    (course.shown (count + 1)).getLast? = some (.looked (course.reading count)) := by
  simp [shown_succ]

end Course

section

variable {host : Host (StateM ω)} {work : ExceptT Fault (StateM ω) Unit}
variable {minimum larger : Nat} {before after after' : ω} {answer answer' : Except Halt Timing}
variable {trace trace' : Trace}

theorem Returns.eq_of_reachesAt {round : Nat}
    (returns : Returns host work minimum before answer after trace) (positive : 0 < minimum)
    (reaches : (Course.ofHost host work before).ReachesAt minimum round) :
    let course := Course.ofHost host work before
    answer = .ok ⟨round + 1, course.reading round⟩ ∧
      trace = course.shown (round + 1) ++
        [.recorded (.loopFinished (round + 1) (course.reading round) minimum)] := by
  have same := returns.unique (returns_of_reachesAt positive reaches)
  exact ⟨same.1, same.2.2⟩

theorem Returns.eq_of_failsAt {round : Nat} {fault : Fault}
    (returns : Returns host work minimum before answer after trace) (positive : 0 < minimum)
    (fails : (Course.ofHost host work before).FailsAt minimum round fault) :
    let course := Course.ofHost host work before
    answer = .error (.failed (.work fault)) ∧ after = course.worked round ∧
      trace = course.shown round ++ [.called 0 .exercise (.error fault)] :=
  returns.unique (returns_of_failsAt positive fails)

/-- A measurement that returns has gone through all rounds before the first that
does not pass, and has called the work once more. -/
theorem Returns.ends (returns : Returns host work minimum before answer after trace)
    (positive : 0 < minimum) :
    let course := Course.ofHost host work before
    ∃ round outcome rest, ¬course.Passes minimum round ∧
      trace = course.shown round ++ .called 0 .exercise outcome :: rest := by
  intro course
  rcases course.reaches_or_fails_or_passes minimum with
    ⟨round, reaches⟩ | ⟨round, fault, fails⟩ | passes
  · have trace_eq := (returns.eq_of_reachesAt positive reaches).2
    rw [Course.shown_succ, List.append_assoc] at trace_eq
    exact ⟨round, .ok (), _, reaches.not_passes, trace_eq⟩
  · exact ⟨round, .error fault, [], fails.not_passes, (returns.eq_of_failsAt positive fails).2.2⟩
  · exact absurd returns (not_returns_of_all_pass positive passes)

/-- A larger minimum only extends a measurement. Take two measurements from one
start that return, the second with a minimum that is not smaller. What the first
does is the beginning of what the second does. If the first fails, the second
fails in the same call. If the first returns a timing, then its elapsed time is
the last reading: where this reaches the larger minimum too, the second does and
returns the same, and where it does not, the second calls the work more often. -/
theorem larger_minimum_extends
    (host : Host (StateM ω))
    (work : ExceptT Fault (StateM ω) Unit)
    (before : ω)
    (positive : 1 ≤ minimum)
    (notSmaller : minimum ≤ larger)
    (returns : Returns host work minimum before answer after trace)
    (returns' : Returns host work larger before answer' after' trace') :
    trace.steps <+: trace'.steps ∧
    trace.calls.length ≤ trace'.calls.length ∧
    (∀ failure, answer = .error (.failed failure) →
      answer' = answer ∧ after' = after ∧ trace' = trace) ∧
    ∀ timing, answer = .ok timing →
      trace.steps.getLast? = some (.looked timing.elapsed) ∧
      (larger ≤ timing.elapsed → answer' = answer ∧ trace'.steps = trace.steps) ∧
      (timing.elapsed < larger → trace.calls.length < trace'.calls.length) := by
  have positive' : 0 < larger := Nat.lt_of_lt_of_le positive notSmaller
  rcases (Course.ofHost host work before).reaches_or_fails_or_passes minimum with
    ⟨round, reaches⟩ | ⟨round, fault, fails⟩ | passes
  · obtain ⟨rfl, rfl⟩ := returns.eq_of_reachesAt positive reaches
    rw [Trace.steps_append_recorded, Trace.calls_append_recorded, Course.steps_shown,
      Course.length_calls_shown, Course.getLast?_shown_succ]
    by_cases enough : larger ≤ (Course.ofHost host work before).reading round
    · -- Both end in this round.
      obtain ⟨rfl, rfl⟩ := returns'.eq_of_reachesAt positive' (reaches.mono notSmaller enough)
      rw [Trace.steps_append_recorded, Trace.calls_append_recorded, Course.steps_shown,
        Course.length_calls_shown]
      refine ⟨List.prefix_refl _, Nat.le_refl _, ?_, ?_⟩
      · rintro failure ⟨⟩
      · rintro timing ⟨⟩
        exact ⟨rfl, fun _ => ⟨rfl, rfl⟩, fun short => absurd enough (Nat.not_le.mpr short)⟩
    · -- The second goes on past this round, to one that does not pass for it.
      have passes := reaches.passes notSmaller (Nat.not_le.mp enough)
      obtain ⟨round', outcome, rest, stops, rfl⟩ := returns'.ends positive'
      have later : round + 1 ≤ round' := Nat.le_of_not_lt fun before => stops (passes round' before)
      have more : round + 1 < ((Course.ofHost host work before).shown round' ++
          .called 0 .exercise outcome :: rest).calls.length := by
        rw [Trace.calls_append, Trace.calls_called, List.length_append, List.length_cons,
          Course.length_calls_shown]
        omega
      refine ⟨?_, Nat.le_of_lt more, ?_, ?_⟩
      · rw [Trace.steps_append, Course.steps_shown]
        exact (Course.shown_prefix later).trans (List.prefix_append _ _)
      · rintro failure ⟨⟩
      · rintro timing ⟨⟩
        exact ⟨rfl, fun reached => absurd reached enough, fun _ => more⟩
  · obtain ⟨rfl, rfl, rfl⟩ := returns.eq_of_failsAt positive fails
    obtain ⟨rfl, rfl, rfl⟩ := returns'.eq_of_failsAt positive' (fails.mono notSmaller)
    refine ⟨List.prefix_refl _, Nat.le_refl _, fun _ _ => ⟨rfl, rfl, rfl⟩, ?_⟩
    rintro timing ⟨⟩
  · exact absurd returns (not_returns_of_all_pass positive passes)

/-- Idle work on a clock that moves by sixty milliseconds at each look: a minimum
of 100 is reached in two rounds, and one of 150 in three. -/
theorem two_rounds_and_three :
    let host : Host (StateM Nat) :=
      ⟨⟨set 0, modifyGet fun now => (now + 60, now + 60)⟩,
        fun _ => pure none, fun _ => pure (), fun _ _ => pure (), pure 0, pure 0⟩
    let work : ExceptT Fault (StateM Nat) Unit := pure ()
    let trace : Trace := .started ::
      (Trace.rounds 0 .exercise [60, 120] ++ [.recorded (.loopFinished 2 120 100)])
    let trace' : Trace := .started ::
      (Trace.rounds 0 .exercise [60, 120, 180] ++ [.recorded (.loopFinished 3 180 150)])
    (1 ≤ 100 ∧ 100 ≤ 150 ∧
      Returns host work 100 7 (.ok ⟨2, 120⟩) 120 trace ∧
      Returns host work 150 7 (.ok ⟨3, 180⟩) 180 trace') ∧
    trace.steps <+: trace'.steps ∧ trace.calls.length < trace'.calls.length := by
  intro host work trace trace'
  have sooner : (Course.ofHost host work 7).ReachesAt 100 1 := by
    refine ⟨fun earlier below => ?_, rfl, by decide⟩
    obtain rfl := Nat.lt_one_iff.mp below
    exact ⟨rfl, by decide⟩
  have later : (Course.ofHost host work 7).ReachesAt 150 2 := by
    refine ⟨fun earlier below => ?_, rfl, by decide⟩
    rcases Nat.le_one_iff_eq_zero_or_eq_one.mp (Nat.le_of_lt_succ below) with rfl | rfl
    · exact ⟨rfl, by decide⟩
    · exact ⟨rfl, by decide⟩
  have returns : Returns host work 100 7 (.ok ⟨2, 120⟩) 120 trace :=
    returns_of_reachesAt (by decide) sooner
  have returns' : Returns host work 150 7 (.ok ⟨3, 180⟩) 180 trace' :=
    returns_of_reachesAt (by decide) later
  have ordered := larger_minimum_extends host work 7 (by decide) (by decide) returns returns'
  refine ⟨⟨by decide, by decide, returns, returns'⟩, ordered.1, ?_⟩
  exact (ordered.2.2.2 _ rfl).2.2 (by decide)

end

end Throughput
