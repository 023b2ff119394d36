import Mathlib.Data.Nat.Find
import Throughput.Proofs.Lifecycle

/-!
Contract: when a measurement loop returns, and what.

Owns:
- `Course`, the rounds that a clock and a unit of work go through from a world
  when nothing stops them, with the answer of the work and the reading of the
  clock in each;
- the outcome of a loop by its course: it stops at the first round whose work
  fails or whose reading reaches the minimum;
- `Returns`, what a loop answers, leaves and shows for every patience that is
  great enough;
- the theorem that says for every minimum when a loop returns what.

The rounds are counted from zero, and a course does not know the minimum.
Nothing is assumed of the readings; they may go down as well as up.
-/

namespace Throughput

variable {ω : Type}

/-- A unit of work and a clock by turns, from a world on. -/
structure Course (ω : Type) where
  clock : Clock (StateM ω)
  work : ExceptT Fault (StateM ω) Unit
  start : ω

namespace Course

variable (course : Course ω)

/-- The world in which a round starts, after those before it. -/
def world : Nat → ω
  | 0 => course.start
  | round + 1 => (course.clock.elapsed.run (course.work.run.run (world round)).2).2

/-- What the work of a round answers. -/
def answer (round : Nat) : Except Fault Unit :=
  (course.work.run.run (course.world round)).1

/-- The world between the work of a round and the look at the clock. -/
def worked (round : Nat) : ω :=
  (course.work.run.run (course.world round)).2

/-- What the clock shows in a round. -/
def reading (round : Nat) : Nat :=
  (course.clock.elapsed.run (course.worked round)).1

/-- What the clock shows in the first rounds, so many of them. -/
def readings (count : Nat) : List Nat :=
  (List.range count).map course.reading

/-- The rounds that remain after so many. -/
def later (count : Nat) : Course ω :=
  { course with start := course.world count }

theorem readings_succ (count : Nat) :
    course.readings (count + 1) = course.readings count ++ [course.reading count] := by
  rw [readings, List.range_succ, List.map_append]
  rfl

theorem world_later (count round : Nat) :
    (course.later count).world round = course.world (count + round) := by
  induction round with
  | zero => rfl
  | succ round inductionHypothesis =>
      rw [world, inductionHypothesis]
      rfl

theorem later_later (count more : Nat) :
    (course.later count).later more = course.later (count + more) := by
  unfold later
  rw [← world_later]
  rfl

/-- A round after which a loop goes on. -/
def Passes (minimum round : Nat) : Prop :=
  course.answer round = .ok () ∧ course.reading round < minimum

/-- The first round that does not pass is this one: its reading reaches the
minimum. -/
def ReachesAt (minimum round : Nat) : Prop :=
  (∀ earlier < round, course.Passes minimum earlier) ∧
    course.answer round = .ok () ∧ minimum ≤ course.reading round

/-- The first round that does not pass is this one: its work fails. -/
def FailsAt (minimum round : Nat) (fault : Fault) : Prop :=
  (∀ earlier < round, course.Passes minimum earlier) ∧ course.answer round = .error fault

theorem reaches_or_fails_or_passes (minimum : Nat) :
    (∃ round, course.ReachesAt minimum round) ∨
      (∃ round fault, course.FailsAt minimum round fault) ∨
      ∀ round, course.Passes minimum round := by
  classical
  by_cases stops : ∃ round, ¬course.Passes minimum round
  · have passes : ∀ earlier < Nat.find stops, course.Passes minimum earlier :=
      fun earlier below => not_not.mp (Nat.find_min stops below)
    match answered : course.answer (Nat.find stops) with
    | .error fault => exact .inr (.inl ⟨_, fault, passes, answered⟩)
    | .ok () =>
        have long : ¬course.reading (Nat.find stops) < minimum :=
          fun short => Nat.find_spec stops ⟨answered, short⟩
        exact .inl ⟨_, passes, answered, Nat.not_lt.mp long⟩
  · exact .inr (.inr (not_exists_not.mp stops))

/-! ### The loop over a course -/

variable {minimum round earlier : Nat} {fault : Fault}

/-- The loop from the start of a course, with a number of units of work already
done. -/
def loop (minimum patience earlier : Nat) : Except Halt Timing × ω :=
  (timingLoop course.clock course.work minimum patience earlier).run.run course.start

theorem work_adapt_run (rename : Fault → Halt) :
    (course.work.adapt rename).run.run course.start =
      ((course.answer 0).mapError rename, course.worked 0) := rfl

theorem loop_succ_of_error (patience : Nat) (failed : course.answer 0 = .error fault) :
    course.loop minimum (patience + 1) earlier =
      (.error (.failed (.work fault)), course.worked 0) := by
  unfold loop
  rw [timingLoop, ExceptT.run_bind, StateT.run_bind, work_adapt_run, failed]
  rfl

theorem loop_succ_of_ok (patience : Nat) (done : course.answer 0 = .ok ()) :
    course.loop minimum (patience + 1) earlier =
      if course.reading 0 < minimum then (course.later 1).loop minimum patience (earlier + 1)
      else (.ok ⟨earlier + 1, course.reading 0⟩, course.world 1) := by
  have afterWork : course.loop minimum (patience + 1) earlier =
      (if course.reading 0 < minimum then
        timingLoop course.clock course.work minimum patience (earlier + 1)
      else return ⟨earlier + 1, course.reading 0⟩).run.run (course.world 1) := by
    unfold loop
    rw [timingLoop, ExceptT.run_bind, StateT.run_bind, work_adapt_run, done]
    rfl
  rw [afterWork]
  by_cases short : course.reading 0 < minimum
  · rw [if_pos short, if_pos short]
    rfl
  · rw [if_neg short, if_neg short]
    rfl

/-- Rounds that pass are gone through, each at the cost of one unit of
patience. -/
theorem loop_of_passes (patience : Nat)
    (passes : ∀ other < round, course.Passes minimum other) :
    course.loop minimum (round + patience) earlier =
      (course.later round).loop minimum patience (earlier + round) := by
  induction round generalizing patience with
  | zero =>
      rw [Nat.zero_add]
      rfl
  | succ round inductionHypothesis =>
      have before := inductionHypothesis (patience + 1) fun other below =>
        passes other (Nat.lt_succ_of_lt below)
      obtain ⟨done, short⟩ := passes round (Nat.lt_succ_self round)
      have goesOn : (course.later round).loop minimum (patience + 1) (earlier + round) =
          ((course.later round).later 1).loop minimum patience (earlier + round + 1) := by
        rw [loop_succ_of_ok _ _ done]
        exact if_pos short
      rw [Nat.succ_add_eq_add_succ, before, goesOn, later_later, Nat.add_assoc]

theorem loop_of_all_pass (patience : Nat)
    (passes : ∀ other < patience, course.Passes minimum other) :
    course.loop minimum patience earlier = (.error .unfinished, course.world patience) :=
  course.loop_of_passes 0 passes

theorem loop_of_reachesAt (patience : Nat) (reaches : course.ReachesAt minimum round) :
    course.loop minimum (round + (patience + 1)) earlier =
      (.ok ⟨earlier + round + 1, course.reading round⟩, course.world (round + 1)) := by
  obtain ⟨passes, done, enough⟩ := reaches
  rw [course.loop_of_passes _ passes, loop_succ_of_ok _ _ done]
  exact if_neg (Nat.not_lt.mpr enough)

theorem loop_of_failsAt (patience : Nat) (fails : course.FailsAt minimum round fault) :
    course.loop minimum (round + (patience + 1)) earlier =
      (.error (.failed (.work fault)), course.worked round) := by
  obtain ⟨passes, failed⟩ := fails
  rw [course.loop_of_passes _ passes, loop_succ_of_error _ _ failed]
  rfl

end Course

/-! ### The measurement from its start to its log entry -/

section Measurement

variable {host : Host (StateM ω)} {work : ExceptT Fault (StateM ω) Unit}
variable {minimum patience : Nat} {before after : ω}

/-- The course of a measurement: it begins when the clock has been started. -/
def Course.ofHost (host : Host (StateM ω)) (work : ExceptT Fault (StateM ω) Unit)
    (before : ω) : Course ω where
  clock := host.toClock
  work := work
  start := (host.start.run before).2

theorem timeAtLeast_of_zero (host : Host (StateM ω)) (work : ExceptT Fault (StateM ω) Unit)
    (patience : Nat) (before : ω) :
    (timeAtLeast host patience work 0).run.run before =
      (.error (.failed (.invalidMinimum 0)), before) := rfl

/-- A measurement is its loop and an entry in the log. -/
theorem timeAtLeast_run (positive : 0 < minimum) :
    (timeAtLeast host patience work minimum).run.run before =
      ExceptT.bindCont
        (fun timing => (do
          host.record (.loopFinished timing.iterations timing.elapsed minimum)
          return timing : ExceptT Halt (StateM ω) Timing))
        ((Course.ofHost host work before).loop minimum patience 0).1
        ((Course.ofHost host work before).loop minimum patience 0).2 := by
  unfold timeAtLeast
  simp only [if_neg (Nat.ne_of_gt positive)]
  rfl

theorem timeAtLeast_of_reachesAt {round : Nat} (positive : 0 < minimum) (enough : round < patience)
    (reaches : (Course.ofHost host work before).ReachesAt minimum round) :
    let course := Course.ofHost host work before
    (timeAtLeast host patience work minimum).run.run before =
      (.ok ⟨round + 1, course.reading round⟩,
        ((host.record (.loopFinished (round + 1) (course.reading round) minimum)).run
          (course.world (round + 1))).2) := by
  obtain ⟨more, rfl⟩ := Nat.exists_eq_add_of_lt enough
  rw [timeAtLeast_run positive, Nat.add_assoc, Course.loop_of_reachesAt _ _ reaches, Nat.zero_add]
  rfl

theorem timeAtLeast_of_failsAt {round : Nat} {fault : Fault} (positive : 0 < minimum)
    (enough : round < patience)
    (fails : (Course.ofHost host work before).FailsAt minimum round fault) :
    (timeAtLeast host patience work minimum).run.run before =
      (.error (.failed (.work fault)), (Course.ofHost host work before).worked round) := by
  obtain ⟨more, rfl⟩ := Nat.exists_eq_add_of_lt enough
  rw [timeAtLeast_run positive, Nat.add_assoc, Course.loop_of_failsAt _ _ fails]
  rfl

theorem timeAtLeast_of_all_pass (positive : 0 < minimum)
    (passes : ∀ round < patience, (Course.ofHost host work before).Passes minimum round) :
    (timeAtLeast host patience work minimum).run.run before =
      (.error .unfinished, (Course.ofHost host work before).world patience) := by
  rw [timeAtLeast_run positive, Course.loop_of_all_pass _ _ passes]
  rfl

end Measurement

/-! ### What a measurement shows -/

/-- A unit of work that shows each time it is done, as the exercise of a kernel
registered first. -/
def watchedWork (work : ExceptT Fault (StateM ω) Unit) :
    ExceptT Fault (StateM (Watched ω)) Unit :=
  ExceptT.mk (watch (.called 0 .exercise) work.run)

section Shown

variable {host : Host (StateM ω)} {work : ExceptT Fault (StateM ω) Unit}
variable {minimum patience : Nat} {before after : ω}

/-- The course of a watched measurement. -/
def Course.ofWatched (host : Host (StateM ω)) (work : ExceptT Fault (StateM ω) Unit)
    (before : ω) : Course (Watched ω) :=
  Course.ofHost host.watched (watchedWork work) ⟨before, []⟩

/-- Where the work of all earlier rounds has succeeded, these rounds are what has
been seen when a round starts. -/
theorem Course.ofWatched_world {round : Nat}
    (done : ∀ earlier < round, (Course.ofHost host work before).answer earlier = .ok ()) :
    (Course.ofWatched host work before).world round =
      ⟨(Course.ofHost host work before).world round,
        .started :: Trace.rounds 0 .exercise ((Course.ofHost host work before).readings round)⟩ := by
  induction round with
  | zero => rfl
  | succ round inductionHypothesis =>
      have first := inductionHypothesis fun earlier below => done earlier (Nat.lt_succ_of_lt below)
      have last := done round (Nat.lt_succ_self round)
      rw [Course.world, first]
      change Watched.mk ((Course.ofHost host work before).world (round + 1))
        (.started :: Trace.rounds 0 .exercise _ ++
          [.called 0 .exercise ((Course.ofHost host work before).answer round)] ++
          [.looked ((Course.ofHost host work before).reading round)]) = _
      rw [last, Course.readings_succ, Trace.rounds_append, List.append_assoc]
      rfl

theorem Course.ofWatched_answer {round : Nat}
    (done : ∀ earlier < round, (Course.ofHost host work before).answer earlier = .ok ()) :
    (Course.ofWatched host work before).answer round =
      (Course.ofHost host work before).answer round := by
  unfold Course.answer
  rw [Course.ofWatched_world done]
  rfl

theorem Course.ofWatched_worked {round : Nat}
    (done : ∀ earlier < round, (Course.ofHost host work before).answer earlier = .ok ()) :
    (Course.ofWatched host work before).worked round =
      ⟨(Course.ofHost host work before).worked round,
        .started :: (Trace.rounds 0 .exercise ((Course.ofHost host work before).readings round) ++
          [.called 0 .exercise ((Course.ofHost host work before).answer round)])⟩ := by
  unfold Course.worked
  rw [Course.ofWatched_world done]
  rfl

theorem Course.ofWatched_reading {round : Nat}
    (done : ∀ earlier < round, (Course.ofHost host work before).answer earlier = .ok ()) :
    (Course.ofWatched host work before).reading round =
      (Course.ofHost host work before).reading round := by
  unfold Course.reading
  rw [Course.ofWatched_worked done]
  rfl

theorem Course.ofWatched_passes {round : Nat}
    (passes : ∀ earlier ≤ round, (Course.ofHost host work before).Passes minimum earlier) :
    (Course.ofWatched host work before).Passes minimum round := by
  have done := fun earlier (below : earlier < round) => (passes earlier (Nat.le_of_lt below)).1
  obtain ⟨last, short⟩ := passes round (Nat.le_refl round)
  exact ⟨(ofWatched_answer done).trans last, (ofWatched_reading done).symm ▸ short⟩

theorem Course.ofWatched_reachesAt {round : Nat}
    (reaches : (Course.ofHost host work before).ReachesAt minimum round) :
    (Course.ofWatched host work before).ReachesAt minimum round := by
  obtain ⟨passes, last, enough⟩ := reaches
  have done := fun earlier (below : earlier < round) => (passes earlier below).1
  refine ⟨fun earlier below => ?_, (ofWatched_answer done).trans last,
    (ofWatched_reading done).symm ▸ enough⟩
  exact ofWatched_passes fun other notAfter => passes other (Nat.lt_of_le_of_lt notAfter below)

theorem Course.ofWatched_failsAt {round : Nat} {fault : Fault}
    (fails : (Course.ofHost host work before).FailsAt minimum round fault) :
    (Course.ofWatched host work before).FailsAt minimum round fault := by
  obtain ⟨passes, last⟩ := fails
  have done := fun earlier (below : earlier < round) => (passes earlier below).1
  refine ⟨fun earlier below => ?_, (ofWatched_answer done).trans last⟩
  exact ofWatched_passes fun other notAfter => passes other (Nat.lt_of_le_of_lt notAfter below)

/-! ### What a measurement returns -/

/-- For every patience that is great enough, a measurement gives this answer,
leaves this world and shows this trace. -/
def Returns (host : Host (StateM ω)) (work : ExceptT Fault (StateM ω) Unit) (minimum : Nat)
    (before : ω) (answer : Except Halt Timing) (after : ω) (trace : Trace) : Prop :=
  answer ≠ .error .unfinished ∧
    ∃ enough, ∀ patience, enough ≤ patience →
      (timeAtLeast host patience work minimum).run.run before = (answer, after) ∧
      (timeAtLeast host.watched patience (watchedWork work) minimum).run.run ⟨before, []⟩ =
        (answer, ⟨after, trace⟩)

theorem Returns.unique {answer answer' : Except Halt Timing} {after' : ω} {trace trace' : Trace}
    (returns : Returns host work minimum before answer after trace)
    (returns' : Returns host work minimum before answer' after' trace') :
    answer = answer' ∧ after = after' ∧ trace = trace' := by
  obtain ⟨_, enough, runs⟩ := returns
  obtain ⟨_, enough', runs'⟩ := returns'
  have run := (runs (max enough enough') (Nat.le_max_left ..)).2
  have run' := (runs' (max enough enough') (Nat.le_max_right ..)).2
  have same := run.symm.trans run'
  injection same with sameAnswer sameWorld
  injection sameWorld with sameAfter sameTrace
  exact ⟨sameAnswer, sameAfter, sameTrace⟩

theorem returns_of_zero (host : Host (StateM ω)) (work : ExceptT Fault (StateM ω) Unit)
    (before : ω) :
    Returns host work 0 before (.error (.failed (.invalidMinimum 0))) before [] :=
  ⟨by simp, 0, fun patience _ => ⟨timeAtLeast_of_zero host work patience before,
    timeAtLeast_of_zero host.watched (watchedWork work) patience ⟨before, []⟩⟩⟩

theorem returns_of_reachesAt {round : Nat} (positive : 0 < minimum)
    (reaches : (Course.ofHost host work before).ReachesAt minimum round) :
    let course := Course.ofHost host work before
    let entry := Log.Entry.loopFinished (round + 1) (course.reading round) minimum
    Returns host work minimum before (.ok ⟨round + 1, course.reading round⟩)
      ((host.record entry).run (course.world (round + 1))).2
      (.started :: (Trace.rounds 0 .exercise (course.readings (round + 1)) ++
        [.recorded entry])) := by
  intro course entry
  refine ⟨by simp, round + 1, fun patience enough => ⟨?_, ?_⟩⟩
  · exact timeAtLeast_of_reachesAt positive enough reaches
  · have done : ∀ earlier < round + 1, course.answer earlier = .ok () := by
      intro earlier below
      rcases Nat.lt_succ_iff_lt_or_eq.mp below with before | rfl
      · exact (reaches.1 earlier before).1
      · exact reaches.2.1
    have doneBefore := fun earlier below => done earlier (Nat.lt_succ_of_lt below)
    have run := timeAtLeast_of_reachesAt positive enough (Course.ofWatched_reachesAt reaches)
    change _ = (Except.ok (Timing.mk _ ((Course.ofWatched host work before).reading round)),
      ((host.watched.record (.loopFinished _ ((Course.ofWatched host work before).reading round) _)).run
        ((Course.ofWatched host work before).world (round + 1))).2) at run
    rw [Course.ofWatched_reading doneBefore, Course.ofWatched_world done] at run
    exact run

theorem returns_of_failsAt {round : Nat} {fault : Fault} (positive : 0 < minimum)
    (fails : (Course.ofHost host work before).FailsAt minimum round fault) :
    let course := Course.ofHost host work before
    Returns host work minimum before (.error (.failed (.work fault))) (course.worked round)
      (.started :: (Trace.rounds 0 .exercise (course.readings round) ++
        [.called 0 .exercise (.error fault)])) := by
  intro course
  refine ⟨by simp, round + 1, fun patience enough => ⟨?_, ?_⟩⟩
  · exact timeAtLeast_of_failsAt positive enough fails
  · have done := fun earlier (below : earlier < round) => (fails.1 earlier below).1
    have run := timeAtLeast_of_failsAt positive enough (Course.ofWatched_failsAt fails)
    change _ = (_, (Course.ofWatched host work before).worked round) at run
    rw [Course.ofWatched_worked done, fails.2] at run
    exact run

/-- A measurement all of whose rounds pass uses up every patience. -/
theorem runs_of_all_pass (positive : 0 < minimum)
    (passes : ∀ round < patience, (Course.ofHost host work before).Passes minimum round) :
    let course := Course.ofHost host work before
    (timeAtLeast host patience work minimum).run.run before =
        (.error .unfinished, course.world patience) ∧
      (timeAtLeast host.watched patience (watchedWork work) minimum).run.run ⟨before, []⟩ =
        (.error .unfinished, ⟨course.world patience,
          .started :: Trace.rounds 0 .exercise (course.readings patience)⟩) := by
  intro course
  refine ⟨timeAtLeast_of_all_pass positive passes, ?_⟩
  have watchedPasses : ∀ round < patience,
      (Course.ofWatched host work before).Passes minimum round := fun round below =>
    Course.ofWatched_passes fun earlier notAfter => passes earlier (Nat.lt_of_le_of_lt notAfter below)
  have run := timeAtLeast_of_all_pass positive watchedPasses
  change _ = (_, (Course.ofWatched host work before).world patience) at run
  rw [Course.ofWatched_world fun round below => (passes round below).1] at run
  exact run

theorem not_returns_of_all_pass (positive : 0 < minimum)
    (passes : ∀ round, (Course.ofHost host work before).Passes minimum round)
    {answer : Except Halt Timing} {trace : Trace} :
    ¬Returns host work minimum before answer after trace := by
  rintro ⟨finished, enough, runs⟩
  have run := (runs enough (Nat.le_refl enough)).1
  rw [timeAtLeast_of_all_pass positive fun round _ => passes round] at run
  injection run with sameAnswer
  exact finished sameAnswer.symm

end Shown

/-- When a measurement loop returns, and what, for every clock, every unit of
work and every minimum. A minimum of zero is refused at once. For any other the
clock is started and rounds of work and a look at the clock follow. The loop
returns a timing exactly if there is a first round that does not pass and its
reading reaches the minimum; it fails exactly if there is one and its work
fails; and it does not return exactly if all rounds pass. What it shows up to
there is the start of the clock and these rounds. -/
theorem timeAtLeast_returns_iff
    (host : Host (StateM ω))
    (work : ExceptT Fault (StateM ω) Unit)
    (minimum : Nat)
    (before : ω) :
    let course := Course.ofHost host work before
    (minimum = 0 → ∀ answer after trace,
      Returns host work minimum before answer after trace ↔
        answer = .error (.failed (.invalidMinimum 0)) ∧ after = before ∧ trace = []) ∧
    (0 < minimum →
      (∀ timing after trace,
        Returns host work minimum before (.ok timing) after trace ↔
          ∃ round, course.ReachesAt minimum round ∧
            timing = ⟨round + 1, course.reading round⟩ ∧
            after = ((host.record (.loopFinished (round + 1) (course.reading round) minimum)).run
              (course.world (round + 1))).2 ∧
            trace = .started :: (Trace.rounds 0 .exercise (course.readings (round + 1)) ++
              [.recorded (.loopFinished (round + 1) (course.reading round) minimum)])) ∧
      (∀ failure after trace,
        Returns host work minimum before (.error (.failed failure)) after trace ↔
          ∃ round fault, course.FailsAt minimum round fault ∧
            failure = .work fault ∧ after = course.worked round ∧
            trace = .started :: (Trace.rounds 0 .exercise (course.readings round) ++
              [.called 0 .exercise (.error fault)])) ∧
      ((∀ answer after trace, ¬Returns host work minimum before answer after trace) ↔
        ∀ round, course.Passes minimum round) ∧
      ((∀ round, course.Passes minimum round) → ∀ patience,
        (timeAtLeast host.watched patience (watchedWork work) minimum).run.run ⟨before, []⟩ =
          (.error .unfinished, ⟨course.world patience,
            .started :: Trace.rounds 0 .exercise (course.readings patience)⟩))) ∧
    ∀ timing : Timing,
      (timing.micros : Float) =
        1000.0 * Float.ofNat timing.elapsed / Float.ofNat timing.iterations := by
  intro course
  have cases := course.reaches_or_fails_or_passes minimum
  refine ⟨?_, fun positive => ⟨?_, ?_, ?_, ?_⟩, fun _ => rfl⟩
  · rintro rfl answer after trace
    constructor
    · exact fun returns => returns.unique (returns_of_zero host work before)
    · rintro ⟨rfl, rfl, rfl⟩
      exact returns_of_zero host work after
  · intro timing after trace
    constructor
    · intro returns
      rcases cases with ⟨round, reaches⟩ | ⟨round, fault, fails⟩ | passes
      · obtain ⟨sameTiming, rfl, rfl⟩ := returns.unique (returns_of_reachesAt positive reaches)
        exact ⟨round, reaches, Except.ok.inj sameTiming, rfl, rfl⟩
      · cases (returns.unique (returns_of_failsAt positive fails)).1
      · exact absurd returns (not_returns_of_all_pass positive passes)
    · rintro ⟨round, reaches, rfl, rfl, rfl⟩
      exact returns_of_reachesAt positive reaches
  · intro failure after trace
    constructor
    · intro returns
      rcases cases with ⟨round, reaches⟩ | ⟨round, fault, fails⟩ | passes
      · cases (returns.unique (returns_of_reachesAt positive reaches)).1
      · obtain ⟨sameFailure, rfl, rfl⟩ := returns.unique (returns_of_failsAt positive fails)
        injection sameFailure with sameHalt
        injection sameHalt with sameFailure
        exact ⟨round, fault, fails, sameFailure, rfl, rfl⟩
      · exact absurd returns (not_returns_of_all_pass positive passes)
    · rintro ⟨round, fault, fails, rfl, rfl, rfl⟩
      exact returns_of_failsAt positive fails
  · constructor
    · intro never
      rcases cases with ⟨round, reaches⟩ | ⟨round, fault, fails⟩ | passes
      · exact absurd (returns_of_reachesAt positive reaches) (never _ _ _)
      · exact absurd (returns_of_failsAt positive fails) (never _ _ _)
      · exact passes
    · exact fun passes _ _ _ => not_returns_of_all_pass positive passes
  · exact fun passes patience => (runs_of_all_pass positive fun round _ => passes round).2

end Throughput
