import Throughput.Proofs.Trace.Event

/-!
Contract: two runs side by side.

Owns:
- `Paired`, the statement that two actions answer alike from related worlds and
  leave related worlds;
- the rules for `Paired`, one for each way in which actions are composed, and
  one for an action that is taken by the first run only or by the second;
- for every function of the measurement and of the suite, the statement that it
  is paired with itself if the clocks, the kernels and the reporters are.

The worlds of the two runs may be of different types, and so may the monads
that their kernels and hosts live in. What relates them is up to the caller.
-/

namespace Throughput

variable {ω ω' ε ε' α α' β β' ι : Type}
variable {related : ω → ω' → Prop}

/-- From related worlds, two actions give related answers and leave related
worlds. -/
def Paired (related : ω → ω' → Prop) (answers : β → β' → Prop)
    (first : StateM ω β) (second : StateM ω' β') : Prop :=
  ∀ before before', related before before' →
    answers (first.run before).1 (second.run before').1 ∧
      related (first.run before).2 (second.run before').2

/-- Both answers are one failure, or both are values, which are related. -/
def Likewise (values : α → α' → Prop) : Except ε α → Except ε α' → Prop
  | .ok value, .ok value' => values value value'
  | .error error, .error error' => error = error'
  | _, _ => False

theorem Likewise.cases {values : α → α' → Prop} {answer : Except ε α} {answer' : Except ε α'}
    (alike : Likewise values answer answer') :
    (∃ value value', answer = .ok value ∧ answer' = .ok value' ∧ values value value') ∨
      ∃ error, answer = .error error ∧ answer' = .error error := by
  match answer, answer', alike with
  | .ok value, .ok value', holds => exact .inl ⟨value, value', rfl, rfl, holds⟩
  | .error error, .error _, same => exact .inr ⟨error, rfl, congrArg Except.error same.symm⟩

theorem likewise_refl {values : α → α → Prop} (refl : ∀ value, values value value)
    (answer : Except ε α) : Likewise values answer answer := by
  cases answer with
  | ok value => exact refl value
  | error error => rfl

theorem likewise_eq {answer answer' : Except ε α} :
    Likewise Eq answer answer' ↔ answer = answer' := by
  constructor
  · intro alike
    rcases alike.cases with ⟨value, _, rfl, rfl, rfl⟩ | ⟨error, rfl, rfl⟩ <;> rfl
  · intro same
    subst same
    exact likewise_refl (fun _ => rfl) answer

namespace Paired

variable {answers : α → α' → Prop} {results : β → β' → Prop}

theorem mono {wider : α → α' → Prop} {first : StateM ω α} {second : StateM ω' α'}
    (pair : Paired related answers first second)
    (widens : ∀ answer answer', answers answer answer' → wider answer answer') :
    Paired related wider first second := by
  intro before before' isRelated
  have both := pair before before' isRelated
  exact ⟨widens _ _ both.1, both.2⟩

theorem pure {answer : α} {answer' : α'} (alike : answers answer answer') :
    Paired related answers (Pure.pure answer) (Pure.pure answer') :=
  fun _ _ isRelated => ⟨alike, isRelated⟩

theorem bind {first : StateM ω α} {second : StateM ω' α'} {next : α → StateM ω β}
    {next' : α' → StateM ω' β'} (pair : Paired related answers first second)
    (onward : ∀ answer answer', answers answer answer' →
      Paired related results (next answer) (next' answer')) :
    Paired related results (first >>= next) (second >>= next') := by
  intro before before' isRelated
  have both := pair before before' isRelated
  exact onward _ _ both.1 _ _ both.2

/-- An action that the first run takes alone, if it leaves the worlds related. -/
theorem bindFirst {alone : StateM ω α} {next : α → StateM ω β} {second : StateM ω' β'}
    (silent : ∀ before before', related before before' → related (alone.run before).2 before')
    (onward : ∀ answer, Paired related results (next answer) second) :
    Paired related results (alone >>= next) second := by
  intro before before' isRelated
  exact onward _ _ before' (silent before before' isRelated)

/-- An action that the second run takes alone. -/
theorem bindSecond {first : StateM ω β} {alone : StateM ω' α'} {next' : α' → StateM ω' β'}
    (silent : ∀ before before', related before before' → related before (alone.run before').2)
    (onward : ∀ answer', Paired related results first (next' answer')) :
    Paired related results first (alone >>= next') := by
  intro before before' isRelated
  exact onward _ before _ (silent before before' isRelated)

section Failing

variable {first : ExceptT ε (StateM ω) α} {second : ExceptT ε (StateM ω') α'}
variable {next : α → ExceptT ε (StateM ω) β} {next' : α' → ExceptT ε (StateM ω') β'}

theorem bindExcept (pair : Paired related (Likewise answers) first.run second.run)
    (onward : ∀ value value', answers value value' →
      Paired related (Likewise results) (next value).run (next' value').run) :
    Paired related (Likewise results) (first >>= next).run (second >>= next').run := by
  have continued : ∀ answer answer', Likewise answers answer answer' →
      Paired related (Likewise results) (ExceptT.bindCont next answer)
        (ExceptT.bindCont next' answer') := by
    intro answer answer' alike
    rcases alike.cases with ⟨value, value', rfl, rfl, holds⟩ | ⟨error, rfl, rfl⟩
    · exact onward value value' holds
    · exact pure rfl
  exact bind pair continued

theorem lift {first : StateM ω α} {second : StateM ω' α'}
    (pair : Paired related answers first second) :
    Paired related (Likewise answers) (ExceptT.lift first : ExceptT ε (StateM ω) α).run
      (ExceptT.lift second : ExceptT ε (StateM ω') α').run :=
  bind pair fun _ _ alike => pure alike

theorem bindLift {first : StateM ω α} {second : StateM ω' α'}
    (pair : Paired related answers first second)
    (onward : ∀ answer answer', answers answer answer' →
      Paired related (Likewise results) (next answer).run (next' answer').run) :
    Paired related (Likewise results)
      ((ExceptT.lift first : ExceptT ε (StateM ω) α) >>= next).run
      ((ExceptT.lift second : ExceptT ε (StateM ω') α') >>= next').run :=
  bindExcept pair.lift onward

theorem adapt (rename : ε → ε')
    (pair : Paired related (Likewise answers) first.run second.run) :
    Paired related (Likewise answers) (first.adapt rename).run (second.adapt rename).run := by
  intro before before' isRelated
  have both := pair before before' isRelated
  refine ⟨?_, both.2⟩
  change Likewise answers ((first.run.run before).1.mapError rename)
    ((second.run.run before').1.mapError rename)
  match (first.run.run before).1, (second.run.run before').1, both.1 with
  | .ok _, .ok _, alike => exact alike
  | .error _, .error _, same => exact congrArg rename same

/-- A settled answer that may be a failure. -/
theorem settled {answer : Except ε α} {answer' : Except ε α'}
    (alike : Likewise answers answer answer') :
    Paired related (Likewise answers)
      (ExceptT.mk (Pure.pure answer) : ExceptT ε (StateM ω) α).run
      (ExceptT.mk (Pure.pure answer') : ExceptT ε (StateM ω') α').run :=
  pure alike

theorem bindFirstLift {alone : StateM ω α} {second : ExceptT ε (StateM ω') β'}
    (silent : ∀ before before', related before before' → related (alone.run before).2 before')
    (onward : ∀ answer, Paired related (Likewise results) (next answer).run second.run) :
    Paired related (Likewise results)
      ((ExceptT.lift alone : ExceptT ε (StateM ω) α) >>= next).run second.run :=
  bindFirst silent onward

theorem bindSecondLift {first : ExceptT ε (StateM ω) β} {alone : StateM ω' α'}
    (silent : ∀ before before', related before before' → related before (alone.run before').2)
    (onward : ∀ answer', Paired related (Likewise results) first.run (next' answer').run) :
    Paired related (Likewise results) first.run
      ((ExceptT.lift alone : ExceptT ε (StateM ω') α') >>= next').run :=
  bindSecond silent onward

/-- What the first run does after the second has given its answer. -/
theorem bindExceptFirst {first : ExceptT ε (StateM ω) α} {second : ExceptT ε (StateM ω') α'}
    {next : α → ExceptT ε (StateM ω) β} {wider : β → α' → Prop}
    (pair : Paired related (Likewise answers) first.run second.run)
    (onward : ∀ value value', answers value value' →
      Paired related (Likewise wider) (next value).run
        (Pure.pure value' : ExceptT ε (StateM ω') α').run) :
    Paired related (Likewise wider) (first >>= next).run second.run := by
  rw [← bind_pure second]
  exact bindExcept pair onward

/-- What the second run does after the first has given its answer. -/
theorem bindExceptSecond {first : ExceptT ε (StateM ω) α} {second : ExceptT ε (StateM ω') α'}
    {next' : α' → ExceptT ε (StateM ω') β'} {wider : α → β' → Prop}
    (pair : Paired related (Likewise answers) first.run second.run)
    (onward : ∀ value value', answers value value' →
      Paired related (Likewise wider) (Pure.pure value : ExceptT ε (StateM ω) α).run
        (next' value').run) :
    Paired related (Likewise wider) first.run (second >>= next').run := by
  rw [← bind_pure first]
  exact bindExcept pair onward

end Failing

end Paired

/-! ### Measurements -/

/-- What a measurement uses of its surroundings is paired. -/
structure PairedTiming (related : ω → ω' → Prop) (host : Host (StateM ω))
    (host' : Host (StateM ω')) : Prop where
  start : Paired related Eq host.start host'.start
  elapsed : Paired related Eq host.elapsed host'.elapsed
  record : ∀ entry, Paired related Eq (host.record entry) (host'.record entry)

/-- Kernels of one name whose steps are paired. -/
structure PairedKernels (related : ω → ω' → Prop) (kernel : Kernel (StateM ω))
    (kernel' : Kernel (StateM ω')) : Prop where
  name_eq : kernel.name = kernel'.name
  step : ∀ phase, Paired related (Likewise Eq) (kernel.step phase).run (kernel'.step phase).run

section Measurements

variable {host : Host (StateM ω)} {host' : Host (StateM ω')}
variable {kernel : Kernel (StateM ω)} {kernel' : Kernel (StateM ω')}

section Loops

variable {work : ExceptT Fault (StateM ω) Unit} {work' : ExceptT Fault (StateM ω') Unit}

theorem timingLoop_paired {minimum : Nat} (hosts : PairedTiming related host host')
    (works : Paired related (Likewise Eq) work.run work'.run) (patience earlier : Nat) :
    Paired related (Likewise Eq) (timingLoop host.toClock work minimum patience earlier).run
      (timingLoop host'.toClock work' minimum patience earlier).run := by
  -- Both runs see one reading, so either both go round again or both stop.
  induction patience generalizing earlier with
  | zero => exact Paired.pure rfl
  | succ patience inductionHypothesis =>
      refine Paired.bindExcept (works.adapt _) fun _ _ _ => ?_
      refine Paired.bindLift hosts.elapsed fun elapsed _ same => ?_
      subst same
      by_cases short : elapsed < minimum
      · simp only [if_pos short]
        exact inductionHypothesis (earlier + 1)
      · simp only [if_neg short]
        exact Paired.pure rfl

theorem timeAtLeast_paired (hosts : PairedTiming related host host')
    (works : Paired related (Likewise Eq) work.run work'.run) (patience minimum : Nat) :
    Paired related (Likewise Eq) (timeAtLeast host patience work minimum).run
      (timeAtLeast host' patience work' minimum).run := by
  unfold timeAtLeast
  by_cases isZero : minimum = 0
  · simp only [if_pos isZero]
    exact Paired.pure rfl
  · simp only [if_neg isZero]
    refine Paired.bindLift hosts.start fun _ _ _ => ?_
    refine Paired.bindExcept (timingLoop_paired hosts works patience 0) fun timing _ same => ?_
    subst same
    exact Paired.bindLift (hosts.record _) fun _ _ _ => Paired.pure rfl

end Loops

theorem measure_paired (hosts : PairedTiming related host host')
    (kernels : PairedKernels related kernel kernel') (patience : Nat) :
    Paired related (Likewise Eq) (kernel.measure host patience).run
      (kernel'.measure host' patience).run := by
  have warms := timeAtLeast_paired hosts (kernels.step .warmup) patience warmupMillis
  have exercises := timeAtLeast_paired hosts (kernels.step .exercise) patience exerciseMillis
  unfold Kernel.measure
  rw [kernels.name_eq]
  refine Paired.bindExcept ((kernels.step .setup).adapt _) fun _ _ _ => ?_
  refine Paired.bindExcept (warms.adapt _) fun _ _ _ => ?_
  refine Paired.bindExcept (exercises.adapt _) fun timing _ same => ?_
  subst same
  exact Paired.bindExcept ((kernels.step .teardown).adapt _) fun _ _ _ => Paired.pure rfl

theorem sampleCycle_paired (hosts : PairedTiming related host host')
    (kernels : PairedKernels related kernel kernel') (patience cycle : Nat) :
    Paired related (Likewise Eq) (Suite.sampleCycle host patience kernel cycle).run
      (Suite.sampleCycle host' patience kernel' cycle).run := by
  refine Paired.bind (measure_paired hosts kernels patience) fun answer answer' alike => ?_
  have same := likewise_eq.mp alike
  subst same
  match answer with
  | .ok timing => exact Paired.bind (hosts.record _) fun _ _ _ => Paired.pure rfl
  | .error (.failed failure) => exact Paired.bind (hosts.record _) fun _ _ _ => Paired.pure rfl
  | .error .unfinished => exact Paired.pure rfl

theorem samplesFrom_paired (hosts : PairedTiming related host host')
    (kernels : PairedKernels related kernel kernel') (patience cycle remaining : Nat) :
    Paired related (Likewise Eq) (Suite.samplesFrom host patience kernel cycle remaining).run
      (Suite.samplesFrom host' patience kernel' cycle remaining).run := by
  induction remaining generalizing cycle with
  | zero => exact Paired.pure rfl
  | succ remaining inductionHypothesis =>
      have first := sampleCycle_paired hosts kernels patience cycle
      refine Paired.bindExcept first fun micros _ same => ?_
      subst same
      refine Paired.bindExcept (inductionHypothesis (cycle + 1)) fun rest _ same => ?_
      subst same
      exact Paired.pure rfl

end Measurements

/-! ### Passes -/

section Passes

variable {host : Host (StateM ω)} {host' : Host (StateM ω')}
variable {suite : Suite (StateM ω)} {suite' : Suite (StateM ω')}
variable {kernel : Kernel (StateM ω)} {kernel' : Kernel (StateM ω')}

/-- What reporters ask for is paired if what it takes of the hosts is. -/
theorem performAll_paired
    (writes : ∀ text, Paired related Eq (host.write text) (host'.write text))
    (records : ∀ entry, Paired related Eq (host.record entry) (host'.record entry))
    (captures : ∀ label notice,
      Paired related Eq (host.capture label notice) (host'.capture label notice))
    (effects : List Effect) :
    Paired related Eq (host.performAll effects) (host'.performAll effects) := by
  have performs : ∀ effect, Paired related Eq (host.perform effect) (host'.perform effect) := by
    intro effect
    cases effect with
    | print line =>
        refine Paired.bind (writes _) fun refusal _ same => ?_
        subst same
        cases refusal with
        | none => exact Paired.pure rfl
        | some reason => exact records _
    | record entry => exact records entry
    | capture label notice => exact captures label notice
  induction effects with
  | nil => exact Paired.pure rfl
  | cons first rest inductionHypothesis =>
      exact Paired.bind (performs first) fun _ _ _ => inductionHypothesis

/-- Two suites take notices in a paired way. -/
def PairedNotices (related : ω → ω' → Prop) (host : Host (StateM ω)) (suite : Suite (StateM ω))
    (host' : Host (StateM ω')) (suite' : Suite (StateM ω')) : Prop :=
  ∀ notice, Paired related Eq (host.performAll (suite.effects notice))
    (host'.performAll (suite'.effects notice))

theorem measureKernel_paired (hosts : PairedTiming related host host')
    (notices : PairedNotices related host suite host' suite')
    (kernels : PairedKernels related kernel kernel') (patience : Nat) :
    Paired related (Likewise Eq) (suite.measureKernel host patience kernel).run
      (suite'.measureKernel host' patience kernel').run := by
  have samples := samplesFrom_paired hosts kernels patience 0 sampleCount
  unfold Suite.measureKernel Suite.notify
  rw [kernels.name_eq]
  refine Paired.bindLift (notices _) fun _ _ _ => ?_
  refine Paired.bindExcept samples fun micros _ same => ?_
  subst same
  refine Paired.bindExcept (Paired.settled (likewise_refl (fun _ => rfl) _)) fun report _ same => ?_
  subst same
  exact Paired.bindLift (notices _) fun _ _ _ => Paired.pure rfl

theorem sampleKernel_paired (hosts : PairedTiming related host host')
    (notices : PairedNotices related host suite host' suite')
    (kernels : PairedKernels related kernel kernel') (patience : Nat) :
    Paired related (Likewise Eq) (suite.sampleKernel host patience kernel).run
      (suite'.sampleKernel host' patience kernel').run := by
  unfold Suite.sampleKernel Suite.notify
  rw [kernels.name_eq]
  refine Paired.bindLift (notices _) fun _ _ _ => ?_
  refine Paired.bindExcept (measure_paired hosts kernels patience) fun timing _ same => ?_
  subst same
  exact Paired.bindLift (notices _) fun _ _ _ => Paired.pure rfl

theorem measureEach_paired {entries : List ι} {place : ι → Kernel (StateM ω)}
    {place' : ι → Kernel (StateM ω')} {measureOne : Kernel (StateM ω) → ExceptT Halt (StateM ω) α}
    {measureOne' : Kernel (StateM ω') → ExceptT Halt (StateM ω') α}
    (each : ∀ entry ∈ entries, Paired related (Likewise Eq) (measureOne (place entry)).run
      (measureOne' (place' entry)).run) :
    Paired related (Likewise Eq) (Suite.measureEach measureOne (entries.map place)).run
      (Suite.measureEach measureOne' (entries.map place')).run := by
  induction entries with
  | nil => exact Paired.pure rfl
  | cons entry entries inductionHypothesis =>
      have first := each entry (List.mem_cons_self ..)
      have others := inductionHypothesis fun other member => each other (List.mem_cons_of_mem _ member)
      refine Paired.bindExcept first fun outcome _ same => ?_
      subst same
      refine Paired.bindExcept others fun outcomes _ same => ?_
      subst same
      exact Paired.pure rfl

variable {entries : List ι} {place : ι → Kernel (StateM ω)} {place' : ι → Kernel (StateM ω')}

theorem measureAll_paired (hosts : PairedTiming related host host')
    (notices : PairedNotices related host suite host' suite')
    (nanos : Paired related Eq host.nanos host'.nanos)
    (dayMillis : Paired related Eq host.dayMillis host'.dayMillis)
    (name_eq : suite.name = suite'.name)
    (selected : suite.selected = entries.map place)
    (selected' : suite'.selected = entries.map place')
    (kernels : ∀ entry ∈ entries, PairedKernels related (place entry) (place' entry))
    (patience : Nat) :
    Paired related (Likewise Eq) (suite.measureAll host patience).run
      (suite'.measureAll host' patience).run := by
  have reports : Paired related (Likewise Eq)
      (Suite.measureEach (suite.measureKernel host patience) (entries.map place)).run
      (Suite.measureEach (suite'.measureKernel host' patience) (entries.map place')).run :=
    measureEach_paired fun entry member =>
      measureKernel_paired hosts notices (kernels entry member) patience
  unfold Suite.measureAll Suite.notify
  rw [selected, selected', List.length_map, List.length_map, name_eq]
  refine Paired.bindLift nanos fun startNanos _ same => ?_
  subst same
  refine Paired.bindLift dayMillis fun startMillis _ same => ?_
  subst same
  refine Paired.bindLift (notices _) fun _ _ _ => ?_
  refine Paired.bindExcept reports fun made _ same => ?_
  subst same
  refine Paired.bindLift nanos fun endNanos _ same => ?_
  subst same
  exact Paired.bindLift (notices _) fun _ _ _ => Paired.pure rfl

theorem measureOnce_paired (hosts : PairedTiming related host host')
    (notices : PairedNotices related host suite host' suite')
    (selected : suite.selected = entries.map place)
    (selected' : suite'.selected = entries.map place')
    (kernels : ∀ entry ∈ entries, PairedKernels related (place entry) (place' entry))
    (patience : Nat) :
    Paired related (Likewise Eq) (suite.measureOnce host patience).run
      (suite'.measureOnce host' patience).run := by
  unfold Suite.measureOnce
  rw [selected, selected']
  exact measureEach_paired fun entry member =>
    sampleKernel_paired hosts notices (kernels entry member) patience

end Passes

/-! ### Watched runs -/

/-- Related worlds with traces in which the same is seen. What an event shows in
either trace is up to the caller; some show nothing. -/
def WatchedRelated (related : ω → ω' → Prop) (seen seen' : Trace.Event → Option Trace.Event)
    (first : Watched ω) (second : Watched ω') : Prop :=
  related first.world second.world ∧ first.trace.filterMap seen = second.trace.filterMap seen'

section Watching

variable {seen seen' : Trace.Event → Option Trace.Event}
variable {host : Host (StateM ω)} {host' : Host (StateM ω')}

theorem Paired.watch {answers : β → β' → Prop} {first : StateM ω β} {second : StateM ω' β'}
    {event : β → Trace.Event} {event' : β' → Trace.Event}
    (pair : Paired related answers first second)
    (same : ∀ answer answer', answers answer answer' → seen (event answer) = seen' (event' answer')) :
    Paired (WatchedRelated related seen seen') answers (Throughput.watch event first)
      (Throughput.watch event' second) := by
  intro before before' isRelated
  obtain ⟨alike, stillRelated⟩ := pair before.world before'.world isRelated.1
  refine ⟨alike, stillRelated, ?_⟩
  change (before.trace ++ [event (first.run before.world).1]).filterMap seen =
    (before'.trace ++ [event' (second.run before'.world).1]).filterMap seen'
  rw [List.filterMap_append, List.filterMap_append, isRelated.2, List.filterMap_cons,
    List.filterMap_cons, same _ _ alike]
  rfl

/-- An event that is no call of a kernel is seen alike in both traces. -/
def SeenAlike (seen seen' : Trace.Event → Option Trace.Event) : Prop :=
  ∀ event, (∀ place phase outcome, event ≠ .called place phase outcome) →
    seen event = seen' event

theorem PairedTiming.watched (hosts : PairedTiming related host host')
    (alike : SeenAlike seen seen') :
    PairedTiming (WatchedRelated related seen seen') host.watched host'.watched where
  start := hosts.start.watch fun _ _ _ => alike _ (by simp)
  elapsed := hosts.elapsed.watch fun elapsed _ same => same ▸ alike (.looked elapsed) (by simp)
  record := fun entry => (hosts.record entry).watch fun _ _ _ => alike _ (by simp)

theorem PairedKernels.watched {kernel : Kernel (StateM ω)} {kernel' : Kernel (StateM ω')}
    {place place' : Nat} (kernels : PairedKernels related kernel kernel')
    (alike : ∀ phase outcome,
      seen (.called place phase outcome) = seen' (.called place' phase outcome)) :
    PairedKernels (WatchedRelated related seen seen') (kernel.watched place)
      (kernel'.watched place') where
  name_eq := kernels.name_eq
  step := by
    intro phase
    have watchedStep : Paired (WatchedRelated related seen seen') (Likewise Eq)
        (watch (.called place phase) (kernel.step phase).run)
        (watch (.called place' phase) (kernel'.step phase).run) := by
      refine (kernels.step phase).watch fun outcome outcome' same => ?_
      rw [likewise_eq.mp same]
      exact alike phase outcome'
    cases phase <;> exact watchedStep

end Watching

end Throughput
