import Throughput.Suite

/-!
Contract: how far a run depends on the rounds that its loops are allowed.

Owns:
- `Agrees`, the relation between a run and a more patient one: where the first
  is not left unfinished, the second is the same;
- the rules for `Agrees`, and the statement that a measurement, and a pass with
  reports, agrees with itself at a greater patience.

So the outcome of a pass whose loops end is one and the same for every patience
that is great enough.
-/

namespace Throughput

variable {ω α β : Type}

/-- From every state, the patient run does what the hasty one does, unless
that one is left unfinished. -/
def Agrees (hasty patient : ExceptT Halt (StateM ω) α) : Prop :=
  ∀ before, (hasty.run.run before).1 = .error .unfinished ∨
    patient.run.run before = hasty.run.run before

namespace Agrees

theorem refl (action : ExceptT Halt (StateM ω) α) : Agrees action action :=
  fun _ => .inr rfl

theorem bind {hasty patient : ExceptT Halt (StateM ω) α}
    {next patientNext : α → ExceptT Halt (StateM ω) β}
    (first : Agrees hasty patient) (second : ∀ value, Agrees (next value) (patientNext value)) :
    Agrees (hasty >>= next) (patient >>= patientNext) := by
  intro before
  rw [ExceptT.run_bind, ExceptT.run_bind, StateT.run_bind, StateT.run_bind]
  rcases first before with unfinished | same
  · have halted : hasty.run.run before = (.error .unfinished, (hasty.run.run before).2) :=
      Prod.ext unfinished rfl
    rw [halted]
    exact .inl rfl
  · rw [same]
    obtain ⟨answer, after⟩ := hasty.run.run before
    cases answer with
    | ok value => exact second value after
    | error halt => exact .inr rfl

theorem adapt {hasty patient : ExceptT Halt (StateM ω) α} (rename : Halt → Halt)
    (keeps : rename .unfinished = .unfinished) (agrees : Agrees hasty patient) :
    Agrees (hasty.adapt rename) (patient.adapt rename) := by
  intro before
  change ((Except.mapError rename <$> hasty.run).run before).1 = _ ∨
    (Except.mapError rename <$> patient.run).run before =
      (Except.mapError rename <$> hasty.run).run before
  rw [StateT.run_map, StateT.run_map]
  rcases agrees before with unfinished | same
  · left
    change (hasty.run.run before).1.mapError rename = _
    rw [unfinished]
    exact congrArg Except.error keeps
  · rw [same]
    exact .inr rfl

end Agrees

variable (host : Host (StateM ω)) {patience more : Nat}

theorem timingLoop_agrees (work : ExceptT Fault (StateM ω) Unit) (minimum earlier : Nat)
    (enough : patience ≤ more) :
    Agrees (timingLoop host.toClock work minimum patience earlier)
      (timingLoop host.toClock work minimum more earlier) := by
  induction patience generalizing more earlier with
  | zero => exact fun _ => .inl rfl
  | succ patience inductionHypothesis =>
      obtain ⟨more, rfl⟩ := Nat.exists_eq_add_of_le' enough
      have fewer : patience ≤ more + patience := Nat.le_add_left ..
      refine (Agrees.refl _).bind fun _ => (Agrees.refl _).bind fun elapsed => ?_
      by_cases short : elapsed < minimum
      · rw [if_pos short, if_pos short]
        exact inductionHypothesis (earlier + 1) fewer
      · rw [if_neg short, if_neg short]
        exact .refl _

theorem timeAtLeast_agrees (work : ExceptT Fault (StateM ω) Unit) (minimum : Nat)
    (enough : patience ≤ more) :
    Agrees (timeAtLeast host patience work minimum) (timeAtLeast host more work minimum) := by
  unfold timeAtLeast
  by_cases isZero : minimum = 0
  · simp only [if_pos isZero]
    exact fun _ => .inr rfl
  · simp only [if_neg isZero]
    exact (Agrees.refl _).bind fun _ =>
      (timingLoop_agrees host work minimum 0 enough).bind fun _ => .refl _

theorem Kernel.measure_agrees (kernel : Kernel (StateM ω)) (enough : patience ≤ more) :
    Agrees (kernel.measure host patience) (kernel.measure host more) := by
  have warms := (timeAtLeast_agrees host kernel.warmup warmupMillis enough).adapt
    (Halt.inPhase kernel.name .warmup) rfl
  have exercises := (timeAtLeast_agrees host kernel.exercise exerciseMillis enough).adapt
    (Halt.inPhase kernel.name .exercise) rfl
  exact (Agrees.refl _).bind fun _ => warms.bind fun _ => exercises.bind fun _ => .refl _

namespace Suite

variable (suite : Suite (StateM ω))

theorem sampleCycle_agrees (kernel : Kernel (StateM ω)) (cycle : Nat)
    (enough : patience ≤ more) :
    Agrees (sampleCycle host patience kernel cycle) (sampleCycle host more kernel cycle) := by
  intro before
  unfold sampleCycle
  rw [ExceptT.run_mk, ExceptT.run_mk, StateT.run_bind, StateT.run_bind]
  rcases kernel.measure_agrees host enough before with unfinished | same
  · have halted : (kernel.measure host patience).run.run before =
        (.error .unfinished, ((kernel.measure host patience).run.run before).2) :=
      Prod.ext unfinished rfl
    rw [halted]
    exact .inl rfl
  · rw [same]
    exact .inr rfl

theorem samplesFrom_agrees (kernel : Kernel (StateM ω)) (cycle remaining : Nat)
    (enough : patience ≤ more) :
    Agrees (samplesFrom host patience kernel cycle remaining)
      (samplesFrom host more kernel cycle remaining) := by
  induction remaining generalizing cycle with
  | zero => exact .refl _
  | succ remaining inductionHypothesis =>
      exact (sampleCycle_agrees host kernel cycle enough).bind fun _ =>
        (inductionHypothesis (cycle + 1)).bind fun _ => .refl _

theorem measureKernel_agrees (kernel : Kernel (StateM ω)) (enough : patience ≤ more) :
    Agrees (suite.measureKernel host patience kernel) (suite.measureKernel host more kernel) :=
  (Agrees.refl _).bind fun _ =>
    (samplesFrom_agrees host kernel 0 sampleCount enough).bind fun _ => .refl _

theorem measureEach_agrees {measureOne patientOne : Kernel (StateM ω) → ExceptT Halt (StateM ω) α}
    (each : ∀ kernel, Agrees (measureOne kernel) (patientOne kernel))
    (kernels : List (Kernel (StateM ω))) :
    Agrees (measureEach measureOne kernels) (measureEach patientOne kernels) := by
  induction kernels with
  | nil => exact .refl _
  | cons kernel kernels inductionHypothesis =>
      exact (each kernel).bind fun _ => inductionHypothesis.bind fun _ => .refl _

/-- A pass that is not left unfinished is the same for every greater
patience. -/
theorem measureAll_agrees (enough : patience ≤ more) :
    Agrees (suite.measureAll host patience) (suite.measureAll host more) := by
  have measured := measureEach_agrees
    (fun kernel => suite.measureKernel_agrees host kernel enough) suite.selected
  exact (Agrees.refl _).bind fun _ => (Agrees.refl _).bind fun _ => (Agrees.refl _).bind fun _ =>
    measured.bind fun _ => .refl _

end Suite

end Throughput
