import Throughput.Proofs.Trace.Divided
import Throughput.Proofs.Trace.Pass
import Throughput.Rehearsal.Clock

/-!
Contract: the two modes of a pass measure the same thing.

Owns:
- `Suite.repeatOnce`, passes of single cycles one after another, up to the
  first that fails;
- the theorem that a pass with reports over one selected kernel takes the steps
  of ten passes of single cycles, and reports what they return.

The notices of the two modes are different ones, and are delivered at different
moments. They are quiet, so only what is measured in between is compared.
-/

namespace Throughput

namespace Suite

/-- So many passes of single cycles, up to the first that fails. -/
def repeatOnce {m : Type → Type} [Monad m] (host : Host m) (patience : Nat) (suite : Suite m) :
    Nat → ExceptT Halt m (List (List (Sample Float)))
  | 0 => return []
  | count + 1 => do
    let samples ← suite.measureOnce host patience
    let rest ← repeatOnce host patience suite count
    return samples :: rest

variable {ω : Type} {host : Host (StateM ω)} {suite : Suite (StateM ω)} {patience : Nat}

theorem repeatOnce_succ_of_error {count : Nat} {before after : ω} {halt : Halt}
    (first : (suite.measureOnce host patience).run.run before = (.error halt, after)) :
    (suite.repeatOnce host patience (count + 1)).run.run before = (.error halt, after) := by
  rw [repeatOnce, ExceptT.run_bind, StateT.run_bind, first]
  rfl

theorem repeatOnce_succ_of_ok {count : Nat} {before between : ω} {samples : List (Sample Float)}
    (first : (suite.measureOnce host patience).run.run before = (.ok samples, between)) :
    (suite.repeatOnce host patience (count + 1)).run.run before =
      let others := (suite.repeatOnce host patience count).run.run between
      (others.1.map (samples :: ·), others.2) := by
  rw [repeatOnce, ExceptT.run_bind, StateT.run_bind, first]
  change (repeatOnce host patience suite count >>= fun rest =>
    pure (samples :: rest)).run.run between = _
  rw [bind_pure_comp, ExceptT.run_map]
  rfl

/-- Where passes end early, all of them have succeeded but the last. -/
theorem exists_of_repeatOnce_error {count : Nat} {before after : ω} {halt : Halt}
    (run : (suite.repeatOnce host patience count).run.run before = (.error halt, after)) :
    ∃ done < count, ∃ values between,
      (suite.repeatOnce host patience done).run.run before = (.ok values, between) ∧
      (suite.measureOnce host patience).run.run between = (.error halt, after) := by
  induction count generalizing before with
  | zero => cases run
  | succ count inductionHypothesis =>
      match first : (suite.measureOnce host patience).run.run before with
      | (.error _, _) =>
          rw [repeatOnce_succ_of_error first] at run
          cases run
          exact ⟨0, Nat.succ_pos count, [], before, rfl, first⟩
      | (.ok samples, between) =>
          rw [repeatOnce_succ_of_ok first] at run
          match others : (suite.repeatOnce host patience count).run.run between with
          | (.ok _, _) =>
              rw [others] at run
              cases run
          | (.error _, _) =>
              rw [others] at run
              cases run
              obtain ⟨done, below, values, last, succeeded, failed⟩ := inductionHypothesis others
              refine ⟨done + 1, Nat.succ_lt_succ below, samples :: values, last, ?_, failed⟩
              rw [repeatOnce_succ_of_ok first, succeeded]
              rfl

theorem leaves_repeatOnce (suite : Suite (StateM ω)) (patience count : Nat) :
    Leaves host suite.kernels (suite.repeatOnce host patience count).run
      (suite.watched.repeatOnce host.watched patience count).run fun _ _ => True := by
  induction count with
  | zero => exact (Leaves.pure (Except.ok [])).mono fun _ _ _ => trivial
  | succ count inductionHypothesis =>
      have first := @leaves_measureOnce _ host suite patience
      have both := Leaves.bindExcept first fun samples =>
        Leaves.bindExcept inductionHypothesis fun rest =>
          Leaves.pure (Except.ok (samples :: rest))
      exact both.mono fun _ _ _ => trivial

end Suite

namespace Divided

variable {τ κ : Type} {clock : Clock (StateM τ)} {desk : Host (StateM κ)}
variable {suite : Suite (StateM (Watched (Divided τ κ)))}
variable {kernel : Kernel (StateM (Watched (Divided τ κ)))}
variable {patience : Nat}

/-! ### One cycle in either mode -/

theorem sampleCycle_sampleKernel (steps : PairedKernels Alike kernel kernel) (cycle : Nat) :
    Paired Alike (Likewise fun micros sample => sample = ⟨kernel.name, micros⟩)
      (Suite.sampleCycle (host clock desk).watched patience kernel cycle).run
      (suite.sampleKernel (host clock desk).watched patience kernel).run := by
  have timing : PairedTiming Alike (host clock desk).watched (host clock desk).watched :=
    pairedTiming
  have measured := measure_paired timing steps patience
  unfold Suite.sampleKernel Suite.notify
  apply Paired.bindSecondLift (Quiet.performAll _).second
  intro _
  rw [ExceptT.run_bind]
  refine Paired.bind measured fun answer answer' alike => ?_
  have same := likewise_eq.mp alike
  subst same
  match answer with
  | .ok timing =>
      apply Paired.bindSecondLift (Quiet.performAll _).second
      intro _
      exact Paired.bindFirst (Quiet.record _).first fun _ => Paired.pure rfl
  | .error (.failed failure) =>
      exact Paired.bindFirst (Quiet.record _).first fun _ => Paired.pure rfl
  | .error .unfinished => exact Paired.pure rfl

theorem sampleCycle_measureOnce (steps : PairedKernels Alike kernel kernel)
    (only : suite.selected = [kernel]) (cycle : Nat) :
    Paired Alike (Likewise fun micros samples => samples = [⟨kernel.name, micros⟩])
      (Suite.sampleCycle (host clock desk).watched patience kernel cycle).run
      (suite.measureOnce (host clock desk).watched patience).run := by
  unfold Suite.measureOnce
  rw [only]
  apply Paired.bindExceptSecond (sampleCycle_sampleKernel steps cycle)
  rintro micros _ rfl
  exact Paired.pure rfl

/-! ### All cycles of one kernel -/

/-- What single cycles return, for the samples of a report. -/
def Matches (name : String) (count : Nat) (samples : List Float)
    (singles : List (List (Sample Float))) : Prop :=
  samples.length = count ∧ singles = samples.map fun micros => [⟨name, micros⟩]

/-- The samples of so many cycles, whatever their numbers, are what as many
passes of single cycles return. -/
theorem samplesFrom_repeatOnce (steps : PairedKernels Alike kernel kernel)
    (only : suite.selected = [kernel]) (cycle count : Nat) :
    Paired Alike (Likewise (Matches kernel.name count))
      (Suite.samplesFrom (host clock desk).watched patience kernel cycle count).run
      (suite.repeatOnce (host clock desk).watched patience count).run := by
  -- The runs are alike after each cycle, so the cycles that remain start alike.
  induction count generalizing cycle with
  | zero => exact Paired.pure ⟨rfl, rfl⟩
  | succ count inductionHypothesis =>
      apply Paired.bindExcept (sampleCycle_measureOnce steps only cycle)
      rintro micros _ rfl
      apply Paired.bindExcept (inductionHypothesis (cycle + 1))
      rintro rest _ ⟨counted, rfl⟩
      apply Paired.pure
      exact ⟨congrArg (· + 1) counted, rfl⟩

/-- A report of ten samples, and what single cycles return. -/
def Reports (name : String) (report : Report Float) (singles : List (List (Sample Float))) :
    Prop :=
  report.name = name ∧ Matches name sampleCount report.samples singles

theorem reports_of_matches {name : String} {samples : List Float} {report : Report Float}
    {singles : List (List (Sample Float))} (isReport : Report.ofSamples name samples = .ok report)
    (matched : Matches name sampleCount samples singles) : Reports name report singles := by
  obtain ⟨rfl, rfl⟩ := Report.fields_of_ofSamples isReport
  exact ⟨rfl, matched⟩

theorem measureKernel_repeatOnce (steps : PairedKernels Alike kernel kernel)
    (only : suite.selected = [kernel]) :
    Paired Alike (Likewise (Reports kernel.name))
      (suite.measureKernel (host clock desk).watched patience kernel).run
      (suite.repeatOnce (host clock desk).watched patience sampleCount).run := by
  unfold Suite.measureKernel Suite.notify
  apply Paired.bindFirstLift (Quiet.performAll _).first
  intro _
  apply Paired.bindExceptFirst (samplesFrom_repeatOnce steps only 0 sampleCount)
  -- The second run has ended here. All that the first still does is quiet.
  intro samples singles matched
  have nonempty : samples ≠ [] := by
    rintro rfl
    cases matched.1
  obtain ⟨report, isReport⟩ := Report.exists_ofSamples kernel.name nonempty
  have settled : (ExceptT.mk (pure ((Except.ok report).mapError Halt.failed)) :
      ExceptT Halt (StateM (Watched (Divided τ κ))) (Report Float)) = pure report := rfl
  rw [isReport, settled, pure_bind]
  apply Paired.bindFirstLift (Quiet.performAll _).first
  intro _
  exact Paired.pure (reports_of_matches isReport matched)

theorem measureAll_repeatOnce (steps : PairedKernels Alike kernel kernel)
    (only : suite.selected = [kernel]) :
    Paired Alike
      (Likewise fun result singles =>
        ∃ report, result.reports = [report] ∧ Reports kernel.name report singles)
      (suite.measureAll (host clock desk).watched patience).run
      (suite.repeatOnce (host clock desk).watched patience sampleCount).run := by
  unfold Suite.measureAll Suite.notify
  rw [only]
  apply Paired.bindFirstLift (Quiet.watch fun _ => rfl).first
  intro _
  apply Paired.bindFirstLift (Quiet.watch fun _ => rfl).first
  intro _
  apply Paired.bindFirstLift (Quiet.performAll _).first
  intro _
  have reports : Paired Alike
      (Likewise fun reports singles => ∃ report, reports = [report] ∧
        Reports kernel.name report singles)
      (Suite.measureEach (suite.measureKernel (host clock desk).watched patience) [kernel]).run
      (suite.repeatOnce (host clock desk).watched patience sampleCount).run := by
    apply Paired.bindExceptFirst (measureKernel_repeatOnce steps only)
    intro report singles reported
    exact Paired.pure ⟨report, rfl, reported⟩
  apply Paired.bindExceptFirst reports
  intro made singles reported
  apply Paired.bindFirstLift (Quiet.watch fun _ => rfl).first
  intro _
  apply Paired.bindFirstLift (Quiet.performAll _).first
  intro _
  exact Paired.pure reported

/-! ### The two modes of a pass -/

variable {name : String} {settings : Settings} {reporters : List (Reporter Outlet)}
variable {actors : List (Kernel (StateM τ))} {actor : Kernel (StateM τ)}

theorem exists_watched_selected
    (only : actors.filter (fun other => settings.selects other.name) = [actor]) :
    ∃ place, (Divided.suite name settings reporters actors :
      Suite (StateM (Divided τ κ))).watched.selected =
        [(Divided.kernel actor : Kernel (StateM (Divided τ κ))).watched place] := by
  have selected : (Divided.suite name settings reporters actors :
      Suite (StateM (Divided τ κ))).selected = [Divided.kernel actor] := by
    unfold Suite.selected Divided.suite
    rw [List.filter_map]
    exact congrArg (List.map Divided.kernel) only
  rw [Suite.selected_eq_placed] at selected
  obtain ⟨entry, placed, isActor⟩ := List.map_eq_singleton_iff.mp selected
  refine ⟨entry.2, ?_⟩
  rw [Suite.watched_selected_eq_placed, placed, ← isActor]
  rfl

/-- Where one kernel is selected, a pass with reports does to the kernel and to
the clock what passes of single cycles do, ten of them or as many as there are
up to the first that fails. It reports the ten samples that these return, in
their order, or fails as the last of these does. -/
theorem measureAll_like_repeatOnce
    (clock : Clock (StateM τ))
    (desk : Host (StateM κ))
    (actors : List (Kernel (StateM τ)))
    (actor : Kernel (StateM τ))
    (name : String)
    (settings : Settings)
    (reporters : List (Reporter Outlet))
    (patience : Nat)
    (before : Divided τ κ)
    (only : actors.filter (fun other => settings.selects other.name) = [actor]) :
    let here := host clock desk
    let suite : Suite (StateM (Divided τ κ)) := Divided.suite name settings reporters actors
    let full := (suite.measureAll here patience).run.run before
    let singles := (suite.repeatOnce here patience 10).run.run before
    full.2.measured = singles.2.measured ∧
    (∃ trace singlesTrace : Trace,
      (suite.watched.measureAll here.watched patience).run.run ⟨before, []⟩ =
        (full.1, ⟨full.2, trace⟩) ∧
      (suite.watched.repeatOnce here.watched patience 10).run.run ⟨before, []⟩ =
        (singles.1, ⟨singles.2, singlesTrace⟩) ∧
      trace.steps = singlesTrace.steps) ∧
    match singles.1 with
    | .ok values =>
      ∃ result report, full.1 = .ok result ∧ result.reports = [report] ∧
        report.name = actor.name ∧ report.samples.length = 10 ∧
        values = report.samples.map fun micros => [⟨actor.name, micros⟩]
    | .error halt =>
      full.1 = .error halt ∧
        ∃ done < 10, ∃ values between,
          (suite.repeatOnce here patience done).run.run before = (.ok values, between) ∧
          (suite.measureOnce here patience).run.run between = (.error halt, singles.2) := by
  intro here suite full singles
  obtain ⟨place, selected⟩ : ∃ place, suite.watched.selected = [(kernel actor).watched place] :=
    exists_watched_selected only
  have pair : Paired Alike
      (Likewise fun result values =>
        ∃ report, result.reports = [report] ∧ Reports actor.name report values)
      (suite.watched.measureAll here.watched patience).run
      (suite.watched.repeatOnce here.watched patience 10).run :=
    measureAll_repeatOnce (pairedKernels actor place) selected
  obtain ⟨trace, watchedRun, _⟩ := @leaves_measureAll _ here suite patience ⟨before, []⟩
  obtain ⟨singlesTrace, watchedSingles, _⟩ :=
    @Suite.leaves_repeatOnce _ here suite patience 10 ⟨before, []⟩
  obtain ⟨likewise, alike⟩ := pair ⟨before, []⟩ ⟨before, []⟩ (alike_iff.mpr ⟨rfl, rfl⟩)
  rw [watchedRun, watchedSingles] at likewise alike
  obtain ⟨measured, steps⟩ := alike_iff.mp alike
  refine ⟨measured, ⟨trace, singlesTrace, watchedRun, watchedSingles, steps⟩, ?_⟩
  change Likewise _ full.1 singles.1 at likewise
  rcases likewise.cases with ⟨result, values, isOk, areValues, report, isOnly, named, matched⟩ |
    ⟨halt, isError, isSame⟩
  · rw [areValues]
    exact ⟨result, report, isOk, isOnly, named, matched.1, matched.2⟩
  · rw [isSame]
    exact ⟨isError, Suite.exists_of_repeatOnce_error (Prod.ext isSame rfl)⟩

/-- Two kernels that do nothing on a clock that moves by a second, and a filter
that leaves one of them. -/
theorem cold_kernel_alone :
    let clock : Clock (StateM Rehearsal.SteppingClock) :=
      ⟨modify Rehearsal.SteppingClock.restart, modifyGet Rehearsal.SteppingClock.look⟩
    let desk : Host (StateM Unit) :=
      ⟨⟨pure (), pure 0⟩, fun _ => pure none, fun _ => pure (), fun _ _ => pure (), pure 0, pure 0⟩
    let warm : Kernel (StateM Rehearsal.SteppingClock) := { name := "warm", run := pure () }
    let cold : Kernel (StateM Rehearsal.SteppingClock) := { name := "cold", run := pure () }
    let settings : Settings := { filter := some "cold" }
    let suite : Suite (StateM (Divided Rehearsal.SteppingClock Unit)) :=
      Divided.suite "suite" settings [.outlet .console] [warm, cold]
    [warm, cold].filter (fun other => settings.selects other.name) = [cold] ∧
    ((suite.measureAll (host clock desk) 9).run.run ⟨⟨[1000], 0, 0, 0, 0⟩, ()⟩).2.measured =
      ((suite.repeatOnce (host clock desk) 9 10).run.run ⟨⟨[1000], 0, 0, 0, 0⟩, ()⟩).2.measured := by
  intro clock desk warm cold settings suite
  have isLeft : settings.selects "warm" = false := by decide
  have isSelected : settings.selects "cold" = true := by decide
  have only : [warm, cold].filter (fun other => settings.selects other.name) = [cold] := by
    simp only [List.filter_cons, List.filter_nil, warm, cold, isLeft, isSelected]
    rfl
  exact ⟨only, (measureAll_like_repeatOnce clock desk [warm, cold] cold "suite" settings
    [.outlet .console] 9 ⟨⟨[1000], 0, 0, 0, 0⟩, ()⟩ only).1⟩

end Divided

end Throughput
