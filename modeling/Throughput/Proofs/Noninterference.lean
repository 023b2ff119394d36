import Throughput.Proofs.Trace.Divided
import Throughput.Proofs.Trace.Pass

/-!
Contract: reporters have no influence on what is measured.

Owns:
- `Divided.MeasuresAlike`, the relation between two passes from one measured
  start, each with a desk of its own, that measure the same;
- the theorem that passes with any two lists of reporters measure the same.

What reporters ask for is quiet, so the two runs are alike between any two
steps of a kernel or of the clock. Only what a pass says about the time of day
is taken from the desk.
-/

namespace Throughput

namespace Divided

variable {τ κ κ' α : Type}

/-- Two passes from one measured start take the same steps, leave the same
measured part and give answers that are related. -/
def MeasuresAlike (values : α → α → Prop) (start : τ) (shelf : κ) (shelf' : κ')
    (pass : ExceptT Halt (StateM (Divided τ κ)) α)
    (watchedPass : ExceptT Halt (StateM (Watched (Divided τ κ))) α)
    (pass' : ExceptT Halt (StateM (Divided τ κ')) α)
    (watchedPass' : ExceptT Halt (StateM (Watched (Divided τ κ'))) α) : Prop :=
  let run := pass.run.run ⟨start, shelf⟩
  let run' := pass'.run.run ⟨start, shelf'⟩
  Likewise values run.1 run'.1 ∧ run.2.measured = run'.2.measured ∧
    ∃ trace trace' : Trace,
      watchedPass.run.run ⟨⟨start, shelf⟩, []⟩ = (run.1, ⟨run.2, trace⟩) ∧
      watchedPass'.run.run ⟨⟨start, shelf'⟩, []⟩ = (run'.1, ⟨run'.2, trace'⟩) ∧
      trace.steps = trace'.steps

variable {clock : Clock (StateM τ)} {desk : Host (StateM κ)} {desk' : Host (StateM κ')}
variable {name : String} {settings : Settings} {actors : List (Kernel (StateM τ))}
variable {reporters reporters' : List (Reporter Outlet)}

theorem measuresAlike_of_paired {values : α → α → Prop} {start : τ} {shelf : κ} {shelf' : κ'}
    {pass : ExceptT Halt (StateM (Divided τ κ)) α}
    {watchedPass : ExceptT Halt (StateM (Watched (Divided τ κ))) α}
    {pass' : ExceptT Halt (StateM (Divided τ κ')) α}
    {watchedPass' : ExceptT Halt (StateM (Watched (Divided τ κ'))) α}
    {kernels : List (Kernel (StateM (Divided τ κ)))}
    {kernels' : List (Kernel (StateM (Divided τ κ')))}
    {shape shape' : Except Halt α → Trace → Prop}
    (leaves : Leaves (host clock desk) kernels pass.run watchedPass.run shape)
    (leaves' : Leaves (host clock desk') kernels' pass'.run watchedPass'.run shape')
    (pair : Paired Alike (Likewise values) watchedPass.run watchedPass'.run) :
    MeasuresAlike values start shelf shelf' pass watchedPass pass' watchedPass' := by
  obtain ⟨trace, watchedRun, _⟩ := leaves ⟨⟨start, shelf⟩, []⟩
  obtain ⟨trace', watchedRun', _⟩ := leaves' ⟨⟨start, shelf'⟩, []⟩
  obtain ⟨likewise, alike⟩ :=
    pair ⟨⟨start, shelf⟩, []⟩ ⟨⟨start, shelf'⟩, []⟩ (alike_iff.mpr ⟨rfl, rfl⟩)
  rw [watchedRun, watchedRun'] at likewise alike
  obtain ⟨measured, steps⟩ := alike_iff.mp alike
  exact ⟨likewise, measured, trace, trace', watchedRun, watchedRun', steps⟩

/-! ### Passes with two lists of reporters -/

/-- Quiet actions, one in either run, need not have anything in common. -/
theorem Quiet.paired {action : StateM (Watched (Divided τ κ)) Unit}
    {action' : StateM (Watched (Divided τ κ')) Unit} (quiet : Quiet action)
    (quiet' : Quiet action') : Paired Alike Eq action action' := by
  intro before before' alike
  have afterFirst := quiet.first before before' alike
  exact ⟨rfl, quiet'.second _ before' afterFirst⟩

theorem pairedNotices {suite : Suite (StateM (Watched (Divided τ κ)))}
    {suite' : Suite (StateM (Watched (Divided τ κ')))} :
    PairedNotices Alike (host clock desk).watched suite (host clock desk').watched suite' :=
  fun _ => (Quiet.performAll _).paired (Quiet.performAll _)

/-- The suite of the actors alone, which has nobody to report to. -/
def unreported (name : String) (settings : Settings) (actors : List (Kernel (StateM τ))) :
    Suite (StateM τ) :=
  { name, settings, kernels := actors, reporters := [] }

theorem suite_placed :
    (suite name settings reporters actors : Suite (StateM (Divided τ κ))).placed =
      (unreported name settings actors).placed.map fun entry => (kernel entry.1, entry.2) := by
  unfold Suite.placed suite unreported
  rw [List.zipIdx_map, List.filter_map]
  rfl

theorem suite_watched_selected :
    (suite name settings reporters actors : Suite (StateM (Divided τ κ))).watched.selected =
      (unreported name settings actors).placed.map fun entry =>
        (kernel entry.1).watched entry.2 := by
  rw [Suite.watched_selected_eq_placed, suite_placed, List.map_map]
  rfl

theorem paired_measureOnce (patience : Nat) :
    Paired Alike (Likewise Eq)
      ((suite name settings reporters actors).watched.measureOnce
        (host clock desk).watched patience).run
      ((suite name settings reporters' actors).watched.measureOnce
        (host clock desk').watched patience).run :=
  measureOnce_paired pairedTiming pairedNotices suite_watched_selected suite_watched_selected
    (fun entry _ => pairedKernels entry.1 entry.2) patience

/-- Two results with the same reports. They may differ in the time of day at
which the pass started and in the time that it took. -/
def SameReports (result result' : SuiteResult) : Prop :=
  result.suite = result'.suite ∧ result.reports = result'.reports

theorem paired_measureAll (patience : Nat) :
    Paired Alike (Likewise SameReports)
      ((suite name settings reporters actors).watched.measureAll
        (host clock desk).watched patience).run
      ((suite name settings reporters' actors).watched.measureAll
        (host clock desk').watched patience).run := by
  have reports : Paired Alike (Likewise Eq)
      (Suite.measureEach
        ((suite name settings reporters actors).watched.measureKernel
          (host clock desk).watched patience)
        ((unreported name settings actors).placed.map fun entry =>
          (kernel entry.1).watched entry.2)).run
      (Suite.measureEach
        ((suite name settings reporters' actors).watched.measureKernel
          (host clock desk').watched patience)
        ((unreported name settings actors).placed.map fun entry =>
          (kernel entry.1).watched entry.2)).run :=
    measureEach_paired fun entry _ =>
      measureKernel_paired pairedTiming pairedNotices (pairedKernels entry.1 entry.2) patience
  unfold Suite.measureAll Suite.notify
  rw [suite_watched_selected, suite_watched_selected]
  -- The desks are asked for the time on their own, and may answer differently.
  apply Paired.bindFirstLift (Quiet.watch fun _ => rfl).first
  intro startNanos
  apply Paired.bindFirstLift (Quiet.watch fun _ => rfl).first
  intro startMillis
  apply Paired.bindSecondLift (Quiet.watch fun _ => rfl).second
  intro startNanos'
  apply Paired.bindSecondLift (Quiet.watch fun _ => rfl).second
  intro startMillis'
  apply Paired.bindLift ((Quiet.performAll _).paired (Quiet.performAll _))
  intro _ _ _
  apply Paired.bindExcept reports
  rintro made _ rfl
  apply Paired.bindFirstLift (Quiet.watch fun _ => rfl).first
  intro endNanos
  apply Paired.bindSecondLift (Quiet.watch fun _ => rfl).second
  intro endNanos'
  apply Paired.bindLift ((Quiet.performAll _).paired (Quiet.performAll _))
  intro _ _ _
  exact Paired.pure ⟨rfl, rfl⟩

/-- Reporters do not interfere. Take any two lists of reporters, with any two
desks that carry out what they ask for, and run the same kernels on the same
clock from the same start. In either mode of a pass the kernels and the clock
take the same steps and end in the same state, and the answers are the same
reports, the same samples or the same failure. -/
theorem reporters_do_not_interfere
    (clock : Clock (StateM τ))
    (desk : Host (StateM κ))
    (desk' : Host (StateM κ'))
    (actors : List (Kernel (StateM τ)))
    (name : String)
    (settings : Settings)
    (reporters reporters' : List (Reporter Outlet))
    (patience : Nat)
    (start : τ)
    (shelf : κ)
    (shelf' : κ') :
    let here := host clock desk
    let there := host clock desk'
    let first : Suite (StateM (Divided τ κ)) := Divided.suite name settings reporters actors
    let second : Suite (StateM (Divided τ κ')) := Divided.suite name settings reporters' actors
    MeasuresAlike SameReports start shelf shelf'
      (first.measureAll here patience) (first.watched.measureAll here.watched patience)
      (second.measureAll there patience) (second.watched.measureAll there.watched patience) ∧
    MeasuresAlike Eq start shelf shelf'
      (first.measureOnce here patience) (first.watched.measureOnce here.watched patience)
      (second.measureOnce there patience) (second.watched.measureOnce there.watched patience) :=
  ⟨measuresAlike_of_paired (leaves_measureAll _ patience) (leaves_measureAll _ patience)
      (paired_measureAll patience),
    measuresAlike_of_paired (leaves_measureOnce _ patience) (leaves_measureOnce _ patience)
      (paired_measureOnce patience)⟩

end Divided

end Throughput
