import Mathlib.Logic.Function.Basic
import Throughput.Proofs.Filtering
import Throughput.Proofs.Resetting
import Throughput.Proofs.RunCount

/-!
Contract: a kernel behind layers that pass every step on.

Owns:
- `Layered`, a state behind so many layers, and `Kernel.layered`, the kernel that
  works on it;
- `Kernel.Overrides`, a kernel by what it says of itself, and `noted`, the same
  with its calls written down;
- `Operation`, all that can be asked of one kernel and its clock;
- the theorem that layers change nothing, for one kernel and for a suite.

A layer has a step of its own for each step of the kernel. One that it forgot would
be the default instead, which runs the workload: on a kernel that has its own
warmup or exercise this makes other calls.
-/

namespace Throughput

open Rehearsal (Method)

variable {σ κ β : Type}

/-! ### Layers -/

/-- A state behind one more layer. -/
structure Enclosed (σ : Type) where
  content : σ

/-- A state behind so many layers. -/
def Layered (σ : Type) : Nat → Type
  | 0 => σ
  | depth + 1 => Enclosed (Layered σ depth)

/-- Puts so many layers around a state. -/
def Layered.around (state : σ) : (depth : Nat) → Layered σ depth
  | 0 => state
  | depth + 1 => ⟨Layered.around state depth⟩

/-- An action on a state and its surroundings, on the state behind one more layer. -/
def behindLayer (action : StateM (σ × κ) β) : StateM (Enclosed σ × κ) β :=
  focus (fun whole => (whole.1.content, whole.2)) (fun part _ => (⟨part.1⟩, part.2)) action

namespace Kernel

/-- The kernel behind one more layer, with its state. -/
def enclosed (kernel : Kernel (StateM (σ × κ))) : Kernel (StateM (Enclosed σ × κ)) :=
  kernel.forwarded.hoist behindLayer

/-- The kernel behind so many layers. -/
def layered (kernel : Kernel (StateM (σ × κ))) :
    (depth : Nat) → Kernel (StateM (Layered σ depth × κ))
  | 0 => kernel
  | depth + 1 => (kernel.layered depth).enclosed

theorem name_layered (kernel : Kernel (StateM (σ × κ))) (depth : Nat) :
    (kernel.layered depth).name = kernel.name := by
  induction depth with
  | zero => rfl
  | succ depth inductionHypothesis => exact inductionHypothesis

/-- A layer passes every call on. -/
theorem call_enclosed (kernel : Kernel (StateM (σ × κ))) (method : Method) :
    (kernel.enclosed.call method).run = behindLayer (kernel.call method).run := by
  cases method <;> rfl

end Kernel

/-- Equal surroundings, and a state behind so many layers around the other. -/
def Behind (depth : Nat) (bare : σ × κ) (layered : Layered σ depth × κ) : Prop :=
  layered = (Layered.around bare.1 depth, bare.2)

/-- Every call of a kernel behind layers does what the call of the kernel does. -/
theorem call_layered (kernel : Kernel (StateM (σ × κ))) (depth : Nat) (method : Method) :
    Paired (Behind depth) (Likewise Eq) (kernel.call method).run
      ((kernel.layered depth).call method).run := by
  induction depth with
  | zero =>
      rintro before _ rfl
      exact ⟨likewise_refl (fun _ => rfl) _, rfl⟩
  | succ depth inductionHypothesis =>
      rintro before _ rfl
      obtain ⟨alike, behind⟩ := inductionHypothesis before _ rfl
      have passed : (kernel.layered (depth + 1)).call method =
          ExceptT.mk (behindLayer ((kernel.layered depth).call method).run) :=
        Kernel.call_enclosed (kernel.layered depth) method
      rw [passed]
      refine ⟨alike, ?_⟩
      exact congrArg (fun part : Layered σ depth × κ => (Enclosed.mk part.1, part.2)) behind

/-- The method that belongs to a phase of the cycle. -/
def Phase.method : Phase → Method
  | .setup => .setup
  | .warmup => .warmup
  | .exercise => .exercise
  | .teardown => .teardown

theorem Kernel.call_method {m : Type → Type} [Monad m] (kernel : Kernel m) (phase : Phase) :
    kernel.call phase.method = kernel.step phase := by
  cases phase <;> rfl

theorem pairedKernels_layered (kernel : Kernel (StateM (σ × κ))) (depth : Nat) :
    PairedKernels (Behind depth) kernel (kernel.layered depth) where
  name_eq := (kernel.name_layered depth).symm
  step := by
    intro phase
    rw [← Kernel.call_method, ← Kernel.call_method]
    exact call_layered kernel depth phase.method

/-! ### All that can be asked of a kernel -/

/-- Whatever can be asked of one kernel and its clock. -/
inductive Operation where
  | name
  | call (method : Method)
  /-- One full cycle. -/
  | measure
deriving DecidableEq, Repr

inductive Reply where
  | name (text : String)
  | called (outcome : Except Fault Unit)
  | measured (outcome : Except Halt Timing)

namespace Kernel

section Replies

variable {m : Type → Type} [Monad m]

def reply (host : Host m) (patience : Nat) (kernel : Kernel m) : Operation → m Reply
  | .name => return .name kernel.name
  | .call method => return .called (← (kernel.call method).run)
  | .measure => return .measured (← (kernel.measure host patience).run)

/-- The replies to operations, one after another. A failure does not end them. -/
def replies (host : Host m) (patience : Nat) (kernel : Kernel m) : List Operation → m (List Reply)
  | [] => return []
  | operation :: rest => do
    let first ← kernel.reply host patience operation
    let others ← kernel.replies host patience rest
    return first :: others

end Replies

end Kernel

/-- An action on what surrounds a state. -/
def besideState (action : StateM κ β) : StateM (σ × κ) β :=
  focus Prod.snd (fun part whole => (whole.1, part)) action

/-- A host that lives beside the state of a kernel. -/
def Host.beside (desk : Host (StateM κ)) : Host (StateM (σ × κ)) :=
  desk.hoist besideState

section Replies

variable {depth : Nat}

theorem besideState_layered (action : StateM κ β) :
    Paired (Behind (σ := σ) depth) Eq (besideState action) (besideState action) := by
  rintro before _ rfl
  exact ⟨rfl, rfl⟩

theorem pairedTiming_layered (desk : Host (StateM κ)) :
    PairedTiming (Behind (σ := σ) depth) desk.beside desk.beside where
  start := besideState_layered _
  elapsed := besideState_layered _
  record := fun _ => besideState_layered _

theorem reply_layered (desk : Host (StateM κ)) (patience depth : Nat)
    (kernel : Kernel (StateM (σ × κ))) (operation : Operation) :
    Paired (Behind depth) Eq (kernel.reply desk.beside patience operation)
      ((kernel.layered depth).reply desk.beside patience operation) := by
  cases operation with
  | name => exact Paired.pure (congrArg Reply.name (kernel.name_layered depth).symm)
  | call method =>
      refine Paired.bind (call_layered kernel depth method) fun _ _ alike => ?_
      exact Paired.pure (congrArg Reply.called (likewise_eq.mp alike))
  | measure =>
      have measured := measure_paired (pairedTiming_layered desk)
        (pairedKernels_layered kernel depth) patience
      refine Paired.bind measured fun _ _ alike => ?_
      exact Paired.pure (congrArg Reply.measured (likewise_eq.mp alike))

theorem replies_layered (desk : Host (StateM κ)) (patience depth : Nat)
    (kernel : Kernel (StateM (σ × κ))) (operations : List Operation) :
    Paired (Behind depth) Eq (kernel.replies desk.beside patience operations)
      ((kernel.layered depth).replies desk.beside patience operations) := by
  induction operations with
  | nil => exact Paired.pure rfl
  | cons operation rest inductionHypothesis =>
      have first := reply_layered desk patience depth kernel operation
      refine Paired.bind first fun reply _ same => ?_
      subst same
      refine Paired.bind inductionHypothesis fun others _ same => ?_
      subst same
      exact Paired.pure rfl

end Replies

/-! ### What a kernel says of itself -/

/-- A kernel by what it says of itself: its name, its workload, and those steps that
it does not leave to the defaults. -/
structure Kernel.Overrides (m : Type → Type) [Monad m] where
  name : String
  run : ExceptT Fault m Unit
  steps : Phase → Option (ExceptT Fault m Unit) := fun _ => none

/-- Surroundings that keep which methods of a kernel were called. -/
structure Noted (κ : Type) where
  surroundings : κ
  calls : List Method

/-- A call that is written down. -/
def noting (method : Method) (action : ExceptT Fault (StateM (σ × κ)) Unit) :
    ExceptT Fault (StateM (σ × Noted κ)) Unit :=
  ExceptT.mk fun before =>
    let (outcome, part) := action.run.run (before.1, before.2.surroundings)
    (outcome, (part.1, ⟨part.2, before.2.calls ++ [method]⟩))

/-- A host that writes nothing down. -/
def Host.noted (desk : Host (StateM κ)) : Host (StateM (Noted κ)) :=
  desk.hoist (focus Noted.surroundings fun part whole => { whole with surroundings := part })

namespace Kernel.Overrides

/-- The kernel that has the default for every other step. -/
def kernel {m : Type → Type} [Monad m] (own : Overrides m) : Kernel m :=
  let plain := Kernel.minimal own.name own.run
  { name := own.name
    run := own.run
    setup := (own.steps .setup).getD plain.setup
    warmup := (own.steps .warmup).getD plain.warmup
    exercise := (own.steps .exercise).getD plain.exercise
    teardown := (own.steps .teardown).getD plain.teardown }

theorem step_kernel {m : Type → Type} [Monad m] (own : Overrides m) (phase : Phase) :
    own.kernel.step phase =
      (own.steps phase).getD ((Kernel.minimal own.name own.run).step phase) := by
  cases phase <;> rfl

/-- The same kernel, with every call of a method of its own written down. -/
def noted (own : Overrides (StateM (σ × κ))) : Overrides (StateM (σ × Noted κ)) where
  name := own.name
  run := noting .run own.run
  steps := fun phase => (own.steps phase).map (noting phase.method)

end Kernel.Overrides

section Calls

variable {run : ExceptT Fault (StateM (σ × κ)) Unit} {before : σ × Noted κ}

theorem calls_noting (method : Method) (action : ExceptT Fault (StateM (σ × κ)) Unit)
    (before : σ × Noted κ) :
    ((noting method action).run.run before).2.2.calls = before.2.calls ++ [method] := rfl

theorem calls_repeatTimes (count : Nat) (before : σ × Noted κ) :
    let called := (repeatTimes count (noting .run run)).run.run before
    ∃ made ≤ count, called.2.2.calls = before.2.calls ++ List.replicate made .run ∧
      (called.1 = .ok () → made = count) := by
  induction count generalizing before with
  | zero => exact ⟨0, le_rfl, (List.append_nil _).symm, fun _ => rfl⟩
  | succ count inductionHypothesis =>
      have written := calls_noting .run run before
      rw [repeatTimes_succ_run]
      cases called : (noting .run run).run.run before with
      | mk outcome after =>
          rw [called] at written
          cases outcome with
          | error fault => exact ⟨1, Nat.succ_le_succ (Nat.zero_le count), written, nofun⟩
          | ok _ =>
              obtain ⟨made, few, calls, all⟩ := inductionHypothesis after
              refine ⟨made + 1, Nat.succ_le_succ few, ?_,
                fun succeeds => congrArg (· + 1) (all succeeds)⟩
              rw [calls, written, List.append_assoc, List.replicate_succ]
              rfl

/-- A default runs the workload as often as it says, or fewer times if it fails. -/
theorem calls_minimal (name : String) (phase : Phase) :
    let called := ((Kernel.minimal name (noting .run run)).step phase).run.run before
    ∃ made ≤ phase.runs, called.2.2.calls = before.2.calls ++ List.replicate made .run ∧
      (called.1 = .ok () → made = phase.runs) := by
  cases phase with
  | setup => exact ⟨0, le_rfl, (List.append_nil _).symm, fun _ => rfl⟩
  | warmup => exact ⟨1, le_rfl, rfl, fun _ => rfl⟩
  | exercise => exact calls_repeatTimes exerciseRuns before
  | teardown => exact ⟨0, le_rfl, (List.append_nil _).symm, fun _ => rfl⟩

/-- What a step calls: itself if it is the kernel's own, and the workload if it is a
default. -/
theorem calls_step (own : Kernel.Overrides (StateM (σ × κ))) (phase : Phase) :
    let called := (own.noted.kernel.step phase).run.run before
    ((own.steps phase).isSome = true → called.2.2.calls = before.2.calls ++ [phase.method]) ∧
    (own.steps phase = none →
      ∃ made ≤ phase.runs, called.2.2.calls = before.2.calls ++ List.replicate made .run ∧
        (called.1 = .ok () → made = phase.runs)) := by
  intro called
  have isStep : called = (((own.steps phase).map (noting phase.method)).getD
      ((Kernel.minimal own.name (noting .run own.run)).step phase)).run.run before :=
    congrArg (fun step => step.run.run before) (own.noted.step_kernel phase)
  cases given : own.steps phase with
  | some action =>
      rw [given] at isStep
      rw [isStep]
      exact ⟨fun _ => calls_noting phase.method action before, nofun⟩
  | none =>
      rw [given] at isStep
      rw [isStep]
      exact ⟨nofun, fun _ => calls_minimal own.name phase⟩

end Calls

/-! ### Suites of kernels behind layers -/

section Registering

variable {m : Type → Type} [Monad m]

/-- The suite in which further kernels are registered, one after another. -/
def Suite.registerEach (suite : Suite m) (kernels : List (Kernel m)) : Suite m :=
  kernels.foldl (fun suite kernel => suite.register kernel) suite

theorem Suite.registerEach_eq (suite : Suite m) (kernels : List (Kernel m)) :
    suite.registerEach kernels = { suite with kernels := suite.kernels ++ kernels } := by
  induction kernels generalizing suite with
  | nil => rw [List.append_nil, registerEach, List.foldl_nil]
  | cons kernel rest inductionHypothesis =>
      have others := inductionHypothesis (suite.register kernel)
      rw [registerEach, List.foldl_cons]
      refine others.trans ?_
      rw [register, List.append_assoc]
      rfl

end Registering

namespace Ensemble

variable {τ : Nat → Type} {depths : Nat → Nat}

/-- The ensemble in which every state is behind the layers of its place. -/
def around (depths : Nat → Nat) (whole : Ensemble κ τ) :
    Ensemble κ fun place => Layered (τ place) (depths place) :=
  ⟨whole.surroundings, fun place => Layered.around (whole.states place) (depths place)⟩

/-- Two ensembles, the second of which is the first behind layers. -/
def AroundOf (depths : Nat → Nat) (whole : Ensemble κ τ)
    (layered : Ensemble κ fun place => Layered (τ place) (depths place)) : Prop :=
  layered = whole.around depths

theorem onSurroundings_layered (action : StateM κ β) :
    Paired (AroundOf (τ := τ) depths) Eq (onSurroundings action) (onSurroundings action) := by
  rintro whole _ rfl
  exact ⟨rfl, rfl⟩

theorem onPlace_layered {β' : Type} {answers : β → β' → Prop} {place : Nat}
    {action : StateM (τ place × κ) β} {action' : StateM (Layered (τ place) (depths place) × κ) β'}
    (pair : Paired (Behind (depths place)) answers action action') :
    Paired (AroundOf depths) answers (onPlace place action)
      (onPlace (σ := fun place => Layered (τ place) (depths place)) place action') := by
  rintro whole _ rfl
  obtain ⟨alike, behind⟩ := pair (whole.states place, whole.surroundings) _ rfl
  refine ⟨alike, ?_⟩
  have part : (action'.run ((whole.around depths).states place, whole.surroundings)).2 = _ := behind
  -- The new state is put behind its layers, and the others are left as they are.
  have states : Function.update (whole.around depths).states place
      (Layered.around (action.run (whole.states place, whole.surroundings)).2.1 (depths place)) =
      fun other => Layered.around (Function.update whole.states place
        (action.run (whole.states place, whole.surroundings)).2.1 other) (depths other) := by
    funext other
    exact (Function.apply_update (fun other state => Layered.around state (depths other))
      whole.states place _ other).symm
  change Ensemble.mk (action'.run ((whole.around depths).states place, whole.surroundings)).2.2
    (Function.update (whole.around depths).states place
      (action'.run ((whole.around depths).states place, whole.surroundings)).2.1) = _
  rw [part, states]
  rfl

theorem watched_layered {event : β → Trace.Event} (action : StateM κ β) :
    Paired (WatchedRelated (AroundOf (τ := τ) depths) some some) Eq
      (watch event (onSurroundings action)) (watch event (onSurroundings action)) :=
  (onSurroundings_layered action).watch fun _ _ same =>
    congrArg (fun answer => some (event answer)) same

/-- Two runs of one pass, the second over kernels behind layers. They give one answer
and show one trace, and the second leaves what the first leaves, behind the layers. -/
def SameAround {α : Type} (depths : Nat → Nat) (before : Ensemble κ τ)
    (pass : ExceptT Halt (StateM (Ensemble κ τ)) α)
    (watchedPass : ExceptT Halt (StateM (Watched (Ensemble κ τ))) α)
    (layered : ExceptT Halt
      (StateM (Ensemble κ fun place => Layered (τ place) (depths place))) α)
    (watchedLayered : ExceptT Halt
      (StateM (Watched (Ensemble κ fun place => Layered (τ place) (depths place)))) α) : Prop :=
  let run := pass.run.run before
  layered.run.run (before.around depths) = (run.1, run.2.around depths) ∧
    ∃ trace : Trace,
      watchedPass.run.run ⟨before, []⟩ = (run.1, ⟨run.2, trace⟩) ∧
      watchedLayered.run.run ⟨before.around depths, []⟩ =
        (run.1, ⟨run.2.around depths, trace⟩)

section Passes

variable {surroundings : Host (StateM κ)} {actors : (place : Nat) → Kernel (StateM (τ place × κ))}
variable {count : Nat} {name : String} {settings : Settings} {reporters : List (Reporter Outlet)}

/-- The kernels of an ensemble, each behind the layers of its place. -/
def layeredActors (depths : Nat → Nat) (actors : (place : Nat) → Kernel (StateM (τ place × κ)))
    (place : Nat) : Kernel (StateM (Layered (τ place) (depths place) × κ)) :=
  (actors place).layered (depths place)

theorem sameAround_of_paired {α : Type} {before : Ensemble κ τ}
    {pass : ExceptT Halt (StateM (Ensemble κ τ)) α}
    {watchedPass : ExceptT Halt (StateM (Watched (Ensemble κ τ))) α}
    {layered : ExceptT Halt
      (StateM (Ensemble κ fun place => Layered (τ place) (depths place))) α}
    {watchedLayered : ExceptT Halt
      (StateM (Watched (Ensemble κ fun place => Layered (τ place) (depths place)))) α}
    {shape shape' : Except Halt α → Trace → Prop}
    (leaves : Leaves (host surroundings) (suite name settings reporters actors count).kernels
      pass.run watchedPass.run shape)
    (leavesLayered : Leaves (host surroundings)
      (suite name settings reporters (layeredActors depths actors) count).kernels
      layered.run watchedLayered.run shape')
    (pair : Paired (WatchedRelated (AroundOf depths) some some) (Likewise Eq)
      watchedPass.run watchedLayered.run) :
    SameAround depths before pass watchedPass layered watchedLayered := by
  obtain ⟨trace, watchedRun, _⟩ := leaves ⟨before, []⟩
  obtain ⟨trace', watchedRun', _⟩ := leavesLayered ⟨before.around depths, []⟩
  obtain ⟨alike, isAround, sameTrace⟩ :=
    pair ⟨before, []⟩ ⟨before.around depths, []⟩ ⟨rfl, rfl⟩
  rw [watchedRun, watchedRun'] at alike isAround sameTrace
  have answers := likewise_eq.mp alike
  have traces : trace = trace' := by simpa using sameTrace
  subst traces
  have layeredRun : layered.run.run (before.around depths) =
      ((pass.run.run before).1, (pass.run.run before).2.around depths) :=
    Prod.ext answers.symm isAround
  refine ⟨layeredRun, trace, watchedRun, ?_⟩
  rw [layeredRun] at watchedRun'
  exact watchedRun'

theorem selectedPlaces_layered :
    selectedPlaces settings (layeredActors depths actors) count =
      selectedPlaces settings actors count := by
  refine List.filter_congr fun place _ => ?_
  rw [layeredActors, Kernel.name_layered]

theorem watched_selected :
    (suite name settings reporters actors count).watched.selected =
      (selectedPlaces settings actors count).map fun place =>
        ((actors place).hoist (onPlace place)).watched place := by
  rw [Suite.watched_selected_eq_placed, suite_placed, List.map_map]
  rfl

theorem watched_selected_layered :
    (suite name settings reporters (layeredActors depths actors) count).watched.selected =
      (selectedPlaces settings actors count).map fun place =>
        ((layeredActors depths actors place).hoist
          (onPlace (σ := fun place => Layered (τ place) (depths place)) place)).watched place := by
  rw [watched_selected, selectedPlaces_layered]

theorem pairedTiming_around :
    PairedTiming (WatchedRelated (AroundOf (τ := τ) depths) some some) (host surroundings).watched
      (host surroundings).watched :=
  ⟨watched_layered _, watched_layered _, fun _ => watched_layered _⟩

theorem pairedNotices_around :
    PairedNotices (WatchedRelated (AroundOf (τ := τ) depths) some some)
      (host surroundings).watched (suite name settings reporters actors count).watched
      (host surroundings).watched
      (suite name settings reporters (layeredActors depths actors) count).watched :=
  fun _ => performAll_paired (fun _ => watched_layered _) (fun _ => watched_layered _)
    (fun _ _ => watched_layered _) _

theorem pairedKernels_around (place : Nat) :
    PairedKernels (WatchedRelated (AroundOf depths) some some)
      (((actors place).hoist (onPlace place)).watched place)
      (((layeredActors depths actors place).hoist
        (onPlace (σ := fun place => Layered (τ place) (depths place)) place)).watched place) := by
  refine PairedKernels.watched ⟨((actors place).name_layered (depths place)).symm, ?_⟩
    fun _ _ => rfl
  intro phase
  rw [Kernel.step_hoist, Kernel.step_hoist]
  exact onPlace_layered ((pairedKernels_layered (actors place) (depths place)).step phase)

theorem measureAll_around (patience : Nat) (before : Ensemble κ τ) :
    SameAround depths before
      ((suite name settings reporters actors count).measureAll (host surroundings) patience)
      ((suite name settings reporters actors count).watched.measureAll
        (host surroundings).watched patience)
      ((suite name settings reporters (layeredActors depths actors) count).measureAll
        (host surroundings) patience)
      ((suite name settings reporters (layeredActors depths actors) count).watched.measureAll
        (host surroundings).watched patience) :=
  sameAround_of_paired (leaves_measureAll _ patience) (leaves_measureAll _ patience)
    (measureAll_paired pairedTiming_around pairedNotices_around (watched_layered _)
      (watched_layered _) rfl watched_selected watched_selected_layered
      (fun place _ => pairedKernels_around place) patience)

theorem measureOnce_around (patience : Nat) (before : Ensemble κ τ) :
    SameAround depths before
      ((suite name settings reporters actors count).measureOnce (host surroundings) patience)
      ((suite name settings reporters actors count).watched.measureOnce
        (host surroundings).watched patience)
      ((suite name settings reporters (layeredActors depths actors) count).measureOnce
        (host surroundings) patience)
      ((suite name settings reporters (layeredActors depths actors) count).watched.measureOnce
        (host surroundings).watched patience) :=
  sameAround_of_paired (leaves_measureOnce _ patience) (leaves_measureOnce _ patience)
    (measureOnce_paired pairedTiming_around pairedNotices_around watched_selected
      watched_selected_layered (fun place _ => pairedKernels_around place) patience)

end Passes

end Ensemble

/-- Layers change nothing. Take a kernel that leaves any of its steps to the defaults,
or none, and put any number of layers around it. Whatever is asked of it and its clock,
in any order, the replies are those of the bare kernel, failures included; the calls of
the kernel's own methods are the same, in the same order; and what is left behind the
layers, and of the clock, is what the bare kernel leaves. A step that is its own is
called as such through all layers, and one that is a default runs the workload. It makes
no difference to a pass in either mode behind how many layers each kernel is registered,
if behind any. -/
theorem layers_change_nothing
    {τ : Nat → Type}
    (own : Kernel.Overrides (StateM (σ × κ)))
    (surroundings : Host (StateM κ))
    (patience depth : Nat)
    (actors : (place : Nat) → Kernel (StateM (τ place × κ)))
    (depths : Nat → Nat)
    (count : Nat)
    (name : String)
    (settings : Settings)
    (reporters : List (Reporter Outlet))
    (before : Ensemble κ τ) :
    let kernel := own.noted.kernel
    let here := Ensemble.host surroundings
    let there := Ensemble.host surroundings
    let bare := ((Suite.empty name settings).withReporters reporters).registerEach
      (Ensemble.kernels actors count)
    let layered := ((Suite.empty name settings).withReporters reporters).registerEach
      (Ensemble.kernels (Ensemble.layeredActors depths actors) count)
    (∀ (operations : List Operation) (start : σ × Noted κ),
      let replied := (kernel.replies surroundings.noted.beside patience operations).run start
      ((kernel.layered depth).replies surroundings.noted.beside patience operations).run
          (Layered.around start.1 depth, start.2) =
        (replied.1, (Layered.around replied.2.1 depth, replied.2.2))) ∧
    (∀ (phase : Phase) (start : σ × Noted κ),
      let called := ((kernel.layered depth).step phase).run.run
        (Layered.around start.1 depth, start.2)
      ((own.steps phase).isSome = true → called.2.2.calls = start.2.calls ++ [phase.method]) ∧
      (own.steps phase = none →
        ∃ made ≤ phase.runs, called.2.2.calls = start.2.calls ++ List.replicate made .run ∧
          (called.1 = .ok () → made = phase.runs))) ∧
    Ensemble.SameAround depths before (bare.measureAll here patience)
      (bare.watched.measureAll here.watched patience) (layered.measureAll there patience)
      (layered.watched.measureAll there.watched patience) ∧
    Ensemble.SameAround depths before (bare.measureOnce here patience)
      (bare.watched.measureOnce here.watched patience) (layered.measureOnce there patience)
      (layered.watched.measureOnce there.watched patience) := by
  intro kernel here there bare layered
  have isBare : bare = Ensemble.suite name settings reporters actors count :=
    Suite.registerEach_eq _ _
  have isLayered : layered =
      Ensemble.suite name settings reporters (Ensemble.layeredActors depths actors) count :=
    Suite.registerEach_eq _ _
  refine ⟨fun operations start => ?_, fun phase start => ?_, ?_, ?_⟩
  · obtain ⟨same, behind⟩ := replies_layered surroundings.noted patience depth kernel
      operations start _ rfl
    exact Prod.ext same.symm behind
  · intro called
    obtain ⟨alike, behind⟩ := (pairedKernels_layered kernel depth).step phase start _ rfl
    have outcome : called.1 = ((kernel.step phase).run.run start).1 := (likewise_eq.mp alike).symm
    have left : called.2.2 = ((kernel.step phase).run.run start).2.2 := congrArg Prod.snd behind
    rw [outcome, left]
    exact calls_step own phase
  · rw [isBare, isLayered]
    exact Ensemble.measureAll_around patience before
  · rw [isBare, isLayered]
    exact Ensemble.measureOnce_around patience before

end Throughput
