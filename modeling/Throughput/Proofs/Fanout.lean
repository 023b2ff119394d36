import Throughput.Proofs.Trace.Pass

/-!
Contract: a tree of reporters is no more than the list of its outlets.

Owns:
- `Reporter.outlets`, the outlets of a tree from left to right;
- `Host.deliver`, notices handed to a list of reporters one after another, and
  the trace that this leaves;
- `Interchangeable`, lists of reporters that a host and a suite cannot tell
  apart;
- the theorem that trees may be flattened and spliced, wherever they stand.

What outlets are, and what they make of a notice, is left open.
-/

namespace Throughput

variable {ω ε : Type}

/-! ### The outlets of a tree -/

namespace Reporter

mutual

/-- The outlets of a tree from left to right, each as often as it occurs. -/
def outlets : Reporter ω → List ω
  | .outlet single => [single]
  | .all members => outletsAll members

/-- The outlets of some trees, one tree after another. -/
def outletsAll : List (Reporter ω) → List ω
  | [] => []
  | first :: rest => outlets first ++ outletsAll rest

end

theorem outletsAll_append (first second : List (Reporter ω)) :
    outletsAll (first ++ second) = outletsAll first ++ outletsAll second := by
  induction first with
  | nil => rfl
  | cons tree rest inductionHypothesis =>
      rw [List.cons_append, outletsAll, outletsAll, inductionHypothesis, List.append_assoc]

theorem outletsAll_map_outlet (singles : List ω) :
    outletsAll (singles.map Reporter.outlet) = singles := by
  induction singles with
  | nil => rfl
  | cons single rest inductionHypothesis =>
      rw [List.map_cons, outletsAll, inductionHypothesis, outlets]
      rfl

/-- A tree in a list gives way to its members. -/
theorem outletsAll_splice (before members after : List (Reporter ω)) :
    outletsAll (before ++ .all members :: after) = outletsAll (before ++ (members ++ after)) := by
  rw [outletsAll_append, outletsAll_append, outletsAll_append, outletsAll, outlets]

mutual

/-- A tree makes of a notice what its outlets make of it, in order. -/
theorem effects_eq_outlets (respond : ω → Notice → List ε) (tree : Reporter ω) (notice : Notice) :
    tree.effects respond notice = tree.outlets.flatMap fun outlet => respond outlet notice := by
  cases tree with
  | outlet single =>
      rw [effects, outlets]
      exact (List.flatMap_singleton ..).symm
  | all members =>
      rw [effects, outlets]
      exact effectsAll_eq_outlets respond members notice

theorem effectsAll_eq_outlets (respond : ω → Notice → List ε) (trees : List (Reporter ω))
    (notice : Notice) :
    effectsAll respond trees notice =
      (outletsAll trees).flatMap fun outlet => respond outlet notice := by
  cases trees with
  | nil => rfl
  | cons first rest =>
      rw [effectsAll, outletsAll, List.flatMap_append, effects_eq_outlets respond first notice,
        effectsAll_eq_outlets respond rest notice]

end

/-- Trees with the same outlets make the same of every notice. -/
theorem effectsAll_congr {trees trees' : List (Reporter ω)}
    (same : outletsAll trees = outletsAll trees') (respond : ω → Notice → List ε) :
    effectsAll respond trees = effectsAll respond trees' := by
  funext notice
  rw [effectsAll_eq_outlets, effectsAll_eq_outlets, same]

/-- The notices that reach an outlet are those that are handed to the tree, in
order and as they are, each as often as the outlet occurs. -/
theorem reaching_outlet [DecidableEq ω] (tree : Reporter ω) (notices : List Notice) (outlet : ω) :
    (notices.flatMap (tree.effects fun reached notice => [(reached, notice)])).filter
        (fun reach => reach.1 = outlet) =
      notices.flatMap fun notice =>
        List.replicate (tree.outlets.count outlet) (outlet, notice) := by
  have once : ∀ notice, (tree.effects (fun reached notice => [(reached, notice)]) notice).filter
      (fun reach => reach.1 = outlet) =
        List.replicate (tree.outlets.count outlet) (outlet, notice) := by
    intro notice
    rw [effects_eq_outlets, ← List.map_eq_flatMap, List.filter_map, Function.comp_def,
      List.filter_eq, List.map_replicate]
  induction notices with
  | nil => rfl
  | cons notice later inductionHypothesis =>
      rw [List.flatMap_cons, List.filter_append, once, inductionHypothesis, List.flatMap_cons]

end Reporter

/-! ### Delivery -/

section Delivery

variable {m : Type → Type} [Monad m]

/-- Hands notices to a list of reporters, one after another. -/
def Host.deliver (host : Host m) (reporters : List (Reporter Outlet)) : List Notice → m Unit
  | [] => pure ()
  | notice :: later => do
    host.performAll (Reporter.effectsAll Outlet.effects reporters notice)
    host.deliver reporters later

/-- Two lists of reporters are interchangeable on a host if notices handed to
them have the same effect, and so have the passes of a suite, whichever of the
two lists it has. -/
def Interchangeable (host : Host m) (suite : Suite m)
    (reporters reporters' : List (Reporter Outlet)) : Prop :=
  (∀ notices, host.deliver reporters notices = host.deliver reporters' notices) ∧
    ∀ patience,
      (suite.withReporters reporters).measureAll host patience =
          (suite.withReporters reporters').measureAll host patience ∧
        (suite.withReporters reporters).measureOnce host patience =
          (suite.withReporters reporters').measureOnce host patience

variable {host : Host m} {suite : Suite m} {reporters reporters' : List (Reporter Outlet)}

theorem interchangeable_of_outlets
    (same : Reporter.outletsAll reporters = Reporter.outletsAll reporters') :
    Interchangeable host suite reporters reporters' := by
  have effects : Reporter.effectsAll Outlet.effects reporters =
      Reporter.effectsAll Outlet.effects reporters' :=
    Reporter.effectsAll_congr same Outlet.effects
  have notify : ∀ notice, (suite.withReporters reporters).notify host notice =
      (suite.withReporters reporters').notify host notice := by
    intro notice
    unfold Suite.notify Suite.effects Suite.withReporters
    rw [effects]
  refine ⟨fun notices => ?_, fun patience => ⟨?_, ?_⟩⟩
  · induction notices with
    | nil => rfl
    | cons notice later inductionHypothesis =>
        rw [Host.deliver, Host.deliver, effects, inductionHypothesis]
  · have kernels : (suite.withReporters reporters).measureKernel host patience =
        (suite.withReporters reporters').measureKernel host patience := by
      funext kernel
      unfold Suite.measureKernel
      simp only [notify]
    unfold Suite.measureAll
    simp only [notify, kernels]
    rfl
  · have kernels : (suite.withReporters reporters).sampleKernel host patience =
        (suite.withReporters reporters').sampleKernel host patience := by
      funext kernel
      unfold Suite.sampleKernel
      simp only [notify]
    unfold Suite.measureOnce
    rw [kernels]
    rfl

/-- Trees of reporters may be flattened and spliced. A tree makes of any notices
what its outlets make of them in their order, whatever an outlet is and whatever
it answers with, be it data or actions to be done. An outlet is reached by all
notices that are handed to the tree, in order and as they are, each as often as
the outlet occurs in it. And a tree among the reporters of a suite may be replaced
by its members, or all reporters by their outlets: on no host does this change
what notices bring about or what a pass does. -/
theorem trees_are_their_outlets
    [DecidableEq ω]
    (respond : ω → Notice → List ε)
    (tree : Reporter ω)
    (notices : List Notice)
    (host : Host m)
    (suite : Suite m)
    (before members after : List (Reporter Outlet)) :
    let nested := before ++ .all members :: after
    (notices.flatMap (tree.effects respond) =
      notices.flatMap fun notice => tree.outlets.flatMap fun outlet => respond outlet notice) ∧
    (∀ outlet,
      (notices.flatMap (tree.effects fun reached notice => [(reached, notice)])).filter
          (fun reach => reach.1 = outlet) =
        notices.flatMap fun notice =>
          List.replicate (tree.outlets.count outlet) (outlet, notice)) ∧
    Interchangeable host suite nested (before ++ (members ++ after)) ∧
    Interchangeable host suite nested ((Reporter.outletsAll nested).map .outlet) := by
  intro nested
  refine ⟨?_, fun outlet => tree.reaching_outlet notices outlet, ?_, ?_⟩
  · have flat : tree.effects respond =
        fun notice => tree.outlets.flatMap fun outlet => respond outlet notice :=
      funext (tree.effects_eq_outlets respond)
    rw [flat]
  · apply interchangeable_of_outlets
    exact Reporter.outletsAll_splice before members after
  · apply interchangeable_of_outlets
    rw [Reporter.outletsAll_map_outlet]

/-- Trees may be empty, and an outlet may stand in several places. -/
example :
    Reporter.outlets (.all [.outlet 1, .all [], .all [.outlet 2, .all [.outlet 1]]]) = [1, 2, 1] :=
  rfl

end Delivery

/-! ### What a delivery leaves -/

/-- A delivery leaves the notices in order, each told to all reporters. -/
theorem leaves_deliver {host : Host (StateM ω)} {kernels : List (Kernel (StateM ω))}
    (reporters : List (Reporter Outlet)) (notices : List Notice) :
    Leaves host kernels (host.deliver reporters notices)
      (host.watched.deliver reporters notices)
      (fun _ trace => ∃ answers : List Unit,
        Trace.Each (fun notice _ part => Trace.Told reporters notice part) notices answers
          trace) := by
  induction notices with
  | nil => exact (Leaves.pure ()).mono fun _ _ given => ⟨[], by rw [given.2]; exact .nil⟩
  | cons notice later inductionHypothesis =>
      refine (Leaves.bind (leaves_performAll _) fun _ => inductionHypothesis).mono ?_
      intro _ _ given
      obtain ⟨_, _, _, delivered, ⟨answers, each⟩, rfl⟩ := given
      rw [Reporter.effectsAll_eq_flatMap] at delivered
      exact ⟨() :: answers, .cons delivered each⟩

end Throughput
