import Throughput.Proofs.Trace.Event

/-!
Contract: how the trace of a composed action is put together from the traces
of its parts.

Owns:
- `Leaves`, the statement that a watched action does what the plain action
  does and leaves a true trace of a given shape;
- the rules for `Leaves`, one for each way in which actions are composed;
- `Trace.Each` and `Trace.InTurn`, the shapes of a list of actions that are
  carried out one after another, up to the first that fails.

A shape is a relation between the answer of an action and its trace. Later
modules give every function of the measurement one such statement and never
look into the function again.
-/

namespace Throughput

variable {ω ε ε' α β ι : Type}
variable {host : Host (StateM ω)} {kernels : List (Kernel (StateM ω))}

/-! ### Shapes of lists -/

namespace Trace

/-- A value and a trace for each item, and the traces in order. -/
inductive Each (shape : ι → α → Trace → Prop) :
    List ι → List α → Trace → Prop where
  | nil : Each shape [] [] []
  | cons {item : ι} {items : List ι} {value : α} {values : List α}
      {first rest : Trace}
      (holds : shape item value first)
      (others : Each shape items values rest) :
      Each shape (item :: items) (value :: values) (first ++ rest)

namespace Each

variable {shape wider : ι → α → Trace → Prop}
variable {items : List ι} {values : List α} {trace : Trace}

theorem length_eq (each : Each shape items values trace) :
    values.length = items.length := by
  induction each with
  | nil => rfl
  | cons _ _ inductionHypothesis => simp [inductionHypothesis]

theorem mono (each : Each shape items values trace)
    (widens : ∀ item ∈ items, ∀ value trace,
      shape item value trace → wider item value trace) :
    Each wider items values trace := by
  induction each with
  | nil => exact .nil
  | cons holds _ inductionHypothesis =>
      refine .cons (widens _ (List.mem_cons_self ..) _ _ holds) ?_
      exact inductionHypothesis fun item member =>
        widens item (List.mem_cons_of_mem _ member)

/-- What holds of every part of a trace holds of the events in it. -/
theorem forall_event {property : Event → Prop}
    (each : Each shape items values trace)
    (keeps : ∀ item ∈ items, ∀ value trace,
      shape item value trace → ∀ event ∈ trace, property event) :
    ∀ event ∈ trace, property event := by
  induction each with
  | nil => simp
  | cons holds _ inductionHypothesis =>
      intro event member
      rcases List.mem_append.mp member with early | late
      · exact keeps _ (List.mem_cons_self ..) _ _ holds event early
      · exact inductionHypothesis
          (fun item itemMember => keeps item (List.mem_cons_of_mem _ itemMember))
          event late

end Each

/-- Items taken one after another up to the first that fails: the items before
it have succeeded, and those after it have left nothing. -/
def InTurn (shape : ι → Except ε α → Trace → Prop) (items : List ι) :
    Except ε (List α) → Trace → Prop
  | .ok values, trace => Each (fun item value => shape item (.ok value)) items values trace
  | .error error, trace =>
    ∃ done item later values early late,
      items = done ++ item :: later ∧
        Each (fun item value => shape item (.ok value)) done values early ∧
        shape item (.error error) late ∧ trace = early ++ late

end Trace

/-! ### The rules -/

/-- From every state, the watched action gives the answer of the plain one and
leaves the world as that one does; the trace it adds is a true account, and
the shape admits it for the answer. -/
def Leaves (host : Host (StateM ω)) (kernels : List (Kernel (StateM ω)))
    (plain : StateM ω β) (watched : StateM (Watched ω) β)
    (shape : β → Trace → Prop) : Prop :=
  ∀ before : Watched ω, ∃ trace : Trace,
    watched.run before =
        ((plain.run before.world).1,
          ⟨(plain.run before.world).2, before.trace ++ trace⟩) ∧
      Trace.Account host kernels before.world trace (plain.run before.world).2 ∧
      shape (plain.run before.world).1 trace

namespace Leaves

theorem mono {plain : StateM ω β} {watched : StateM (Watched ω) β}
    {shape wider : β → Trace → Prop}
    (leaves : Leaves host kernels plain watched shape)
    (widens : ∀ answer trace, shape answer trace → wider answer trace) :
    Leaves host kernels plain watched wider := by
  intro before
  obtain ⟨trace, run, account, holds⟩ := leaves before
  exact ⟨trace, run, account, widens _ _ holds⟩

/-- An action that only answers leaves no trace. -/
theorem pure (answer : β) :
    Leaves host kernels (Pure.pure answer) (Pure.pure answer)
      (fun given trace => given = answer ∧ trace = []) := by
  intro before
  refine ⟨[], ?_, .nil _, rfl, rfl⟩
  rw [List.append_nil]
  rfl

/-- A settled answer that may be a failure leaves no trace either. -/
theorem settled (answer : Except ε α) :
    Leaves host kernels (ExceptT.mk (Pure.pure answer) : ExceptT ε (StateM ω) α).run
      (ExceptT.mk (Pure.pure answer) : ExceptT ε (StateM (Watched ω)) α).run
      (fun given trace => given = answer ∧ trace = []) :=
  pure answer

/-- One action after another leaves both traces, in this order. -/
theorem bind {plain : StateM ω α} {watched : StateM (Watched ω) α}
    {next : α → StateM ω β} {watchedNext : α → StateM (Watched ω) β}
    {shape : α → Trace → Prop} {nextShape : α → β → Trace → Prop}
    (first : Leaves host kernels plain watched shape)
    (second : ∀ answer,
      Leaves host kernels (next answer) (watchedNext answer) (nextShape answer)) :
    Leaves host kernels (plain >>= next) (watched >>= watchedNext)
      (fun answer trace => ∃ between early late,
        shape between early ∧ nextShape between answer late ∧
          trace = early ++ late) := by
  intro before
  obtain ⟨early, firstRun, firstAccount, firstHolds⟩ := first before
  obtain ⟨late, secondRun, secondAccount, secondHolds⟩ :=
    second (plain.run before.world).1
      ⟨(plain.run before.world).2, before.trace ++ early⟩
  refine ⟨early ++ late, ?_, firstAccount.append secondAccount,
    _, early, late, firstHolds, secondHolds, rfl⟩
  rw [StateT.run_bind, firstRun]
  change (watchedNext _).run _ = _
  rw [secondRun, List.append_assoc]
  rfl

/-- The shape of an action that may fail, followed by another: the trace of
both if the first succeeds, and otherwise that of the first alone. -/
def Sequel (shape : Except ε α → Trace → Prop)
    (nextShape : α → Except ε β → Trace → Prop) :
    Except ε β → Trace → Prop := fun answer trace =>
  (∃ between early late,
    shape (.ok between) early ∧ nextShape between answer late ∧
      trace = early ++ late) ∨
  ∃ error, answer = .error error ∧ shape (.error error) trace

/-- One action after another, where the first may fail. -/
theorem bindExcept {plain : ExceptT ε (StateM ω) α}
    {watched : ExceptT ε (StateM (Watched ω)) α}
    {next : α → ExceptT ε (StateM ω) β}
    {watchedNext : α → ExceptT ε (StateM (Watched ω)) β}
    {shape : Except ε α → Trace → Prop}
    {nextShape : α → Except ε β → Trace → Prop}
    (first : Leaves host kernels plain.run watched.run shape)
    (second : ∀ answer,
      Leaves host kernels (next answer).run (watchedNext answer).run
        (nextShape answer)) :
    Leaves host kernels (plain >>= next).run (watched >>= watchedNext).run
      (Sequel shape nextShape) := by
  have continued : ∀ answer : Except ε α,
      Leaves host kernels (ExceptT.bindCont next answer)
        (ExceptT.bindCont watchedNext answer)
        (fun given trace =>
          match answer with
          | .ok between => nextShape between given trace
          | .error error => given = .error error ∧ trace = []) := by
    intro answer
    cases answer with
    | ok between => exact second between
    | error error => exact pure (Except.error error)
  refine (bind first continued).mono ?_
  intro answer trace given
  obtain ⟨between, early, late, earlyHolds, lateHolds, rfl⟩ := given
  cases between with
  | ok between => exact .inl ⟨between, early, late, earlyHolds, lateHolds, rfl⟩
  | error error =>
      obtain ⟨rfl, rfl⟩ := lateHolds
      exact .inr ⟨error, rfl, by simpa using earlyHolds⟩

/-- An action that cannot fail, among those that may. -/
theorem lift {plain : StateM ω α} {watched : StateM (Watched ω) α}
    {shape : α → Trace → Prop}
    (leaves : Leaves host kernels plain watched shape) :
    Leaves host kernels (ExceptT.lift plain : ExceptT ε (StateM ω) α).run
      (ExceptT.lift watched : ExceptT ε (StateM (Watched ω)) α).run
      (fun answer trace => ∃ given, shape given trace ∧ answer = .ok given) := by
  intro before
  obtain ⟨trace, run, account, holds⟩ := leaves before
  refine ⟨trace, ?_, account, _, holds, rfl⟩
  change (Except.ok <$> watched).run before = _
  rw [StateT.run_map, run]
  rfl

/-- An action whose error is renamed. -/
theorem adapt {plain : ExceptT ε (StateM ω) α}
    {watched : ExceptT ε (StateM (Watched ω)) α}
    {shape : Except ε α → Trace → Prop} (rename : ε → ε')
    (leaves : Leaves host kernels plain.run watched.run shape) :
    Leaves host kernels (plain.adapt rename).run (watched.adapt rename).run
      (fun answer trace =>
        ∃ given, shape given trace ∧ answer = given.mapError rename) := by
  intro before
  obtain ⟨trace, run, account, holds⟩ := leaves before
  refine ⟨trace, ?_, account, _, holds, rfl⟩
  change (Except.mapError rename <$> watched.run).run before = _
  rw [StateT.run_map, run]
  rfl

/-- An action that cannot fail, followed by one that may. -/
theorem bindLift {plain : StateM ω α} {watched : StateM (Watched ω) α}
    {next : α → ExceptT ε (StateM ω) β}
    {watchedNext : α → ExceptT ε (StateM (Watched ω)) β}
    {shape : α → Trace → Prop} {nextShape : α → Except ε β → Trace → Prop}
    (first : Leaves host kernels plain watched shape)
    (second : ∀ answer,
      Leaves host kernels (next answer).run (watchedNext answer).run
        (nextShape answer)) :
    Leaves host kernels ((ExceptT.lift plain : ExceptT ε (StateM ω) α) >>= next).run
      ((ExceptT.lift watched : ExceptT ε (StateM (Watched ω)) α) >>= watchedNext).run
      (fun answer trace => ∃ between early late,
        shape between early ∧ nextShape between answer late ∧
          trace = early ++ late) := by
  refine (bindExcept first.lift second).mono ?_
  intro answer trace given
  rcases given with ⟨value, early, late, ⟨_, holds, ⟨⟩⟩, rest, rfl⟩ | ⟨_, _, _, _, ⟨⟩⟩
  exact ⟨value, early, late, holds, rest, rfl⟩

/-- An action whose error is renamed, followed by another. -/
theorem bindAdapt {plain : ExceptT ε (StateM ω) α}
    {watched : ExceptT ε (StateM (Watched ω)) α}
    {next : α → ExceptT ε' (StateM ω) β}
    {watchedNext : α → ExceptT ε' (StateM (Watched ω)) β}
    {shape : Except ε α → Trace → Prop}
    {nextShape : α → Except ε' β → Trace → Prop} (rename : ε → ε')
    (first : Leaves host kernels plain.run watched.run shape)
    (second : ∀ answer,
      Leaves host kernels (next answer).run (watchedNext answer).run
        (nextShape answer)) :
    Leaves host kernels (plain.adapt rename >>= next).run
      (watched.adapt rename >>= watchedNext).run
      (fun answer trace =>
        (∃ between early late,
          shape (.ok between) early ∧ nextShape between answer late ∧
            trace = early ++ late) ∨
        ∃ error, answer = .error (rename error) ∧ shape (.error error) trace) := by
  refine (bindExcept (first.adapt rename) second).mono ?_
  intro answer trace given
  rcases given with
    ⟨value, early, late, ⟨given, holds, isOk⟩, rest, rfl⟩ |
    ⟨_, rfl, given, holds, isError⟩
  · cases given with
    | ok _ => cases isOk; exact .inl ⟨value, early, late, holds, rest, rfl⟩
    | error _ => cases isOk
  · cases given with
    | ok _ => cases isError
    | error error => cases isError; exact .inr ⟨error, rfl, holds⟩

/-- A watched action shows as its event, if that is what happens. -/
theorem watch (event : β → Trace.Event) {action : StateM ω β}
    (happens : ∀ before, Trace.Happens host kernels before
      (event (action.run before).1) (action.run before).2) :
    Leaves host kernels action (Throughput.watch event action)
      (fun answer trace => trace = [event answer]) := by
  intro before
  exact ⟨[event (action.run before.world).1], rfl, .single (happens before.world), rfl⟩

/-- A list of actions in turn, from its first action and the rest. -/
theorem inTurn {shape : ι → Except ε α → Trace → Prop} {item : ι} {items : List ι}
    {plain : ExceptT ε (StateM ω) α} {watched : ExceptT ε (StateM (Watched ω)) α}
    {others : ExceptT ε (StateM ω) (List α)}
    {watchedOthers : ExceptT ε (StateM (Watched ω)) (List α)}
    (first : Leaves host kernels plain.run watched.run (shape item))
    (rest : Leaves host kernels others.run watchedOthers.run (Trace.InTurn shape items)) :
    Leaves host kernels
      (do
        let value ← plain
        let values ← others
        return value :: values : ExceptT ε (StateM ω) (List α)).run
      (do
        let value ← watched
        let values ← watchedOthers
        return value :: values : ExceptT ε (StateM (Watched ω)) (List α)).run
      (Trace.InTurn shape (item :: items)) := by
  refine (bindExcept first fun value =>
    bindExcept rest fun values => pure (Except.ok (value :: values))).mono ?_
  intro answer trace given
  rcases given with ⟨value, early, late, holds, others, rfl⟩ | ⟨error, rfl, failed⟩
  · rcases others with ⟨values, middle, last, each, ⟨rfl, rfl⟩, rfl⟩ | ⟨error, rfl, stopped⟩
    · rw [List.append_nil]
      exact .cons holds each
    · obtain ⟨done, failing, later, values, begun, ended, rfl, each, fails, rfl⟩ := stopped
      refine ⟨item :: done, failing, later, value :: values, early ++ begun, ended,
        rfl, .cons holds each, fails, ?_⟩
      rw [List.append_assoc]
  · exact ⟨[], item, items, [], [], trace, rfl, .nil, failed, rfl⟩

end Leaves

end Throughput
