import Mathlib.Data.List.GetD
import Mathlib.Data.List.Infix
import Mathlib.Data.List.Nodup
import Throughput.Proofs.Paired
import Throughput.Proofs.Trace.Ensemble
import Throughput.Proofs.Trace.Pass

/-!
Contract: what a filter leaves out might as well not be registered.

Owns:
- the meaning of a filter, as a relation between two texts;
- `Ensemble.selectedPlaces`, the places of the kernels that a filter selects,
  and the ensemble that has no others;
- the theorem that either kind of pass over all kernels is the pass over the
  selected ones alone, under the places at which they are registered.

The two ensembles are worlds of different types: in the smaller one there is
no state of a kernel that is left out. A kernel stands at `index` there and at
the place with that index among the selected ones here.
-/

namespace Throughput

/-! ### What a filter selects -/

namespace Settings

theorem occurs_iff {part text : List Char} : occurs part text = true ↔ part <:+: text := by
  induction text with
  | nil =>
      rw [occurs, List.isEmpty_iff]
      exact List.infix_nil.symm
  | cons first rest inductionHypothesis =>
      rw [occurs, Bool.or_eq_true, List.isPrefixOf_iff_prefix, inductionHypothesis]
      exact List.infix_cons_iff.symm

theorem selects_iff {settings : Settings} {name : String} :
    settings.selects name = true ↔
      ∀ part, settings.filter = some part → part.toList <:+: name.toList := by
  unfold selects
  cases settings.filter with
  | none => simp
  | some part => simp [occurs_iff]

end Settings

/-! ### A walk over all kernels -/

namespace Suite

variable {m : Type → Type} [Monad m] {α : Type}

/-- A walk over all kernels of a list that asks the filter of each when it gets
there, and passes over those that are not selected. -/
def measureSelected (settings : Settings) (measureOne : Kernel m → ExceptT Halt m α) :
    List (Kernel m) → ExceptT Halt m (List α)
  | [] => return []
  | kernel :: rest =>
    if settings.selects kernel.name then do
      let outcome ← measureOne kernel
      let outcomes ← measureSelected settings measureOne rest
      return outcome :: outcomes
    else
      measureSelected settings measureOne rest

theorem measureEach_selected (suite : Suite m) (measureOne : Kernel m → ExceptT Halt m α) :
    measureEach measureOne suite.selected =
      measureSelected suite.settings measureOne suite.kernels := by
  unfold selected
  induction suite.kernels with
  | nil => rfl
  | cons kernel rest inductionHypothesis =>
      rw [List.filter_cons, measureSelected]
      by_cases isSelected : suite.settings.selects kernel.name = true
      · rw [if_pos isSelected, if_pos isSelected, measureEach, inductionHypothesis]
      · rw [if_neg isSelected, if_neg isSelected, inductionHypothesis]

/-- A pass announces as many kernels as are selected, and if it succeeds it
returns as many reports. -/
theorem announced_count {ω : Type} (host : Host (StateM ω)) (suite : Suite (StateM ω))
    (patience : Nat) (before : ω) :
    (∃ startNanos startMillis opening rest,
      Trace.Told suite.reporters (.suiteStart suite.name suite.selectedNames.length) opening ∧
      ((suite.watched.measureAll host.watched patience).run.run ⟨before, []⟩).2.trace =
        .nanosRead startNanos :: .dayRead startMillis :: (opening ++ rest)) ∧
    ∀ result, ((suite.measureAll host patience).run.run before).1 = .ok result →
      result.reports.length = suite.selectedNames.length := by
  obtain ⟨trace, watchedRun, _, shape⟩ :=
    @leaves_measureAll _ host suite patience ⟨before, []⟩
  have selectedCount : suite.selectedNames.length = suite.placed.length := by
    rw [Suite.selectedNames, Suite.selected_eq_placed, List.length_map, List.length_map]
  rw [watchedRun, selectedCount, List.nil_append]
  generalize ((suite.measureAll host patience).run.run before).1 = answer at shape
  cases answer with
  | ok result =>
      obtain ⟨startNanos, startMillis, endNanos, opening, body, closing, told, measured, _,
        shown⟩ := shape
      refine ⟨⟨startNanos, startMillis, opening, _, told, shown⟩, ?_⟩
      rintro _ ⟨⟩
      exact Trace.Each.length_eq measured
  | error halt =>
      obtain ⟨startNanos, startMillis, opening, body, told, _, shown⟩ := shape
      exact ⟨⟨startNanos, startMillis, opening, body, told, shown⟩, nofun⟩

end Suite

/-! ### Ensembles -/

/-- An event with the place of the kernel that it calls looked up in a list. -/
def Trace.Event.moved (places : List Nat) : Trace.Event → Trace.Event
  | .called place phase outcome => .called (places.getD place 0) phase outcome
  | other => other

namespace Ensemble

variable {κ α : Type} {σ : Nat → Type}

/-- The places of the kernels that are selected, in order. -/
def selectedPlaces (settings : Settings) (actors : (place : Nat) → Kernel (StateM (σ place × κ)))
    (count : Nat) : List Nat :=
  (List.range count).filter fun place => settings.selects (actors place).name

/-- The states at some places, with the surroundings. -/
def restrict (places : List Nat) (whole : Ensemble κ σ) :
    Ensemble κ fun index => σ (places.getD index 0) :=
  ⟨whole.surroundings, fun index => whole.states (places.getD index 0)⟩

/-- The smaller ensemble shows what the larger one has at some places. -/
def Shows (places : List Nat) (whole : Ensemble κ σ)
    (part : Ensemble κ fun index => σ (places.getD index 0)) : Prop :=
  whole.surroundings = part.surroundings ∧
    ∀ index < places.length, whole.states (places.getD index 0) = part.states index

variable {surroundings : Host (StateM κ)}
variable {actors : (place : Nat) → Kernel (StateM (σ place × κ))} {count : Nat}
variable {places : List Nat}

theorem map_getD_range (places : List Nat) :
    (List.range places.length).map (fun index => places.getD index 0) = places := by
  apply List.ext_getElem
  · simp
  · intro index _ inRange
    rw [List.getElem_map, List.getElem_range, List.getD_eq_getElem _ _ inRange]

theorem getD_inj (distinct : places.Nodup) {index other : Nat} (inRange : index < places.length)
    (otherInRange : other < places.length)
    (same : places.getD index 0 = places.getD other 0) : index = other := by
  rw [List.getD_eq_getElem _ _ inRange, List.getD_eq_getElem _ _ otherInRange] at same
  exact (List.Nodup.getElem_inj_iff distinct).mp same

theorem paired_onSurroundings {β : Type} (action : StateM κ β) :
    Paired (Shows (σ := σ) places) Eq (onSurroundings action) (onSurroundings action) := by
  intro whole part shows
  have input := shows.1
  change (action.run whole.surroundings).1 = (action.run part.surroundings).1 ∧
    (action.run whole.surroundings).2 = (action.run part.surroundings).2 ∧ _
  rw [input]
  exact ⟨rfl, rfl, shows.2⟩

/-- Places that differ have states of their own, so the action of one kernel
keeps the two ensembles together. -/
theorem paired_onPlace {β : Type} (distinct : places.Nodup) {index : Nat}
    (inRange : index < places.length) (action : StateM (σ (places.getD index 0) × κ) β) :
    Paired (Shows places) Eq (onPlace (places.getD index 0) action) (onPlace index action) := by
  intro whole part shows
  have input : (whole.states (places.getD index 0), whole.surroundings) =
      (part.states index, part.surroundings) := by
    rw [shows.1, shows.2 index inRange]
  -- In both ensembles only one state is replaced, and no two indices share a place.
  have states : ∀ (state : σ (places.getD index 0)), ∀ other < places.length,
      Function.update whole.states (places.getD index 0) state (places.getD other 0) =
        Function.update part.states index state other := by
    intro state other otherInRange
    by_cases same : other = index
    · subst same
      rw [Function.update_self, Function.update_self]
    · have differs : places.getD other 0 ≠ places.getD index 0 :=
        fun equal => same (getD_inj distinct otherInRange inRange equal)
      rw [Function.update_of_ne differs, Function.update_of_ne same]
      exact shows.2 other otherInRange
  have run : action.run (whole.states (places.getD index 0), whole.surroundings) =
      action.run (part.states index, part.surroundings) := congrArg action.run input
  refine ⟨congrArg Prod.fst run, congrArg (fun done => done.2.2) run, ?_⟩
  intro other otherInRange
  change Function.update whole.states _ (action.run (whole.states _, whole.surroundings)).2.1 _ =
    Function.update part.states index (action.run (part.states index, part.surroundings)).2.1 other
  rw [run]
  exact states _ other otherInRange

theorem pairedKernels (distinct : places.Nodup) {index : Nat} (inRange : index < places.length) :
    PairedKernels (Shows places)
      ((actors (places.getD index 0)).hoist (onPlace (places.getD index 0)))
      ((actors (places.getD index 0)).hoist (onPlace index)) where
  name_eq := rfl
  step := by
    intro phase
    rw [Kernel.step_hoist, Kernel.step_hoist]
    exact (paired_onPlace distinct inRange _).mono fun _ _ => likewise_eq.mpr

/-- What is seen of a run in the larger ensemble and of one in the smaller. -/
def Alongside (places : List Nat) : Watched (Ensemble κ σ) →
    Watched (Ensemble κ fun index => σ (places.getD index 0)) → Prop :=
  WatchedRelated (Shows places) some fun event => some (event.moved places)

theorem paired_watched {β : Type} {action : StateM κ β} {event : β → Trace.Event}
    (noCall : ∀ answer, (event answer).moved places = event answer) :
    Paired (Alongside (σ := σ) places) Eq (watch event (onSurroundings action))
      (watch event (onSurroundings action)) := by
  apply (paired_onSurroundings action).watch
  rintro answer _ rfl
  rw [noCall]

theorem pairedTiming :
    PairedTiming (Alongside (σ := σ) places) (host surroundings).watched
      (host surroundings).watched :=
  ⟨paired_watched fun _ => rfl, paired_watched fun _ => rfl,
    fun _ => paired_watched fun _ => rfl⟩

/-! ### Suites of an ensemble -/

variable {settings : Settings} {name : String} {reporters : List (Reporter Outlet)}

/-- The suite of the kernels of an ensemble. -/
def suite (name : String) (settings : Settings) (reporters : List (Reporter Outlet))
    (actors : (place : Nat) → Kernel (StateM (σ place × κ))) (count : Nat) :
    Suite (StateM (Ensemble κ σ)) :=
  { name, settings, kernels := kernels actors count, reporters }

/-- The suite in which no kernel is registered but those at some places, and in
which there is no filter. -/
def suiteOf (places : List Nat) (name : String) (settings : Settings)
    (reporters : List (Reporter Outlet)) (actors : (place : Nat) → Kernel (StateM (σ place × κ))) :
    Suite (StateM (Ensemble κ fun index => σ (places.getD index 0))) :=
  suite name settings.withoutFilter reporters (fun index => actors (places.getD index 0))
    places.length

theorem selectedPlaces_nodup : (selectedPlaces settings actors count).Nodup :=
  List.nodup_range.filter _

theorem mem_selectedPlaces {place : Nat} :
    place ∈ selectedPlaces settings actors count ↔
      place < count ∧ settings.selects (actors place).name = true := by
  rw [selectedPlaces, List.mem_filter, List.mem_range]

theorem zipIdx_kernels :
    (kernels actors count).zipIdx =
      (List.range count).map fun place => ((actors place).hoist (onPlace place), place) := by
  apply List.ext_getElem
  · simp [kernels]
  · intro place _ _
    simp [kernels]

theorem suite_placed :
    (suite name settings reporters actors count).placed =
      (selectedPlaces settings actors count).map fun place =>
        ((actors place).hoist (onPlace place), place) := by
  unfold Suite.placed
  change (kernels actors count).zipIdx.filter _ = _
  rw [zipIdx_kernels, List.filter_map]
  rfl

theorem suite_watched_selected :
    (suite name settings reporters actors count).watched.selected =
      (List.range (selectedPlaces settings actors count).length).map fun index =>
        let place := (selectedPlaces settings actors count).getD index 0
        ((actors place).hoist (onPlace place)).watched place := by
  have places := map_getD_range (selectedPlaces settings actors count)
  rw [Suite.watched_selected_eq_placed, suite_placed, List.map_map]
  conv_lhs => rw [← places, List.map_map]
  rfl

theorem suiteOf_watched_selected :
    (suiteOf places name settings reporters actors).watched.selected =
      (List.range places.length).map fun index =>
        ((actors (places.getD index 0)).hoist
          (onPlace (σ := fun index => σ (places.getD index 0)) index)).watched index := by
  have all : selectedPlaces settings.withoutFilter
      (fun index => actors (places.getD index 0)) places.length = List.range places.length := by
    apply List.filter_eq_self.mpr
    intro index _
    rfl
  rw [Suite.watched_selected_eq_placed, suiteOf, suite_placed, all, List.map_map]
  rfl

/-! ### Passes with and without a filter -/

theorem pairedNotices :
    PairedNotices (Alongside (σ := σ) (selectedPlaces settings actors count))
      (host surroundings).watched (suite name settings reporters actors count).watched
      (host surroundings).watched
      (suiteOf (selectedPlaces settings actors count) name settings reporters actors).watched := by
  intro notice
  apply performAll_paired
  · exact fun _ => paired_watched fun _ => rfl
  · exact fun _ => paired_watched fun _ => rfl
  · exact fun _ _ => paired_watched fun _ => rfl

theorem pairedWatched {places : List Nat} (distinct : places.Nodup) {index : Nat}
    (member : index ∈ List.range places.length) :
    PairedKernels (Alongside (σ := σ) places)
      (((actors (places.getD index 0)).hoist (onPlace (places.getD index 0))).watched
        (places.getD index 0))
      (((actors (places.getD index 0)).hoist
        (onPlace (σ := fun index => σ (places.getD index 0)) index)).watched index) :=
  (pairedKernels distinct (List.mem_range.mp member)).watched fun _ _ => rfl

theorem paired_measureAll (patience : Nat) :
    Paired (Alongside (selectedPlaces settings actors count)) (Likewise Eq)
      ((suite name settings reporters actors count).watched.measureAll
        (host surroundings).watched patience).run
      ((suiteOf (selectedPlaces settings actors count) name settings reporters
        actors).watched.measureAll (host surroundings).watched patience).run := by
  have nanos : Paired (Alongside (σ := σ) (selectedPlaces settings actors count)) Eq
      (host surroundings).watched.nanos (host surroundings).watched.nanos :=
    paired_watched fun _ => rfl
  have dayMillis : Paired (Alongside (σ := σ) (selectedPlaces settings actors count)) Eq
      (host surroundings).watched.dayMillis (host surroundings).watched.dayMillis :=
    paired_watched fun _ => rfl
  exact measureAll_paired pairedTiming pairedNotices nanos dayMillis rfl suite_watched_selected
    suiteOf_watched_selected (fun _ member => pairedWatched selectedPlaces_nodup member) patience

theorem paired_measureOnce (patience : Nat) :
    Paired (Alongside (selectedPlaces settings actors count)) (Likewise Eq)
      ((suite name settings reporters actors count).watched.measureOnce
        (host surroundings).watched patience).run
      ((suiteOf (selectedPlaces settings actors count) name settings reporters
        actors).watched.measureOnce (host surroundings).watched patience).run :=
  measureOnce_paired pairedTiming pairedNotices suite_watched_selected suiteOf_watched_selected
    (fun _ member => pairedWatched selectedPlaces_nodup member) patience

/-- Two runs of one pass: the first in an ensemble, the second in that of the
kernels at some places. What they answer is the same, what they show is the same
but for the places, and so is the world that they leave, where both have it. A
kernel at another place is not called, and keeps its state. -/
def LikeAlone {α : Type} (places : List Nat) (before : Ensemble κ σ)
    (pass : ExceptT Halt (StateM (Ensemble κ σ)) α)
    (watchedPass : ExceptT Halt (StateM (Watched (Ensemble κ σ))) α)
    (alone : ExceptT Halt (StateM (Ensemble κ fun index => σ (places.getD index 0))) α)
    (watchedAlone :
      ExceptT Halt (StateM (Watched (Ensemble κ fun index => σ (places.getD index 0)))) α) :
    Prop :=
  let run := pass.run.run before
  let runAlone := alone.run.run (before.restrict places)
  run.1 = runAlone.1 ∧ Shows places run.2 runAlone.2 ∧
    ∃ trace : Trace,
      watchedAlone.run.run ⟨before.restrict places, []⟩ = (runAlone.1, ⟨runAlone.2, trace⟩) ∧
      watchedPass.run.run ⟨before, []⟩ =
        (run.1, ⟨run.2, trace.map (Trace.Event.moved places)⟩) ∧
      ∀ place ∉ places,
        (∀ phase outcome, .called place phase outcome ∉ trace.map (Trace.Event.moved places)) ∧
        run.2.states place = before.states place

theorem uncalled_of_moved {before after : Ensemble κ fun index => σ (places.getD index 0)}
    {trace : Trace} {place : Nat} {phase : Phase} {outcome : Except Fault Unit}
    (account : Trace.Account (host surroundings)
      (suiteOf places name settings reporters actors).kernels before trace after)
    (left : place ∉ places) :
    .called place phase outcome ∉ trace.map (Trace.Event.moved places) := by
  -- Whatever is called in the smaller ensemble is registered there, so its place is listed.
  intro isCalled
  obtain ⟨event, member, moved⟩ := List.mem_map.mp isCalled
  cases event with
  | called index _ _ =>
      obtain ⟨_, _, kernel, registered, _⟩ := account.exists_happens member
      have inRange : index < places.length := by
        have bound := (List.getElem?_eq_some_iff.mp registered).1
        simpa [suiteOf, suite, kernels] using bound
      have isPlace : places.getD index 0 = place := by
        injection moved
      rw [List.getD_eq_getElem _ _ inRange] at isPlace
      exact left (isPlace ▸ List.getElem_mem inRange)
  | _ => cases moved

theorem likeAlone_of_paired {α : Type} {before : Ensemble κ σ}
    {pass : ExceptT Halt (StateM (Ensemble κ σ)) α}
    {watchedPass : ExceptT Halt (StateM (Watched (Ensemble κ σ))) α}
    {alone : ExceptT Halt (StateM (Ensemble κ fun index => σ (places.getD index 0))) α}
    {watchedAlone :
      ExceptT Halt (StateM (Watched (Ensemble κ fun index => σ (places.getD index 0)))) α}
    {shape shapeAlone : Except Halt α → Trace → Prop}
    (leaves : Leaves (host surroundings) (suite name settings reporters actors count).kernels
      pass.run watchedPass.run shape)
    (leavesAlone : Leaves (host surroundings)
      (suiteOf places name settings reporters actors).kernels
      alone.run watchedAlone.run shapeAlone)
    (pair : Paired (Alongside places) (Likewise Eq) watchedPass.run watchedAlone.run) :
    LikeAlone places before pass watchedPass alone watchedAlone := by
  have begin : Alongside places ⟨before, []⟩ ⟨before.restrict places, []⟩ :=
    ⟨⟨rfl, fun _ _ => rfl⟩, rfl⟩
  obtain ⟨alike, shows, sameTrace⟩ := pair _ _ begin
  obtain ⟨trace, watchedRun, account, _⟩ := leaves ⟨before, []⟩
  obtain ⟨traceAlone, watchedRunAlone, accountAlone, _⟩ :=
    leavesAlone ⟨before.restrict places, []⟩
  rw [watchedRun, watchedRunAlone] at alike shows sameTrace
  have isMoved : trace = traceAlone.map (Trace.Event.moved places) := by
    rw [List.filterMap_some, List.filterMap_eq_map'] at sameTrace
    exact sameTrace
  subst isMoved
  refine ⟨likewise_eq.mp alike, shows, traceAlone, watchedRunAlone, watchedRun, ?_⟩
  intro place left
  have uncalled : ∀ phase outcome,
      .called place phase outcome ∉ traceAlone.map (Trace.Event.moved places) :=
    fun _ _ => uncalled_of_moved accountAlone left
  exact ⟨uncalled, states_of_account account uncalled⟩

theorem suite_selectedNames :
    (suite name settings reporters actors count).selectedNames =
      (selectedPlaces settings actors count).map fun place => (actors place).name := by
  unfold Suite.selectedNames
  rw [Suite.selected_eq_placed, suite_placed, List.map_map, List.map_map]
  rfl

/-- A filter is the same as never having registered the kernels that it leaves
out. It selects the kernels in whose names it occurs without a gap, and a pass
in either mode is that over the suite of these alone, without a filter: what is
seen, what is answered and what is left behind. No other kernel is called or
changed, however the pass ends. -/
theorem filter_like_unregistered
    (surroundings : Host (StateM κ))
    (actors : (place : Nat) → Kernel (StateM (σ place × κ)))
    (count : Nat)
    (name : String)
    (settings : Settings)
    (reporters : List (Reporter Outlet))
    (patience : Nat)
    (before : Ensemble κ σ) :
    let here := host surroundings
    let full := suite name settings reporters actors count
    let places := selectedPlaces settings actors count
    let alone := suiteOf places name settings reporters actors
    (∀ place, place ∈ places ↔ place < count ∧
      ∀ part, settings.filter = some part → part.toList <:+: (actors place).name.toList) ∧
    full.selectedNames = places.map (fun place => (actors place).name) ∧
    (∀ measureOne : Kernel (StateM (Ensemble κ σ)) → ExceptT Halt (StateM (Ensemble κ σ)) α,
      Suite.measureEach measureOne full.selected =
        Suite.measureSelected settings measureOne full.kernels) ∧
    LikeAlone places before (full.measureAll here patience)
      (full.watched.measureAll here.watched patience)
      (alone.measureAll (host surroundings) patience)
      (alone.watched.measureAll (host surroundings).watched patience) ∧
    LikeAlone places before (full.measureOnce here patience)
      (full.watched.measureOnce here.watched patience)
      (alone.measureOnce (host surroundings) patience)
      (alone.watched.measureOnce (host surroundings).watched patience) ∧
    (∃ startNanos startMillis opening rest,
      Trace.Told reporters (.suiteStart name full.selectedNames.length) opening ∧
      ((full.watched.measureAll here.watched patience).run.run ⟨before, []⟩).2.trace =
        .nanosRead startNanos :: .dayRead startMillis :: (opening ++ rest)) ∧
    ∀ result, ((full.measureAll here patience).run.run before).1 = .ok result →
      result.reports.length = full.selectedNames.length := by
  intro here full places alone
  obtain ⟨announced, counted⟩ := Suite.announced_count here full patience before
  refine ⟨fun place => ?_, suite_selectedNames, full.measureEach_selected,
    likeAlone_of_paired (leaves_measureAll full patience) (leaves_measureAll alone patience)
      (paired_measureAll patience),
    likeAlone_of_paired (leaves_measureOnce full patience) (leaves_measureOnce alone patience)
      (paired_measureOnce patience),
    announced, counted⟩
  rw [mem_selectedPlaces, Settings.selects_iff]

end Ensemble

end Throughput
