import Throughput.CommandLine.Program
import Throughput.Proofs.CommandLine.Given
import Throughput.Proofs.Filtering
import Throughput.Rehearsal.Stage

/-!
Contract: the arguments and the environment combine without interference.

Owns:
- `variableText`, what a variable says, and when it switches its setting on;
- what is left of the environment in each of the settings, once the arguments are known;
- the names that are listed, and the lines that are printed for them;
- the theorem that puts these together for a call of the program.

What the arguments give is known from `parse_gives`; here it never matters how they were
read.
-/

namespace Throughput

/-! ### What a variable says -/

namespace Settings

/-- Below the capital Z there is room for the small letters. -/
theorem smallLetter_eq (letter : Char) : smallLetter letter = letter.toLower := by
  have isCapital : 'A' ≤ letter ∧ letter ≤ 'Z' ↔ letter.val ≥ 'A'.val ∧ letter.val ≤ 'Z'.val :=
    Iff.rfl
  change _ = dite (letter.val ≥ 'A'.val ∧ letter.val ≤ 'Z'.val) _ _
  by_cases capital : letter.val ≥ 'A'.val ∧ letter.val ≤ 'Z'.val
  · have atMost : letter.toNat ≤ 90 := UInt32.le_iff_toNat_le.mp capital.2
    have isValid : (letter.toNat + 32).isValidChar := .inl (by omega)
    have sum : (letter.val + ('a'.val - 'A'.val)).toNat = letter.toNat + 32 := by
      rw [UInt32.toNat_add]
      exact Nat.mod_eq_of_lt (by simp; omega)
    rw [smallLetter, if_pos (isCapital.mpr capital), dif_pos capital, Char.ofNat, dif_pos isValid]
    apply Char.ext
    apply UInt32.toNat_inj.mp
    rw [sum]
    rfl
  · rw [smallLetter, if_neg (mt isCapital.mp capital), dif_neg capital]

theorem isOn_iff {value : String} :
    isOn value = true ↔ value ≠ "0" ∧ value.toLower ≠ "false" := by
  have isMapped : value.toList.map smallLetter = value.toLower.toList := by
    change _ = (value.map Char.toLower).toList
    rw [String.toList_map, funext smallLetter_eq]
  rw [isOn, isMapped, Bool.and_eq_true, decide_eq_true_iff, decide_eq_true_iff, ne_eq, ne_eq,
    String.toList_inj]

end Settings

namespace CommandLine

open Settings

/-- The value of a variable, if it has one that is a text. -/
def variableText (environment : String → Option RawText) (name : String) : Option String :=
  (environment name).bind RawText.decode?

section Combining

variable {environment : String → Option RawText} {arguments : List RawText} {choices : Choices}

/-- The filter that is given replaces that of the environment, even by an empty one. -/
theorem filter_settings (accepted : parse arguments = .ok choices) {part : String} :
    (choices.settings (environmentSettings environment)).filter = some part ↔
      GivesFilter arguments part ∨
        (∀ given, ¬ GivesFilter arguments given) ∧
          variableText environment filterVariable = some part ∧ part ≠ "" := by
  have gives := (parse_gives accepted).2
  have isFilter : (choices.settings (environmentSettings environment)).filter =
      (choices.filter <|> (variableText environment filterVariable).filter (· ≠ "")) := rfl
  simp only [← gives]
  rw [isFilter]
  cases choices.filter with
  | none => simp [Option.filter_eq_some_iff]
  | some given => simp

/-- An option that is given adds to what its variable says. -/
theorem isOn_or_has (accepted : parse arguments = .ok choices) (flag : Flag) (name : String) :
    ((variableText environment name).any isOn || choices.has flag) = true ↔
      Given arguments flag ∨
        ∃ value, variableText environment name = some value ∧
          value ≠ "0" ∧ value.toLower ≠ "false" := by
  rw [Bool.or_eq_true, or_comm, (parse_gives accepted).1, Option.any_eq_true]
  simp only [isOn_iff]

end Combining

/-! ### The names that are listed -/

section Listing

variable {ω : Type}

/-- The names of the bundled kernels in which the filter occurs, in the order in which they
are run. -/
def bundledNames (filter : Option String) : List String :=
  ["NthPrime", "ParticleMotion", "Tracer"].filter fun name =>
    decide (∀ part ∈ filter, part.toList <:+: name.toList)

theorem selectedNames_bundled {m : Type → Type} [Monad m]
    {lift : {β : Type} → StateM Bundled.State β → m β} (settings : Settings) :
    (Bundled.suite (m := m) lift settings).selectedNames = bundledNames settings.filter := by
  have names : (Bundled.suite (m := m) lift settings).kernels.map (·.name) =
      ["NthPrime", "ParticleMotion", "Tracer"] := rfl
  have isSettings : (Bundled.suite (m := m) lift settings).settings = settings := rfl
  rw [Suite.selectedNames, Suite.selected, isSettings, bundledNames, ← names, List.filter_map]
  congr 2
  funext kernel
  rw [Bool.eq_iff_iff, selects_iff]
  simp [Option.mem_def]

/-- Listing logs nothing, so it does not matter which part of the log is kept. -/
theorem listNames_showing {m : Type → Type} [Monad m] (shows : Log.Entry → Bool) (host : Host m)
    (names : List String) : listNames (host.showing shows) names = listNames host names := by
  induction names with
  | nil => rfl
  | cons name rest inductionHypothesis =>
    rw [listNames, listNames, inductionHypothesis]
    rfl

/-- None of these texts is refused if they are written one after another. -/
def TakesAll (host : Host (StateM ω)) : List String → ω → Prop
  | [], _ => True
  | text :: rest, before =>
    ((host.write text).run before).1 = none ∧
      TakesAll host rest ((host.write text).run before).2

/-- Names that are not refused are written, and that is all. -/
theorem listNames_run {host : Host (StateM ω)} {names : List String} {before : ω}
    (takesAll : TakesAll host (names.map (· ++ "\n")) before) :
    (listNames host names).run before =
      (Exit.success, ((writeAll host (names.map (· ++ "\n"))).run before).2) := by
  induction names generalizing before with
  | nil => rfl
  | cons name rest inductionHypothesis =>
    obtain ⟨taken, takesRest⟩ := takesAll
    have isTaken : (host.write (name ++ "\n")).run before =
        (none, ((host.write (name ++ "\n")).run before).2) := Prod.ext taken rfl
    have listed : (listNames host (name :: rest)).run before =
        (listNames host rest).run ((host.write (name ++ "\n")).run before).2 := by
      rw [listNames, StateT.run_bind, isTaken]
      rfl
    exact listed.trans (inductionHypothesis takesRest)

end Listing

/-! ### A call of the program -/

/-- The arguments and the environment combine without interference. The filter that is
given, even an empty one, replaces that of the environment, which is none if it is empty
or no text. The other settings are on if they are given or their own variable is a text
that switches them on. A variable changes no setting but its own. A list of names depends on
the filter alone: these names are written, one on each line, and nothing else is done. -/
theorem arguments_and_environment_combine
    {ω : Type}
    (host : Host (StateM ω))
    (patience : Nat)
    (lift : {β : Type} → StateM Bundled.State β → StateM ω β)
    (environment : String → Option RawText)
    (arguments : List RawText)
    (choices : Choices)
    (accepted : parse arguments = .ok choices) :
    let settings := choices.settings (environmentSettings environment)
    let call := execute host patience lift environment arguments
    let lines := (bundledNames settings.filter).map (· ++ "\n")
    call = runChoices (host.showing (logFilter environment settings)) patience lift settings
      choices ∧
    (∀ part, settings.filter = some part ↔
      GivesFilter arguments part ∨
        (∀ given, ¬ GivesFilter arguments given) ∧
          variableText environment filterVariable = some part ∧ part ≠ "") ∧
    (settings.json = true ↔
      Given arguments .json ∨
        ∃ value, variableText environment jsonVariable = some value ∧
          value ≠ "0" ∧ value.toLower ≠ "false") ∧
    (settings.verbose = true ↔
      Given arguments .verbose ∨
        ∃ value, variableText environment verboseVariable = some value ∧
          value ≠ "0" ∧ value.toLower ≠ "false") ∧
    (∀ other : String → Option RawText,
      let otherSettings := choices.settings (environmentSettings other)
      (other filterVariable = environment filterVariable →
        otherSettings.filter = settings.filter) ∧
      (other jsonVariable = environment jsonVariable → otherSettings.json = settings.json) ∧
      (other verboseVariable = environment verboseVariable →
        otherSettings.verbose = settings.verbose)) ∧
    (Given arguments .list → ∀ before, TakesAll host lines before →
      call.run before = (Exit.success, ((writeAll host lines).run before).2)) := by
  intro settings call lines
  have isCall :
      call = runChoices (host.showing (logFilter environment settings)) patience lift settings
        choices := by
    simp only [call, execute, accepted]
    rfl
  refine ⟨isCall, fun _ => filter_settings accepted, isOn_or_has accepted .json jsonVariable,
    isOn_or_has accepted .verbose verboseVariable, fun other => ?_,
    fun listed before takesAll => ?_⟩
  · refine ⟨fun same => ?_, fun same => ?_, fun same => ?_⟩ <;>
      simp only [settings, Choices.settings, environmentSettings, ofEnvironment, same]
  · have isListing : choices.list = true := ((parse_gives accepted).1 .list).mpr listed
    rw [isCall, runChoices, if_pos isListing, selectedNames_bundled, listNames_showing]
    exact listNames_run takesAll

/-- A filter that is replaced, and a switch that is no text. -/
def crowdedEnvironment (name : String) : Option RawText :=
  [(filterVariable, RawText.ofString "Tracer"), (jsonVariable, [255])].lookup name

def listingArguments : List RawText :=
  ["--list", "-v", "--filter", "Prime"].map RawText.ofString

def listingChoices : Choices :=
  { filter := some "Prime", list := true, verbose := true }

theorem given_filter_is_listed :
    parse listingArguments = .ok listingChoices ∧
      (listingChoices.settings (environmentSettings crowdedEnvironment)).filter = some "Prime" ∧
      (listingChoices.settings (environmentSettings crowdedEnvironment)).json = false ∧
      (execute Rehearsal.Stage.host 1 (Rehearsal.Stage.onBundled 0) crowdedEnvironment
        listingArguments).run { clock := { steps := [1] } } =
          (Exit.success, { clock := { steps := [1] }, printed := "NthPrime\n" }) := by
  have accepted : parse listingArguments = .ok listingChoices := by decide +kernel
  obtain ⟨-, isFilter, -, -, -, listed⟩ :=
    arguments_and_environment_combine Rehearsal.Stage.host 1 (Rehearsal.Stage.onBundled 0)
      crowdedEnvironment listingArguments listingChoices accepted
  have given : GivesFilter listingArguments "Prime" :=
    ⟨RawText.ofString "Prime", by decide +kernel,
      .inr ⟨[RawText.ofString "--list", RawText.ofString "-v"], [], rfl⟩⟩
  have replaced := (isFilter "Prime").mpr (.inl given)
  have names : bundledNames (some "Prime") = ["NthPrime"] := by decide +kernel
  rw [replaced, names] at listed
  have asked : Given listingArguments .list :=
    ⟨RawText.ofString "--list", List.mem_cons_self .., "--list", by decide, rfl⟩
  exact ⟨accepted, replaced, by decide +kernel, listed asked _ ⟨rfl, trivial⟩⟩

end CommandLine

end Throughput
