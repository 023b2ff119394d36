import Mathlib.Data.List.Infix
import Throughput.CommandLine.Arguments

/-!
Contract: what a list of arguments says, if it is accepted.

Owns:
- `spellings`, the written forms of the options that are on or off;
- `Given` and `GivesFilter`, which say of a list of arguments what it gives, without
  reading it;
- `Accepts`, the ways in which one more argument can be accepted;
- the statement that the choices of an accepted list are what it gives.

While arguments are read, some are already among the choices, and the others are still
to come. What both say together stays the same from one argument to the next.
-/

namespace Throughput.CommandLine

/-! ### What a list of arguments gives -/

/-- The written forms of the options that are on or off. -/
def spellings : List (String × Flag) :=
  [("--list", .list), ("--single", .single), ("--json", .json), ("--verbose", .verbose),
    ("-v", .verbose)]

/-- An argument is the written form of an option. -/
def Spells (argument : RawText) (flag : Flag) : Prop :=
  ∃ spelling, (spelling, flag) ∈ spellings ∧ RawText.ofString spelling = argument

/-- An option that is on or off is among the arguments. -/
def Given (arguments : List RawText) (flag : Flag) : Prop :=
  ∃ argument ∈ arguments, Spells argument flag

/-- The arguments give a filter: after an equals sign, or as the argument right after
the option. -/
def GivesFilter (arguments : List RawText) (part : String) : Prop :=
  ∃ value : RawText, value.decode? = some part ∧
    (RawText.ofString "--filter=" ++ value ∈ arguments ∨
      [RawText.ofString "--filter", value] <:+: arguments)

theorem given_cons {argument : RawText} {rest : List RawText} {flag : Flag} :
    Given (argument :: rest) flag ↔ Spells argument flag ∨ Given rest flag :=
  List.exists_mem_cons_iff _ _ _

theorem givesFilter_cons {first : RawText} {rest : List RawText} {part : String} :
    GivesFilter (first :: rest) part ↔
      (∃ value : RawText, value.decode? = some part ∧
        RawText.ofString "--filter=" ++ value = first) ∨
      (first = RawText.ofString "--filter" ∧
        ∃ value tail, rest = value :: tail ∧ RawText.decode? value = some part) ∨
      GivesFilter rest part := by
  constructor
  · rintro ⟨value, isText, inFirst | together⟩
    · rcases List.mem_cons.mp inFirst with isFirst | later
      · exact .inl ⟨value, isText, isFirst⟩
      · exact .inr (.inr ⟨value, isText, .inl later⟩)
    · rcases List.infix_cons_iff.mp together with atStart | later
      · obtain ⟨isFirst, tail, isRest⟩ := List.cons_prefix_cons.mp atStart
        exact .inr (.inl ⟨isFirst.symm, value, tail, isRest.symm, isText⟩)
      · exact .inr (.inr ⟨value, isText, .inr later⟩)
  · rintro (⟨value, isText, rfl⟩ | ⟨rfl, value, tail, rfl, isText⟩ | ⟨value, isText, given⟩)
    · exact ⟨value, isText, .inl (List.mem_cons_self ..)⟩
    · exact ⟨value, isText, .inr ⟨[], tail, rfl⟩⟩
    · exact ⟨value, isText, given.imp (List.mem_cons_of_mem _) List.infix_cons⟩

/-! ### The forms of an argument -/

section Forms

variable {argument : RawText}

theorem ofString_separator : RawText.ofString "--" = [hyphen, hyphen] := by
  decide +kernel

theorem ofString_letter : RawText.ofString "-v" = [hyphen, 118] := by
  decide +kernel

theorem Form.of_eq_separator (isForm : Form.of argument = .separator) :
    argument = [hyphen, hyphen] := by
  unfold Form.of at isForm
  grind

theorem Form.of_eq_short {letters : RawText} (isForm : Form.of argument = .short letters) :
    argument = hyphen :: letters ∧ letters ≠ [] := by
  unfold Form.of at isForm
  grind

theorem Form.of_eq_long {name : RawText} {value : Option RawText}
    (isForm : Form.of argument = .long name value) :
    argument = hyphen :: hyphen :: (name ++ value.elim [] (equalsSign :: ·)) := by
  obtain _ | ⟨first, _ | ⟨second, rest⟩⟩ := argument
  · nomatch isForm
  · nomatch isForm
  rw [Form.of] at isForm
  split_ifs at isForm with notFirst notSecond isEmpty
  obtain ⟨isName, isValue⟩ := Form.long.inj isForm
  have split := List.takeWhile_append_dropWhile (p := (· ≠ equalsSign)) (l := rest)
  rw [not_not.mp notFirst, not_not.mp notSecond, ← split, isName, ← isValue]
  cases dropped : rest.dropWhile (· ≠ equalsSign) with
  | nil => rfl
  | cons sign text =>
    have atHead := List.head?_dropWhile_not (· ≠ equalsSign) rest
    rw [dropped] at atHead
    have isSign : sign = equalsSign := by simpa using atHead
    rw [isSign]
    rfl

theorem ofString_announced :
    RawText.ofString "--filter" = hyphen :: hyphen :: filterName := by
  decide +kernel

theorem ofString_joined :
    RawText.ofString "--filter=" = hyphen :: hyphen :: (filterName ++ [equalsSign]) := by
  decide +kernel

theorem form_separator : Form.of (RawText.ofString "--") = .separator := by
  decide +kernel

theorem form_announced :
    Form.of (RawText.ofString "--filter") = .long filterName none := by
  decide +kernel

theorem form_joined (value : RawText) :
    Form.of (RawText.ofString "--filter=" ++ value) = .long filterName (some value) := by
  have noSign : ∀ letter ∈ filterName, (!decide (letter = equalsSign)) = true := by
    decide +kernel
  have notEmpty : filterName ≠ [] := by decide +kernel
  rw [ofString_joined]
  simp [Form.of, List.takeWhile_append_of_pos noSign, List.dropWhile_append_of_pos noSign,
    notEmpty]

theorem joined_ne_announced (value : RawText) :
    RawText.ofString "--filter=" ++ value ≠ RawText.ofString "--filter" := by
  intro isSame
  have sameForm := congrArg Form.of isSame
  rw [form_joined, form_announced] at sameForm
  nomatch sameForm

/-- The forms of the options that are on or off. -/
def Form.isSwitch : Form → Bool
  | .short _ => true
  | .long name value => name ≠ filterName && value.isNone
  | _ => false

theorem Form.isSwitch_filter (value : Option RawText) :
    (Form.long filterName value).isSwitch = false := by
  simp [isSwitch]

theorem isSwitch_of_spelled :
    ∀ entry ∈ spellings, (Form.of (RawText.ofString entry.1)).isSwitch = true := by
  decide +kernel

end Forms

/-! ### Following the options -/

/-- Whether an option is among the choices. -/
def Choices.has (choices : Choices) : Flag → Bool
  | .list => choices.list
  | .single => choices.single
  | .json => choices.json
  | .verbose => choices.verbose
  | .help _ | .version => false

section Following

variable {choices changed : Choices} {flag : Flag}

/-- An option that is followed was not among the choices; then it is, and nothing else
is different. -/
theorem Choices.follow_ok (followed : choices.follow flag = .ok changed) :
    choices.has flag = false ∧ changed.filter = choices.filter ∧
      ∀ other, changed.has other = true ↔ choices.has other = true ∨ other = flag := by
  cases flag
  case help | version => nomatch followed
  all_goals
    rw [follow, setOnce] at followed
    split_ifs at followed with given
    obtain rfl := Except.ok.inj followed
    refine ⟨Bool.eq_false_iff.mpr given, rfl, fun other => ?_⟩
    cases other <;> simp [has]

/-- A filter that is set was not set before; then it is, and nothing else is different. -/
theorem Choices.setFilter_ok {value : RawText} (set : choices.setFilter value = .ok changed) :
    choices.filter = none ∧ changed.filter = value.decode? ∧
      ∀ other, changed.has other = choices.has other := by
  unfold setFilter at set
  cases isText : RawText.decode? value with
  | none =>
    rw [isText] at set
    nomatch set
  | some text =>
    rw [isText] at set
    simp only at set
    split_ifs at set with given
    obtain rfl := Except.ok.inj set
    refine ⟨Option.not_isSome_iff_eq_none.mp given, rfl, fun other => ?_⟩
    cases other <;> rfl

/-- What is found in a table is one of its entries, with a key that passes the test. -/
theorem exists_entry {κ : Type} {p : κ → Bool} {table : List (κ × Flag)}
    (found : (table.find? fun entry => p entry.1).map Prod.snd = some flag) :
    ∃ key, (key, flag) ∈ table ∧ p key = true := by
  obtain ⟨entry, isFound, rfl⟩ := Option.map_eq_some_iff.mp found
  have passes := List.find?_some isFound
  exact ⟨entry.1, List.mem_of_find?_eq_some isFound, passes⟩

/-- The only letter that is followed. -/
theorem Choices.followed_letter
    {letter : UInt8}
    (isFlag : shortFlag? letter = some flag)
    (followed : choices.follow flag = .ok changed) :
    letter = 118 ∧ flag = .verbose := by
  obtain ⟨key, inTable, isLetter⟩ :=
    exists_entry (p := fun key : Char => decide (key.toUInt8 = letter)) isFlag
  obtain rfl := of_decide_eq_true isLetter
  simp only [shortFlags, List.mem_cons, List.not_mem_nil, or_false, Prod.mk.injEq] at inTable
  rcases inTable with ⟨rfl, rfl⟩ | ⟨rfl, rfl⟩ | ⟨rfl, rfl⟩
  · exact ⟨by decide, rfl⟩
  · nomatch followed
  · nomatch followed

/-- A long option that is followed is spelled with two hyphens. -/
theorem Choices.followed_name
    {name : RawText}
    (isFlag : longFlag? name = some flag)
    (followed : choices.follow flag = .ok changed) :
    ∃ spelling, (spelling, flag) ∈ spellings ∧
      RawText.ofString spelling = hyphen :: hyphen :: name := by
  obtain ⟨key, inTable, isName⟩ :=
    exists_entry (p := fun key => decide (RawText.ofString key = name)) isFlag
  obtain rfl := of_decide_eq_true isName
  simp only [longFlags, List.mem_cons, List.not_mem_nil, or_false, Prod.mk.injEq] at inTable
  rcases inTable with ⟨rfl, rfl⟩ | ⟨rfl, rfl⟩ | ⟨rfl, rfl⟩ | ⟨rfl, rfl⟩ | ⟨rfl, rfl⟩ | ⟨rfl, rfl⟩
  · exact ⟨"--list", by decide, by decide +kernel⟩
  · exact ⟨"--single", by decide, by decide +kernel⟩
  · exact ⟨"--json", by decide, by decide +kernel⟩
  · exact ⟨"--verbose", by decide, by decide +kernel⟩
  · nomatch followed
  · nomatch followed

theorem Choices.followLetters_cons
    {argument rest : RawText}
    {letter : UInt8}
    (followed : followLetters argument choices (letter :: rest) = .ok changed) :
    letter = 118 ∧
      ∃ next, choices.follow .verbose = .ok next ∧
        followLetters argument next rest = .ok changed := by
  rw [followLetters] at followed
  split at followed
  · nomatch followed
  · next flag isFlag =>
    split at followed
    · nomatch followed
    · next next isNext =>
      obtain ⟨isLetter, rfl⟩ := followed_letter isFlag isNext
      exact ⟨isLetter, next, isNext, followed⟩

/-- Joined letters are followed only if there is one, as an option may be given once. -/
theorem Choices.followLetters_ok
    {argument letters : RawText}
    (nonempty : letters ≠ [])
    (followed : followLetters argument choices letters = .ok changed) :
    letters = [118] ∧ choices.follow .verbose = .ok changed := by
  obtain ⟨letter, rest, rfl⟩ := List.exists_cons_of_ne_nil nonempty
  obtain ⟨rfl, next, isNext, later⟩ := followLetters_cons followed
  cases rest with
  | nil =>
    obtain rfl := Except.ok.inj later
    exact ⟨rfl, isNext⟩
  | cons second rest =>
    obtain ⟨-, third, again, -⟩ := followLetters_cons later
    have alreadySet : next.has .verbose = true := ((follow_ok isNext).2.2 .verbose).mpr (.inr rfl)
    exact absurd alreadySet (Bool.eq_false_iff.mp (follow_ok again).1)

end Following

/-! ### Reading one argument -/

/-- The ways in which an argument is accepted. -/
inductive Accepts : Progress → RawText → Progress → Prop where
  | separator {choices : Choices} :
    Accepts ⟨choices, .option⟩ (RawText.ofString "--") ⟨choices, .nothing⟩
  | switch {choices changed : Choices} {spelling : String} {flag : Flag}
      (isSpelled : (spelling, flag) ∈ spellings)
      (followed : choices.follow flag = .ok changed) :
    Accepts ⟨choices, .option⟩ (RawText.ofString spelling) ⟨changed, .option⟩
  /-- The value of the filter is to come. -/
  | announced {choices : Choices} :
    Accepts ⟨choices, .option⟩ (RawText.ofString "--filter") ⟨choices, .value⟩
  | joined {choices changed : Choices} {value : RawText}
      (set : choices.setFilter value = .ok changed) :
    Accepts ⟨choices, .option⟩ (RawText.ofString "--filter=" ++ value) ⟨changed, .option⟩
  | value {choices changed : Choices} {value : RawText}
      (isPlain : Form.of value = .plain)
      (set : choices.setFilter value = .ok changed) :
    Accepts ⟨choices, .value⟩ value ⟨changed, .option⟩

section Reading

variable {choices : Choices} {progress next : Progress} {argument : RawText}

theorem bind_progress_ok
    {computed : Except Answer Choices}
    (accepted : (do return ⟨← computed, .option⟩ : Except Answer Progress) = .ok next) :
    ∃ changed, computed = .ok changed ∧ next = ⟨changed, .option⟩ := by
  cases computed with
  | error answer => nomatch accepted
  | ok changed => exact ⟨changed, rfl, (Except.ok.inj accepted).symm⟩

theorem accepts_of_readOption (accepted : Progress.readOption choices argument = .ok next) :
    Accepts ⟨choices, .option⟩ argument next := by
  rw [Progress.readOption] at accepted
  split at accepted
  · nomatch accepted
  · next isForm =>
    obtain rfl := Except.ok.inj accepted
    rw [Form.of_eq_separator isForm, ← ofString_separator]
    exact .separator
  · next letters isForm =>
    obtain ⟨rfl, nonempty⟩ := Form.of_eq_short isForm
    obtain ⟨changed, followed, rfl⟩ := bind_progress_ok accepted
    obtain ⟨rfl, isVerbose⟩ := Choices.followLetters_ok nonempty followed
    rw [← ofString_letter]
    have isSpelled : ("-v", Flag.verbose) ∈ spellings := by decide
    exact .switch isSpelled isVerbose
  · next name value isForm =>
    have isWritten := Form.of_eq_long isForm
    split_ifs at accepted with isFilter
    · subst isFilter
      split at accepted
      · obtain rfl := Except.ok.inj accepted
        rw [Option.elim_none, List.append_nil, ← ofString_announced] at isWritten
        rw [isWritten]
        exact .announced
      · next text =>
        obtain ⟨changed, set, rfl⟩ := bind_progress_ok accepted
        have isJoined : argument = RawText.ofString "--filter=" ++ text := by
          rw [isWritten, ofString_joined]
          simp
        rw [isJoined]
        exact .joined set
    · split at accepted
      · next flag isFlag =>
        obtain ⟨changed, followed, rfl⟩ := bind_progress_ok accepted
        obtain ⟨spelling, isSpelled, isName⟩ := Choices.followed_name isFlag followed
        rw [Option.elim_none, List.append_nil, ← isName] at isWritten
        rw [isWritten]
        exact .switch isSpelled followed
      · nomatch accepted

theorem accepts_of_read (accepted : progress.read argument = .ok next) :
    Accepts progress argument next := by
  obtain ⟨choices, mode⟩ := progress
  cases mode with
  | option => exact accepts_of_readOption accepted
  | value =>
    rw [Progress.read] at accepted
    split_ifs at accepted with isPlain
    obtain ⟨changed, set, rfl⟩ := bind_progress_ok accepted
    exact .value (of_decide_eq_true isPlain) set
  | nothing => nomatch accepted

end Reading

/-! ### What one argument says -/

section Saying

variable {progress next : Progress} {argument : RawText} {rest : List RawText}
  {flag : Flag} {part : String}

theorem not_spells_of_form {form : Form} (isForm : Form.of argument = form)
    (noSwitch : form.isSwitch = false) : ¬ Spells argument flag := by
  rintro ⟨spelling, inTable, rfl⟩
  have isSwitch := isSwitch_of_spelled _ inTable
  rw [isForm, noSwitch] at isSwitch
  nomatch isSwitch

theorem spells_iff {spelling : String} {other : Flag} (inTable : (spelling, flag) ∈ spellings) :
    Spells (RawText.ofString spelling) other ↔ other = flag := by
  have distinct : ∀ entry ∈ spellings, ∀ entry' ∈ spellings,
      RawText.ofString entry'.1 = RawText.ofString entry.1 → entry'.2 = entry.2 := by
    decide +kernel
  constructor
  · rintro ⟨spelling', inTable', isSame⟩
    exact distinct _ inTable _ inTable' isSame
  · rintro rfl
    exact ⟨spelling, inTable, rfl⟩

/-- One argument adds to the choices the option it spells. -/
theorem has_accepts (accepted : Accepts progress argument next) :
    next.choices.has flag = true ↔ progress.choices.has flag = true ∨ Spells argument flag := by
  cases accepted with
  | separator => simp [not_spells_of_form form_separator rfl]
  | switch isSpelled followed =>
    rw [(Choices.follow_ok followed).2.2, spells_iff isSpelled]
  | announced => simp [not_spells_of_form form_announced (Form.isSwitch_filter none)]
  | joined set =>
    have spellsNone (value : RawText) : ¬ Spells (RawText.ofString "--filter=" ++ value) flag :=
      not_spells_of_form (form_joined value) (Form.isSwitch_filter _)
    simp [(Choices.setFilter_ok set).2.2, spellsNone]
  | value isPlain set =>
    simp [(Choices.setFilter_ok set).2.2, not_spells_of_form isPlain rfl]

/-- An argument of another form gives no filter. -/
theorem givesFilter_cons_of_form (other : ∀ value, Form.of argument ≠ .long filterName value) :
    GivesFilter (argument :: rest) part ↔ GivesFilter rest part := by
  rw [givesFilter_cons]
  constructor
  · rintro (⟨value, -, rfl⟩ | ⟨rfl, -⟩ | later)
    · exact absurd (form_joined value) (other _)
    · exact absurd form_announced (other _)
    · exact later
  · exact fun later => .inr (.inr later)

theorem form_ne_of_spelled {spelling : String} (isSpelled : (spelling, flag) ∈ spellings)
    (value : Option RawText) :
    Form.of (RawText.ofString spelling) ≠ .long filterName value := by
  intro isForm
  have isSwitch := isSwitch_of_spelled _ isSpelled
  rw [isForm, Form.isSwitch_filter] at isSwitch
  nomatch isSwitch

theorem givesFilter_joined {value : RawText} :
    GivesFilter ((RawText.ofString "--filter=" ++ value) :: rest) part ↔
      value.decode? = some part ∨ GivesFilter rest part := by
  rw [givesFilter_cons]
  constructor
  · rintro (⟨value', isText, isSame⟩ | ⟨isAnnounced, -⟩ | later)
    · exact .inl (List.append_cancel_left isSame ▸ isText)
    · exact absurd isAnnounced (joined_ne_announced value)
    · exact .inr later
  · rintro (isText | later)
    · exact .inl ⟨value, isText, rfl⟩
    · exact .inr (.inr later)

theorem givesFilter_announced {value : RawText} :
    GivesFilter (RawText.ofString "--filter" :: value :: rest) part ↔
      value.decode? = some part ∨ GivesFilter (value :: rest) part := by
  rw [givesFilter_cons]
  constructor
  · rintro (⟨value', -, isSame⟩ | ⟨-, value', tail, isRest, isText⟩ | later)
    · exact absurd isSame (joined_ne_announced value')
    · exact .inl ((List.cons.inj isRest).1 ▸ isText)
    · exact .inr later
  · rintro (isText | later)
    · exact .inr (.inl ⟨rfl, value, rest, rfl, isText⟩)
    · exact .inr (.inr later)

/-- What is still to come; if the value of the filter is, the option belongs to it. -/
def Progress.pending (progress : Progress) (rest : List RawText) : List RawText :=
  if progress.mode = .value then RawText.ofString "--filter" :: rest else rest

/-- The filter that is among the choices or still to come is not another after one more
argument. -/
theorem filter_accepts (accepted : Accepts progress argument next) :
    next.choices.filter = some part ∨ GivesFilter (next.pending rest) part ↔
      progress.choices.filter = some part ∨
        GivesFilter (progress.pending (argument :: rest)) part := by
  cases accepted with
  | separator => simp [Progress.pending, givesFilter_cons_of_form, form_separator]
  | switch isSpelled followed =>
    simp [Progress.pending, givesFilter_cons_of_form (form_ne_of_spelled isSpelled),
      (Choices.follow_ok followed).2.1]
  | announced => rfl
  | joined set =>
    obtain ⟨wasNone, isNext, -⟩ := Choices.setFilter_ok set
    simp [Progress.pending, givesFilter_joined, wasNone, isNext]
  | value isPlain set =>
    obtain ⟨wasNone, isNext, -⟩ := Choices.setFilter_ok set
    simp [Progress.pending, givesFilter_announced, givesFilter_cons_of_form, wasNone, isNext,
      isPlain]

end Saying

/-! ### Reading all arguments -/

theorem gives_foldlM {arguments : List RawText} {progress last : Progress}
    (accepted : arguments.foldlM Progress.read progress = .ok last) :
    (∀ flag, last.choices.has flag = true ↔
      progress.choices.has flag = true ∨ Given arguments flag) ∧
    ∀ part, (last.choices.filter = some part ∨ GivesFilter (last.pending []) part ↔
      progress.choices.filter = some part ∨ GivesFilter (progress.pending arguments) part) := by
  induction arguments generalizing progress with
  | nil =>
    obtain rfl := Except.ok.inj accepted
    exact ⟨fun flag => by simp [Given], fun part => Iff.rfl⟩
  | cons argument rest inductionHypothesis =>
    rw [List.foldlM_cons] at accepted
    cases isRead : progress.read argument with
    | error answer =>
      rw [isRead] at accepted
      nomatch accepted
    | ok next =>
      rw [isRead] at accepted
      have step := accepts_of_read isRead
      obtain ⟨flags, filters⟩ := inductionHypothesis accepted
      refine ⟨fun flag => ?_, fun part => (filters part).trans (filter_accepts step)⟩
      rw [flags, has_accepts step, given_cons, or_assoc]

theorem finish_ok {last : Progress} {choices : Choices} (finished : last.finish = .ok choices) :
    last.mode ≠ .value ∧ last.choices = choices := by
  rw [Progress.finish] at finished
  split at finished
  · nomatch finished
  · next notValue => exact ⟨notValue, Except.ok.inj finished⟩

/-- The choices of an accepted list of arguments are what the arguments give. -/
theorem parse_gives {arguments : List RawText} {choices : Choices}
    (accepted : parse arguments = .ok choices) :
    (∀ flag, choices.has flag = true ↔ Given arguments flag) ∧
      ∀ part, choices.filter = some part ↔ GivesFilter arguments part := by
  cases isRead : arguments.foldlM Progress.read {} with
  | error answer =>
    rw [parse, isRead] at accepted
    nomatch accepted
  | ok last =>
    obtain ⟨flags, filters⟩ := gives_foldlM isRead
    rw [parse, isRead] at accepted
    obtain ⟨notValue, rfl⟩ := finish_ok accepted
    have noneBefore : ∀ flag, Choices.has {} flag = false := by
      intro flag
      cases flag <;> rfl
    refine ⟨fun flag => by simpa [noneBefore] using flags flag, fun part => ?_⟩
    simpa [Progress.pending, notValue, GivesFilter] using filters part

end Throughput.CommandLine
