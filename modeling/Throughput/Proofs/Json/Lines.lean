import Throughput.Proofs.Json.Reading
import Throughput.Proofs.Trace.Pass
import Throughput.Reporter

/-!
Contract: what the JSON lines of a run say.

Owns:
- `Json.printable_line`, no line holds a control character;
- `RecordCodec`, a record and its decoder, and what follows for its lines;
- the codecs of reports, samples and the footer of a pass;
- `json_lines_read_back`, the lines of the JSON outlet decode to what they were
  made of.

Figures have to be finite, since JSON writes `null` for every other double.
-/

namespace Throughput

open Decimal

/-! ### One line -/

/-- A text without control characters. -/
def Printable (text : List Char) : Prop :=
  ∀ character ∈ text, 32 ≤ character.toNat

theorem Printable.append {first second : List Char} (printable : Printable first)
    (printable' : Printable second) : Printable (first ++ second) := by
  intro character isMember
  rcases List.mem_append.mp isMember with inFirst | inSecond
  · exact printable character inFirst
  · exact printable' character inSecond

theorem Printable.cons {character : Char} {text : List Char} (visible : 32 ≤ character.toNat)
    (printable : Printable text) : Printable (character :: text) := by
  intro other isMember
  rcases List.mem_cons.mp isMember with rfl | inText
  · exact visible
  · exact printable other inText

theorem printable_nil : Printable [] :=
  fun _ isMember => nomatch isMember

theorem visible_of_isDigit {character : Char} (isDigit : character.isDigit = true) :
    32 ≤ character.toNat := by
  simp only [Char.isDigit, Bool.and_eq_true, decide_eq_true_eq] at isDigit
  have atLeastZero : 48 ≤ character.toNat := isDigit.1
  omega

theorem visible_digitChar : ∀ digit < 16, 32 ≤ (Nat.digitChar digit).toNat := by
  decide

instance (text : List Char) : Decidable (Printable text) :=
  List.decidableBAll (fun character : Char => 32 ≤ character.toNat) text

theorem printable_escaped (character : Char) : Printable (Json.escaped character) := by
  unfold Json.escaped
  split_ifs with quote backslash backspace formFeed newline carriageReturn tab low
  · decide
  · decide
  · decide
  · decide
  · decide
  · decide
  · decide
  · have digits : Printable
        [Nat.digitChar (character.toNat / 16), Nat.digitChar (character.toNat % 16)] :=
      (printable_nil.cons (visible_digitChar _ (by omega))).cons (visible_digitChar _ (by omega))
    exact (show Printable ['\\', 'u', '0', '0'] by decide).append digits
  · exact printable_nil.cons (Nat.not_lt.mp low)

theorem printable_quoted (text : String) : Printable (Json.quoted text) := by
  have body : Printable (text.toList.flatMap Json.escaped) := by
    intro character isMember
    obtain ⟨original, -, inEscaped⟩ := List.mem_flatMap.mp isMember
    exact printable_escaped original character inEscaped
  exact (body.cons (by decide)).append (by decide)

theorem printable_write_json (value : Float) :
    Printable (NumberFormat.json.write value).toList := by
  by_cases isFinite : value.isFinite = true
  · obtain ⟨negative, magnitude, reading⟩ := reading_of_isFinite isFinite
    intro character isMember
    rcases mem_write reading isMember with isDigit | rfl | rfl | rfl | isPlus
    · exact visible_of_isDigit isDigit
    · decide
    · decide
    · decide
    · rw [List.mem_singleton.mp isPlus]
      decide
  · rw [write_json_of_not_isFinite isFinite]
    decide

mutual

theorem printable_chars : ∀ json : Json, Printable json.chars
  | .count value => fun _ isMember => visible_of_isDigit (isDigit_of_mem_digits isMember)
  | .real value => printable_write_json value
  | .text text => printable_quoted text
  | .list items =>
    ((printable_itemChars items).cons (by decide)).append (printable_nil.cons (by decide))
  | .record members =>
    ((printable_memberChars members).cons (by decide)).append (printable_nil.cons (by decide))

theorem printable_itemChars : ∀ items : List Json, Printable (Json.itemChars items)
  | [] => printable_nil
  | [item] => printable_chars item
  | item :: next :: rest =>
    (printable_chars item).append ((printable_itemChars (next :: rest)).cons (by decide))

theorem printable_memberChars :
    ∀ members : List (String × Json), Printable (Json.memberChars members)
  | [] => printable_nil
  | [(name, value)] =>
    (printable_quoted name).append ((printable_chars value).cons (by decide))
  | (name, value) :: next :: rest =>
    ((printable_quoted name).append ((printable_chars value).cons (by decide))).append
      ((printable_memberChars (next :: rest)).cons (by decide))

end

theorem Json.printable_line (json : Json) : Printable json.line.toList := by
  rw [Json.line, String.toList_ofList]
  exact printable_chars json

/-! ### Members of records -/

namespace Datum

def member (name : String) : Datum → Option Datum
  | .record members => members.lookup name
  | _ => none

def asCount : Datum → Option Nat
  | .count value => some value
  | _ => none

def asReal : Datum → Option Float
  | .real value => some value
  | _ => none

def asText : Datum → Option String
  | .text value => some value
  | _ => none

def asReals : Datum → Option (List Float)
  | .list items => items.mapM asReal
  | _ => none

/-- A figure that may be left out of a record. -/
def optionalReal (name : String) (datum : Datum) : Option (Option Float) :=
  match datum.member name with
  | none => some none
  | some value => value.asReal.map some

theorem asReals_datum {values : List Float}
    (finite : ∀ value ∈ values, value.isFinite = true) :
    (Json.list (values.map .real)).datum.asReals = some values := by
  rw [Json.datum, asReals, itemData_eq_map, List.map_map]
  induction values with
  | nil => rfl
  | cons value values inductionHypothesis =>
      have rest := inductionHypothesis fun other isMember =>
        finite other (List.mem_cons_of_mem _ isMember)
      rw [List.map_cons, List.mapM_cons, rest]
      simp [Json.datum, finite value List.mem_cons_self, asReal]

theorem memberData_append (first second : List (String × Json)) :
    Json.memberData (first ++ second) = Json.memberData first ++ Json.memberData second := by
  simp only [memberData_eq_map, List.map_append]

theorem lookup_optionalMember (name label : String) {figure : Option Float}
    (finite : ∀ value ∈ figure, value.isFinite = true) :
    (Json.memberData (Json.optionalMember label figure)).lookup name =
      if name = label then figure.map .real else none := by
  cases figure with
  | none => simp [Json.optionalMember, Json.memberData]
  | some value =>
      by_cases same : name = label
      · simp [Json.optionalMember, Json.memberData, Json.datum, finite value rfl, same]
      · simp [Json.optionalMember, Json.memberData, same]

end Datum

/-! ### Records and their decoders -/

def Summary.ofDatum (datum : Datum) : Option (Summary Float) := do
  let count ← (← datum.member "count").asCount
  let best ← (← datum.member "best").asReal
  let mean ← (← datum.member "mean").asReal
  let standardDeviation ← datum.optionalReal "std_dev"
  let standardError ← datum.optionalReal "standard_error"
  let critical ← datum.optionalReal "t_critical"
  let confidencePercent ← datum.optionalReal "confidence_percent"
  return {
    count, best, mean, standardDeviation, standardError, critical, confidencePercent }

/-- The figures of a summary. -/
def Summary.figures (summary : Summary Float) : List Float :=
  [summary.best, summary.mean] ++ summary.standardDeviation.toList ++
    summary.standardError.toList ++ summary.critical.toList ++ summary.confidencePercent.toList

theorem Datum.optionalReal_of_member {name : String} {datum : Datum} {figure : Option Float}
    (isMember : datum.member name = figure.map .real) :
    datum.optionalReal name = some figure := by
  rw [optionalReal, isMember]
  cases figure <;> rfl

theorem Summary.member_json {summary : Summary Float}
    (finite : ∀ figure ∈ summary.figures, figure.isFinite = true) (name : String) :
    summary.json.datum.member name =
      if name = "count" then some (.count summary.count)
      else if name = "best" then some (.real summary.best)
      else if name = "mean" then some (.real summary.mean)
      else if name = "std_dev" then summary.standardDeviation.map .real
      else if name = "standard_error" then summary.standardError.map .real
      else if name = "t_critical" then summary.critical.map .real
      else if name = "confidence_percent" then summary.confidencePercent.map .real
      else none := by
  simp only [figures, List.forall_mem_append, List.forall_mem_cons, Option.mem_toList] at finite
  obtain ⟨⟨⟨⟨⟨finiteBest, finiteMean, -⟩, finiteDeviation⟩, finiteError⟩, finiteCritical⟩,
    finitePercent⟩ := finite
  rw [json, Json.datum, Datum.member]
  simp only [Datum.memberData_append, List.lookup_append,
    Datum.lookup_optionalMember _ _ finiteDeviation, Datum.lookup_optionalMember _ _ finiteError,
    Datum.lookup_optionalMember _ _ finiteCritical, Datum.lookup_optionalMember _ _ finitePercent]
  simp only [Json.memberData, Json.datum, finiteBest, finiteMean, if_true]
  by_cases always : name = "count" ∨ name = "best" ∨ name = "mean"
  · rcases always with rfl | rfl | rfl <;> rfl
  · obtain ⟨notCount, notBest, notMean⟩ : name ≠ "count" ∧ name ≠ "best" ∧ name ≠ "mean" := by
      simpa only [not_or] using always
    have notThere : List.lookup name [("count", Datum.count summary.count),
        ("best", .real summary.best), ("mean", .real summary.mean)] = none := by
      simp only [List.lookup_cons, beq_false_of_ne notCount, beq_false_of_ne notBest,
        beq_false_of_ne notMean, List.lookup_nil]
    simp only [notThere, Option.none_or, if_neg notCount, if_neg notBest, if_neg notMean]
    by_cases spread : name = "std_dev" ∨ name = "standard_error" ∨ name = "t_critical"
    · rcases spread with rfl | rfl | rfl <;> simp
    · simp only [not_or] at spread
      simp [spread]

theorem Summary.ofDatum_json {summary : Summary Float}
    (finite : ∀ figure ∈ summary.figures, figure.isFinite = true) :
    Summary.ofDatum summary.json.datum = some summary := by
  have member := Summary.member_json finite
  have deviation := Datum.optionalReal_of_member (member "std_dev")
  have error := Datum.optionalReal_of_member (member "standard_error")
  have critical := Datum.optionalReal_of_member (member "t_critical")
  have percent := Datum.optionalReal_of_member (member "confidence_percent")
  rw [Summary.ofDatum, member, member, member, deviation, error, critical, percent]
  rfl

def Report.ofDatum (datum : Datum) : Option (Report Float) := do
  let name ← (← datum.member "name").asText
  let samples ← (← datum.member "samples").asReals
  let scores ← (← datum.member "scores").asReals
  let meanMicros ← (← datum.member "mean_micros").asReal
  let summary ← Summary.ofDatum (← datum.member "summary")
  return { name, samples, scores, meanMicros, summary }

/-- The figures of a report. -/
def Report.figures (report : Report Float) : List Float :=
  report.samples ++ report.scores ++ report.meanMicros :: report.summary.figures

theorem Report.ofDatum_json {report : Report Float}
    (finite : ∀ figure ∈ report.figures, figure.isFinite = true) :
    Report.ofDatum report.json.datum = some report := by
  simp only [figures, List.forall_mem_append, List.forall_mem_cons] at finite
  obtain ⟨⟨finiteSamples, finiteScores⟩, finiteMean, finiteSummary⟩ := finite
  have samples := Datum.asReals_datum finiteSamples
  have scores := Datum.asReals_datum finiteScores
  have mean : (Json.real report.meanMicros).datum.asReal = some report.meanMicros := by
    rw [Json.datum, if_pos finiteMean]
    rfl
  have summary := Summary.ofDatum_json finiteSummary
  have members :
      report.json.datum.member "name" = some (.text report.name) ∧
      report.json.datum.member "samples" = some (Json.list (report.samples.map .real)).datum ∧
      report.json.datum.member "scores" = some (Json.list (report.scores.map .real)).datum ∧
      report.json.datum.member "mean_micros" = some (Json.real report.meanMicros).datum ∧
      report.json.datum.member "summary" = some report.summary.json.datum :=
    ⟨rfl, rfl, rfl, rfl, rfl⟩
  obtain ⟨isName, isSamples, isScores, isMean, isSummary⟩ := members
  rw [Report.ofDatum, isName, isSamples, isScores, isMean, isSummary]
  simp only [Option.bind_eq_bind, Option.bind_some, Datum.asText, samples, scores, mean, summary]
  rfl

def Sample.ofDatum (datum : Datum) : Option (Sample Float) := do
  let name ← (← datum.member "name").asText
  let micros ← (← datum.member "micros").asReal
  return { name, micros }

/-- What the line at the end of a pass says of its outcome. -/
structure Footer where
  suite : String
  kernels : Nat
  totalNanos : Nat
  startedAt : String
deriving DecidableEq, Repr

def SuiteResult.footer (result : SuiteResult) : Footer where
  suite := result.suite
  kernels := result.reports.length
  totalNanos := result.totalNanos
  startedAt := result.startedAt

def Footer.json (footer : Footer) : Json :=
  .record
    [("suite", .text footer.suite),
      ("kernels", .count footer.kernels),
      ("total_nanos", .count footer.totalNanos),
      ("started_at", .text footer.startedAt)]

def Footer.ofDatum (datum : Datum) : Option Footer := do
  let suite ← (← datum.member "suite").asText
  let kernels ← (← datum.member "kernels").asCount
  let totalNanos ← (← datum.member "total_nanos").asCount
  let startedAt ← (← datum.member "started_at").asText
  return { suite, kernels, totalNanos, startedAt }

/-- A record for a kind of value, and the decoder that gets the value back if
its figures are finite. -/
structure RecordCodec (α : Type) where
  figures : α → List Float
  encode : α → Json
  decode : Datum → Option α
  decode_encode : ∀ value, (∀ figure ∈ figures value, figure.isFinite = true) →
    decode (encode value).datum = some value

namespace RecordCodec

variable {α : Type} (codec : RecordCodec α)

/-- All figures of a value are finite. -/
def IsFinite (value : α) : Prop :=
  ∀ figure ∈ codec.figures value, figure.isFinite = true

instance (value : α) : Decidable (codec.IsFinite value) :=
  List.decidableBAll (fun figure : Float => figure.isFinite = true) (codec.figures value)

/-- The line for a value. -/
def line (value : α) : String :=
  (codec.encode value).line

theorem read_line {value : α} (finite : codec.IsFinite value) :
    (Datum.read (codec.line value)).bind codec.decode = some value := by
  rw [line, Json.read_line, Option.bind_some]
  exact codec.decode_encode value finite

theorem eq_of_line_eq {value other : α} (finite : codec.IsFinite value)
    (finite' : codec.IsFinite other) (same : codec.line other = codec.line value) :
    other = value := by
  have read := codec.read_line finite'
  rw [same, codec.read_line finite] at read
  exact (Option.some.inj read).symm

/-- The outlet for JSON lines answers a notice with one line, and the line
tells all of a value. -/
structure Tells (notice : Notice) (value : α) : Prop where
  printed : Outlet.json.effects notice = [.print (codec.line value)]
  oneLine : Printable (codec.line value).toList
  readBack : (Datum.read (codec.line value)).bind codec.decode = some value
  unique : ∀ other, codec.IsFinite other → codec.line other = codec.line value → other = value

theorem tells {notice : Notice} {value : α}
    (printed : Outlet.json.effects notice = [.print (codec.line value)])
    (finite : codec.IsFinite value) : codec.Tells notice value where
  printed := printed
  oneLine := Json.printable_line _
  readBack := codec.read_line finite
  unique := fun _ finite' same => codec.eq_of_line_eq finite finite' same

end RecordCodec

def Report.codec : RecordCodec (Report Float) where
  figures := Report.figures
  encode := Report.json
  decode := Report.ofDatum
  decode_encode := fun _ => Report.ofDatum_json

def Sample.codec : RecordCodec (Sample Float) where
  figures := fun sample => [sample.micros]
  encode := Sample.json
  decode := Sample.ofDatum
  decode_encode := by
    intro sample finite
    have isFinite := finite sample.micros List.mem_cons_self
    have isMicros : sample.json.datum.member "micros" = some (.real sample.micros) := by
      rw [Sample.json, Json.datum, Datum.member]
      simp only [Json.memberData, Json.datum, isFinite, if_true]
      rfl
    rw [Sample.ofDatum, show sample.json.datum.member "name" = some (.text sample.name) from rfl,
      isMicros]
    rfl

def Footer.codec : RecordCodec Footer where
  figures := fun _ => []
  encode := Footer.json
  decode := Footer.ofDatum
  decode_encode := fun _ _ => rfl

/-- The members of a summary that need two samples. -/
def spreadMembers : List String :=
  ["std_dev", "standard_error", "t_critical", "confidence_percent"]

/-- A report on two samples has all figures, a report on one sample lacks those
of the spread. -/
theorem Report.member_spread {name : String} {samples : List Float} {report : Report Float}
    (isReport : Report.ofSamples name samples = .ok report)
    (finite : Report.codec.IsFinite report) {label : String} (isSpread : label ∈ spreadMembers) :
    (report.summary.json.datum.member label).isSome = true ↔ 2 ≤ samples.length := by
  have finiteSummary : ∀ figure ∈ report.summary.figures, figure.isFinite = true :=
    fun figure isMember =>
      finite figure (List.mem_append_right _ (List.mem_cons_of_mem _ isMember))
  have present : ∀ figure : Option Float,
      (figure.map Datum.real).isSome = true ↔ figure.isSome = true := by
    intro figure
    rw [Option.isSome_map]
  rw [Summary.member_json finiteSummary]
  simp only [spreadMembers, List.mem_cons, List.not_mem_nil, or_false] at isSpread
  rcases isSpread with rfl | rfl | rfl | rfl
  all_goals
    refine (present _).trans (Report.isSome_spread_iff isReport ?_)
    simp

/-- The JSON outlet prints one line for a report on any samples, for a sample
and at the end of a pass, and each line decodes to what it was made of. -/
theorem json_lines_read_back :
    (∀ (name : String) (samples : List Float), samples ≠ [] →
      ∃ report, Report.ofSamples name samples = .ok report ∧
        (Report.codec.IsFinite report →
          Report.codec.Tells (.kernelEnd report) report ∧
          ∀ label ∈ spreadMembers,
            (((Datum.read report.json.line).bind (Datum.member "summary")).bind
              (Datum.member label)).isSome = true ↔ 2 ≤ samples.length)) ∧
    (∀ sample, Sample.codec.IsFinite sample →
      Sample.codec.Tells (.singleSample sample) sample) ∧
    (∀ result, Footer.codec.Tells (.suiteEnd result) result.footer) := by
  refine ⟨fun name samples nonempty => ?_, fun sample finite => ?_, fun result => ?_⟩
  · obtain ⟨report, isReport⟩ := Report.exists_ofSamples name nonempty
    refine ⟨report, isReport, fun finite => ⟨Report.codec.tells rfl finite, fun label isSpread => ?_⟩⟩
    rw [Json.read_line, Option.bind_some]
    exact Report.member_spread isReport finite isSpread
  · exact Sample.codec.tells rfl finite
  · exact Footer.codec.tells rfl fun _ isFigure => nomatch isFigure

/-- A name with a quotation mark, a line break and a bell is told like any
other. -/
theorem odd_name_is_told :
    (∃ report, Report.ofSamples "\"odd\"\n\x07" [5.0, 4.0] = .ok report ∧
      Report.codec.IsFinite report ∧ Report.codec.Tells (.kernelEnd report) report) ∧
    Sample.codec.Tells (.singleSample ⟨"\"odd\"\n\x07", 2.5⟩) ⟨"\"odd\"\n\x07", 2.5⟩ := by
  obtain ⟨reports, samples, -⟩ := json_lines_read_back
  refine ⟨?_, samples ⟨"\"odd\"\n\x07", 2.5⟩ (by decide +kernel)⟩
  obtain ⟨report, isReport, tells⟩ :=
    reports "\"odd\"\n\x07" [5.0, 4.0] (List.cons_ne_nil _ _)
  have finite : Report.codec.IsFinite report := by
    cases isReport
    decide +kernel
  exact ⟨report, isReport, finite, (tells finite).1⟩

end Throughput
