import Throughput.Proofs.Decimal.Neutral
import Throughput.Proofs.Decimal.RoundTrip
import Throughput.Proofs.Trace.Pass
import Throughput.Report

/-!
Contract: what the report line for readers says.

Owns:
- `lineFields`, a line split at its last four tabs;
- `Told`, the data of a report that a reader finds in its line, and `Told.read`,
  which finds them;
- `report_line_reads_back`, for reports on any samples under any name.

The name is not escaped: it may hold tabs. All other parts hold none, which is
why the line is read from its end.
-/

namespace Throughput

open Decimal

/-! ### Splitting from the end -/

def beforeLastTab (text : List Char) : List Char :=
  (text.reverse.dropWhile (· ≠ '\t')).tail.reverse

def afterLastTab (text : List Char) : List Char :=
  (text.reverse.takeWhile (· ≠ '\t')).reverse

/-- The parts of a text around so many of its tabs, the last ones. -/
def lastFields : Nat → List Char → List (List Char)
  | 0, text => [text]
  | count + 1, text => lastFields count (beforeLastTab text) ++ [afterLastTab text]

theorem lastFields_append (count : ℕ) (before : List Char) {field : List Char}
    (noTab : '\t' ∉ field) :
    lastFields (count + 1) (before ++ '\t' :: field) = lastFields count before ++ [field] := by
  have passes : ∀ character ∈ field.reverse, decide (character ≠ '\t') = true := by
    intro character isMember
    refine decide_eq_true ?_
    rintro rfl
    exact noTab (List.mem_reverse.mp isMember)
  have backward : (before ++ '\t' :: field).reverse = field.reverse ++ '\t' :: before.reverse := by
    simp
  rw [lastFields, beforeLastTab, afterLastTab, backward, List.dropWhile_append_of_pos passes,
    List.takeWhile_append_of_pos passes]
  simp

/-- A line split at its last four tabs. -/
def lineFields (line : String) : List String :=
  (lastFields 4 line.toList).map String.ofList

/-! ### The texts of figures -/

/-- A text without the marks that a line puts between its parts. -/
def Unmarked (text : List Char) : Prop :=
  ∀ character ∈ text, character ≠ '\t' ∧ character ≠ '±'

instance (text : List Char) : Decidable (Unmarked text) :=
  List.decidableBAll (fun character : Char => character ≠ '\t' ∧ character ≠ '±') text

theorem Unmarked.append {first second : List Char} (unmarked : Unmarked first)
    (unmarked' : Unmarked second) : Unmarked (first ++ second) := by
  intro character isMember
  rcases List.mem_append.mp isMember with inFirst | inSecond
  · exact unmarked character inFirst
  · exact unmarked' character inSecond

theorem unmarked_of_isDigit {character : Char} (isDigit : character.isDigit = true) :
    character ≠ '\t' ∧ character ≠ '±' := by
  constructor <;> (rintro rfl; exact absurd isDigit (by decide))

theorem unmarked_of_digits {text : List Char}
    (allDigits : ∀ character ∈ text, character.isDigit = true) : Unmarked text :=
  fun character isMember => unmarked_of_isDigit (allDigits character isMember)

/-- The runs of digits of a finite double with decimal places. -/
theorem exists_fixed {places : ℕ} (positive : 0 < places) {value : Float} {negative : Bool}
    {magnitude : Decimal.Dyadic} (isFinite : reading value = .finite negative magnitude) :
    ∃ whole fraction,
      (fixed places value).toList =
        (if negative then ['-'] else []) ++ (whole ++ '.' :: fraction) ∧
      isWhole whole = true ∧ ∀ character ∈ fraction, character.isDigit = true := by
  obtain ⟨whole, fraction, text, proper, allDigits, -, -⟩ := exists_pointed
    (roundedQuotient .toEven (magnitude.quotient places).1 (magnitude.quotient places).2) positive
  refine ⟨whole, fraction, ?_, proper, allDigits⟩
  rw [fixed, isFinite, fixedBinary]
  simp only [String.toList_ofList, Decimal.Dyadic.fixedDigits, text]
  cases negative <;> rfl

theorem unmarked_fixed (places : ℕ) (positive : 0 < places) (value : Float) :
    Unmarked (fixed places value).toList := by
  cases what : reading value with
  | notANumber =>
      rw [fixed, what]
      exact (by decide : Unmarked "NaN".toList)
  | infinite negative =>
      rw [fixed, what]
      cases negative with
      | false => exact (by decide : Unmarked "inf".toList)
      | true => exact (by decide : Unmarked "-inf".toList)
  | finite negative magnitude =>
      obtain ⟨whole, fraction, text, proper, allDigits⟩ := exists_fixed positive what
      rw [text]
      have sign : Unmarked (if negative then ['-'] else []) := by cases negative <;> decide
      have point : Unmarked ['.'] := by decide
      exact sign.append ((unmarked_of_digits (isDigit_of_isWhole proper)).append
        (point.append (unmarked_of_digits allDigits)))

/-- There is a digit before a point. -/
theorem head_fixed {places : ℕ} (positive : 0 < places) (value : Float) :
    (fixed places value).toList.head? ≠ some '.' := by
  cases what : reading value with
  | notANumber =>
      rw [fixed, what]
      exact (by decide : "NaN".toList.head? ≠ some '.')
  | infinite negative =>
      rw [fixed, what]
      cases negative with
      | false => exact (by decide : "inf".toList.head? ≠ some '.')
      | true => exact (by decide : "-inf".toList.head? ≠ some '.')
  | finite negative magnitude =>
      obtain ⟨whole, fraction, text, proper, -⟩ := exists_fixed positive what
      rw [text]
      cases negative with
      | true => exact (by decide : some '-' ≠ some '.')
      | false =>
          cases whole with
          | nil => cases proper
          | cons first whole =>
              rintro ⟨⟩
              exact absurd (isDigit_of_isWhole proper '.' List.mem_cons_self) (by decide)

theorem unmarked_write_plain (value : Float) :
    Unmarked (NumberFormat.plain.write value).toList := by
  cases what : reading value with
  | notANumber =>
      rw [NumberFormat.write, what]
      decide
  | infinite negative =>
      rw [NumberFormat.write, what]
      cases negative <;> decide
  | finite negative magnitude =>
      intro character isMember
      rcases mem_write what isMember with isDigit | rfl | rfl | rfl | inPlus
      · exact unmarked_of_isDigit isDigit
      · decide
      · decide
      · decide
      · cases inPlus

/-! ### The best score -/

/-- Puts the zero back that a report leaves out before a point. -/
def restoreZero : List Char → List Char
  | '.' :: places => '0' :: '.' :: places
  | text => text

theorem restoreZero_of_head {text : List Char} (noPoint : text.head? ≠ some '.') :
    restoreZero text = text := by
  unfold restoreZero
  split
  · exact absurd rfl noPoint
  · rfl

theorem restoreZero_bestText (best : Float) :
    restoreZero (Summary.bestText best).toList = (fixed 2 best).toList := by
  unfold Summary.bestText
  simp only
  split
  · next places text => rw [String.toList_ofList, text, restoreZero]
  · exact restoreZero_of_head (head_fixed (by decide) best)

theorem unmarked_bestText (best : Float) : Unmarked (Summary.bestText best).toList := by
  have unmarked := unmarked_fixed 2 (by decide) best
  unfold Summary.bestText
  simp only
  split
  · next places text =>
      rw [String.toList_ofList]
      rw [text] at unmarked
      exact fun character isMember => unmarked character (List.mem_cons_of_mem _ isMember)
  · exact unmarked

/-! ### The line and what it tells -/

namespace Summary

/-- What stands between the best score and the mean of the samples. -/
def intervalField (summary : Summary Float) : String :=
  summary.confidencePercent.elim "" fun percent =>
    " (" ++ fixed 2 summary.mean ++ "±" ++ fixed 1 percent ++ "%)"

theorem intervalField_toList (summary : Summary Float) {percent : Float}
    (isPercent : summary.confidencePercent = some percent) :
    summary.intervalField.toList = ' ' :: '(' :: ((fixed 2 summary.mean).toList ++
      '±' :: ((fixed 1 percent).toList ++ ['%', ')'])) := by
  rw [intervalField, isPercent, Option.elim_some]
  simp

theorem text_metric (summary : Summary Float) :
    (summary.text Report.metric).toList =
      (bestText summary.best).toList ++ ' ' :: '\t' :: summary.intervalField.toList := by
  unfold text Report.metric
  cases isPercent : summary.confidencePercent with
  | none => simp [intervalField, isPercent]
  | some percent =>
      rw [intervalField_toList summary isPercent]
      simp [intervalText]

theorem noTab_intervalField (summary : Summary Float) : '\t' ∉ summary.intervalField.toList := by
  cases isPercent : summary.confidencePercent with
  | none => simp [intervalField, isPercent]
  | some percent =>
      have mean := unmarked_fixed 2 (by decide) summary.mean
      have width := unmarked_fixed 1 (by decide) percent
      rw [intervalField_toList summary isPercent]
      simp only [List.mem_cons, List.mem_append, List.not_mem_nil, or_false, not_or]
      refine ⟨by decide, by decide, fun inMean => ?_, by decide, fun inWidth => ?_, by decide,
        by decide⟩
      · exact (mean _ inMean).1 rfl
      · exact (width _ inWidth).1 rfl

end Summary

/-- What a reader finds in a report line. -/
structure Told where
  name : String
  /-- The best score with two places. -/
  best : String
  /-- The mean score with two places. -/
  mean : String
  /-- Half the width of the interval with one place, if there is an interval. -/
  confidence : Option String
  meanMicros : Float
deriving DecidableEq

def Report.told (report : Report Float) : Told where
  name := report.name
  best := fixed 2 report.summary.best
  mean := fixed 2 report.summary.mean
  confidence := report.summary.confidencePercent.map (fixed 1)
  meanMicros := report.meanMicros

/-- The mean and the width in an interval. -/
def readInterval : List Char → Option (List Char × List Char)
  | ' ' :: '(' :: text =>
    some (text.takeWhile (· ≠ '±'), (text.dropWhile (· ≠ '±')).tail.dropLast.dropLast)
  | _ => none

/-- What a line tells. The mean score of a single sample is not in the line; it
is the score of that sample. -/
def Told.read (line : String) : Option Told :=
  match lastFields 4 line.toList with
  | [title, best, interval, _, meanMicros] => do
    let meanMicros ← readPlain (String.ofList meanMicros)
    let spread := (readInterval interval).map fun spread =>
      (String.ofList spread.1, String.ofList spread.2)
    return {
      name := String.ofList (title.take (title.length - ":(runs/sec)".toList.length))
      best := String.ofList (restoreZero best.dropLast)
      mean := (spread.map (·.1)).getD (fixed 2 (score meanMicros))
      confidence := spread.map (·.2)
      meanMicros }
  | _ => none

theorem readInterval_intervalField (summary : Summary Float) :
    readInterval summary.intervalField.toList = summary.confidencePercent.map fun percent =>
      ((fixed 2 summary.mean).toList, (fixed 1 percent).toList) := by
  cases isPercent : summary.confidencePercent with
  | none => rw [Summary.intervalField, isPercent]; rfl
  | some percent =>
      have passes : ∀ character ∈ (fixed 2 summary.mean).toList,
          decide (character ≠ '±') = true := fun character isMember =>
        decide_eq_true (unmarked_fixed 2 (by decide) summary.mean character isMember).2
      rw [summary.intervalField_toList isPercent, readInterval,
        List.takeWhile_append_of_pos passes, List.dropWhile_append_of_pos passes]
      simp

/-- The parts of a report line, for any name. -/
theorem Report.lastFields_line (report : Report Float) :
    lastFields 4 report.line.toList =
      [report.name.toList ++ ":(runs/sec)".toList,
        (Summary.bestText report.summary.best).toList ++ [' '],
        report.summary.intervalField.toList, "avg us:".toList,
        (NumberFormat.plain.write report.meanMicros).toList] := by
  have line : report.line.toList =
      (((report.name.toList ++ ":(runs/sec)".toList ++
        '\t' :: ((Summary.bestText report.summary.best).toList ++ [' '])) ++
        '\t' :: report.summary.intervalField.toList) ++ '\t' :: "avg us:".toList) ++
        '\t' :: (NumberFormat.plain.write report.meanMicros).toList := by
    simp [Report.line, Report.statisticsText, Summary.text_metric]
  have best : '\t' ∉ (Summary.bestText report.summary.best).toList ++ [' '] := by
    intro isMember
    rcases List.mem_append.mp isMember with inBest | isBlank
    · exact (unmarked_bestText _ _ inBest).1 rfl
    · exact absurd isBlank (by decide)
  have mean : '\t' ∉ (NumberFormat.plain.write report.meanMicros).toList :=
    fun isMember => (unmarked_write_plain _ _ isMember).1 rfl
  rw [line, lastFields_append 3 _ mean, lastFields_append 2 _ (by decide),
    lastFields_append 1 _ report.summary.noTab_intervalField, lastFields_append 0 _ best]
  rfl

/-- Without an interval there is one sample, and the mean score is its score. -/
theorem Report.mean_of_no_interval {name : String} {samples : List Float} {report : Report Float}
    (isReport : Report.ofSamples name samples = .ok report)
    (noInterval : report.summary.confidencePercent = none) :
    report.summary.mean = score report.meanMicros := by
  match samples with
  | [] => cases isReport
  | [sample] =>
      cases isReport
      change mean [score sample] = score (mean [sample])
      rw [mean_singleton, mean_singleton]
  | _ :: _ :: _ =>
      cases isReport
      cases noInterval

/-- A reader finds the data of a report in its line. -/
theorem Told.read_line {name : String} {samples : List Float} {report : Report Float}
    (isReport : Report.ofSamples name samples = .ok report) :
    Told.read report.line = some report.told := by
  have isName : (report.name.toList ++ ":(runs/sec)".toList).take
      ((report.name.toList ++ ":(runs/sec)".toList).length - ":(runs/sec)".toList.length) =
      report.name.toList := by
    rw [List.length_append, Nat.add_sub_cancel, List.take_left]
  rw [Told.read, report.lastFields_line]
  simp only [String.ofList_toList, readPlain_write, Option.bind_eq_bind, Option.bind_some, isName,
    List.dropLast_concat, restoreZero_bestText, readInterval_intervalField, Option.map_map]
  cases isPercent : report.summary.confidencePercent with
  | none =>
      rw [Report.told, isPercent, Report.mean_of_no_interval isReport isPercent]
      rfl
  | some percent =>
      rw [Report.told, isPercent]
      simp only [Option.map_some, Function.comp, String.ofList_toList, Option.getD_some]
      rfl

/-- Four tabs stand after the name. -/
theorem Report.exists_tail (report : Report Float) :
    ∃ tail, report.line = report.name ++ tail ∧ tail.toList.count '\t' = 4 := by
  refine ⟨":(runs/sec)\t" ++ report.statisticsText ++ "\tavg us:\t" ++
    NumberFormat.plain.write report.meanMicros, ?_, ?_⟩
  · simp [Report.line, String.append_assoc]
  · have best : (Summary.bestText report.summary.best).toList.count '\t' = 0 :=
      List.count_eq_zero.mpr fun isMember => (unmarked_bestText _ _ isMember).1 rfl
    have interval : report.summary.intervalField.toList.count '\t' = 0 :=
      List.count_eq_zero.mpr report.summary.noTab_intervalField
    have mean : (NumberFormat.plain.write report.meanMicros).toList.count '\t' = 0 :=
      List.count_eq_zero.mpr fun isMember => (unmarked_write_plain _ _ isMember).1 rfl
    have title : ":(runs/sec)\t".toList.count '\t' = 1 := by decide
    have label : "\tavg us:\t".toList.count '\t' = 2 := by decide
    simp only [String.toList_append, List.count_append, Report.statisticsText,
      Summary.text_metric, List.count_cons, best, interval, mean, title, label]
    decide

/-- The report line on any samples, under any name: it has four tabs after the
name, the parts around them are what they seem, and what a reader finds in them
is what the report says. -/
theorem report_line_reads_back (name : String) {samples : List Float} (nonempty : samples ≠ []) :
    ∃ report, Report.ofSamples name samples = .ok report ∧
      (∃ tail, report.line = name ++ tail ∧ tail.toList.count '\t' = 4) ∧
      lineFields report.line =
        [name ++ ":(runs/sec)", Summary.bestText report.summary.best ++ " ",
          report.summary.intervalField, "avg us:",
          NumberFormat.plain.write report.meanMicros] ∧
      (report.summary.confidencePercent.isSome = true ↔ 2 ≤ samples.length) ∧
      Told.read report.line = some report.told ∧
      ∀ name' samples' report', Report.ofSamples name' samples' = .ok report' →
        report'.told ≠ report.told → report'.line ≠ report.line := by
  obtain ⟨report, isReport⟩ := Report.exists_ofSamples name nonempty
  obtain ⟨rfl, -⟩ := Report.fields_of_ofSamples isReport
  refine ⟨report, isReport, report.exists_tail, ?_, ?_, Told.read_line isReport, ?_⟩
  · rw [lineFields, report.lastFields_line]
    simp
  · exact Report.isSome_spread_iff isReport (by simp)
  · intro name' samples' report' isReport' differ sameLine
    have read := Told.read_line isReport'
    rw [sameLine, Told.read_line isReport] at read
    exact differ (Option.some.inj read).symm

/-- A name that holds tabs and a colon is found again. -/
theorem tabbed_name_reads_back :
    ∃ report, Report.ofSamples "a\tb:\tc" [5.0, 4.0] = .ok report ∧
      report.line = "a\tb:\tc:(runs/sec)\t250000.00 \t (225000.00±141.2%)\tavg us:\t4.5" ∧
      Told.read report.line = some report.told := by
  obtain ⟨report, isReport, -, -, -, read, -⟩ :=
    @report_line_reads_back "a\tb:\tc" [5.0, 4.0] (List.cons_ne_nil _ _)
  refine ⟨report, isReport, ?_, read⟩
  cases isReport
  decide +kernel

end Throughput
