import Throughput.Decimal.Fixed
import Throughput.Json
import Throughput.Statistics

/-!
Contract: the results of measuring, and the two forms in which they are
written: a tab-separated line for readers and a JSON value for programs.

Owns:
- `Report`, the outcome of a full set of samples of one kernel;
- `Sample`, the outcome of a single cycle;
- `SuiteResult`, the outcome of a pass over all kernels;
- the line and the JSON value of each.
-/

namespace Throughput

open Decimal

/-- The outcome of a full set of samples of one kernel. -/
structure Report (α : Type) where
  name : String
  /-- Microseconds per call, in the order measured. -/
  samples : List α
  /-- Calls per second, one for each sample. -/
  scores : List α
  meanMicros : α
  summary : Summary α

/-- The report on samples, of which there must be one at least. -/
def Report.ofSamples
    {α : Type}
    [Scalar α]
    (name : String)
    (samples : List α) :
    Except Failure (Report α) := do
  let scores := samples.map score
  let summary ← Summary.ofScores scores
  return { name, samples, scores, meanMicros := mean samples, summary }

namespace Summary

/-- The best score with two places; a zero before the point is left out. -/
def bestText (best : Float) : String :=
  let text := fixed 2 best
  match text.toList with
  | '0' :: '.' :: places => String.ofList ('.' :: places)
  | _ => text

/-- The confidence interval in parentheses: the mean with two places and its
half width in percent with one. -/
def intervalText (mean confidencePercent : Float) : String :=
  "(" ++ fixed 2 mean ++ "±" ++ fixed 1 confidencePercent ++ "%)"

/-- The best score in a metric, followed by the confidence interval if there
is one. -/
def text (summary : Summary Float) (metric : String) : String :=
  let scoreText := bestText summary.best ++ " " ++ metric
  match summary.confidencePercent with
  | none => scoreText
  | some percent => scoreText ++ " " ++ intervalText summary.mean percent

/-- The summary as a JSON record. Figures that a single score lacks are left
out. -/
def json (summary : Summary Float) : Json :=
  .record
    ([("count", .count summary.count),
      ("best", .real summary.best),
      ("mean", .real summary.mean)] ++
      Json.optionalMember "std_dev" summary.standardDeviation ++
      Json.optionalMember "standard_error" summary.standardError ++
      Json.optionalMember "t_critical" summary.critical ++
      Json.optionalMember "confidence_percent" summary.confidencePercent)

end Summary

namespace Report

/-- What stands between the best score and the interval in a report line. -/
def metric : String := "\t"

/-- The statistics part of a report line. -/
def statisticsText (report : Report Float) : String :=
  report.summary.text metric

/-- The report line: name, statistics and the mean of the samples. -/
def line (report : Report Float) : String :=
  report.name ++ ":(runs/sec)\t" ++ report.statisticsText ++
    "\tavg us:\t" ++ NumberFormat.plain.write report.meanMicros

def json (report : Report Float) : Json :=
  .record
    [("name", .text report.name),
      ("samples", .list (report.samples.map .real)),
      ("scores", .list (report.scores.map .real)),
      ("mean_micros", .real report.meanMicros),
      ("summary", report.summary.json)]

end Report

/-- The outcome of a single cycle of one kernel. -/
structure Sample (α : Type) where
  name : String
  /-- Microseconds per call. -/
  micros : α

namespace Sample

/-- The sample line: name and microseconds. -/
def line (sample : Sample Float) : String :=
  sample.name ++ "(us)\t" ++ NumberFormat.plain.write sample.micros

def json (sample : Sample Float) : Json :=
  .record [("name", .text sample.name), ("micros", .real sample.micros)]

end Sample

/-- The outcome of a pass over the kernels of a suite. -/
structure SuiteResult where
  suite : String
  /-- One report for each kernel, in order. -/
  reports : List (Report Float)
  totalNanos : Nat
  /-- When the pass started, in milliseconds since 1970. -/
  startedAt : String

/-- The JSON record that closes a pass. -/
def SuiteResult.json (result : SuiteResult) : Json :=
  .record
    [("suite", .text result.suite),
      ("kernels", .count result.reports.length),
      ("total_nanos", .count result.totalNanos),
      ("started_at", .text result.startedAt)]

end Throughput
