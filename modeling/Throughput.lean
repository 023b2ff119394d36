import Throughput.CommandLine.Program
import Throughput.Main
import Throughput.Rehearsal.Script
import Throughput.Stopwatch
import Throughput.Proofs.Blame
import Throughput.Proofs.Containment
import Throughput.Proofs.CycleLog
import Throughput.Proofs.Decimal.Digits
import Throughput.Proofs.Decimal.Interval
import Throughput.Proofs.Decimal.Nearest
import Throughput.Proofs.Decimal.Shortest
import Throughput.Proofs.Decimal.Word
import Throughput.Proofs.Fanout
import Throughput.Proofs.Filtering
import Throughput.Proofs.LargerMinimum
import Throughput.Proofs.Lifecycle
import Throughput.Proofs.Modes
import Throughput.Proofs.Noninterference
import Throughput.Proofs.Order
import Throughput.Proofs.Output
import Throughput.Proofs.Paired
import Throughput.Proofs.Refusal
import Throughput.Proofs.Resetting
import Throughput.Proofs.TimingLoop
import Throughput.Proofs.Decimal.Reader
import Throughput.Proofs.Decimal.RoundTrip
import Throughput.Proofs.Json.Datum
import Throughput.Proofs.Json.Reading
import Throughput.Proofs.Json.Lines
import Throughput.Proofs.Decimal.Neutral
import Throughput.Proofs.ReportLine
import Throughput.Proofs.Primes.Arithmetic
import Throughput.Proofs.Primes.Overrun
import Throughput.Proofs.Primes.Protocol
import Throughput.Proofs.Statistics.Figures
import Throughput.Proofs.Statistics.Spread
import Throughput.Proofs.Statistics.Averages
import Throughput.Proofs.Statistics.Symmetry
import Throughput.Proofs.SelfCheck
import Throughput.Proofs.RayTracing.Shadow
import Throughput.Proofs.RayTracing.Brightness
import Throughput.Proofs.RayTracing.Rendering
import Throughput.Proofs.Progress
import Throughput.Proofs.RunCount
import Throughput.Proofs.Layers
import Throughput.Proofs.CommandLine.Given
import Throughput.Proofs.CommandLine.Combining
import Throughput.Proofs.RayTracing.Closest
