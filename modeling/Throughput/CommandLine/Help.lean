/-!
Contract: the texts that describe the program.

Owns:
- `OptionEntry`, an option with its description, and the list of all options;
- `shortHelp`, one line for each option, and `longHelp`, which describes the
  program at length and gives each option a paragraph;
- `versionText`.
-/

namespace Throughput.CommandLine

def programName : String := "ton80"

def programVersion : String := "0.1.0"

def versionText : String :=
  programName ++ " " ++ programVersion ++ "\n"

structure OptionEntry where
  /-- How the option is written, with its letter and its value if it has
  any; options without a letter leave its place blank. -/
  usage : String
  short : String
  long : String
deriving DecidableEq, Repr

/-- An option whose description is the same in both helps. -/
def OptionEntry.same (usage description : String) : OptionEntry :=
  ⟨usage, description, description⟩

/-- All options, in the order in which they are described. -/
def optionEntries : List OptionEntry :=
  [.same "    --filter <FILTER>" "Only run kernels whose name contains this substring",
    .same "    --list" "List kernels without running them",
    .same "    --single" "Measure each kernel once and print microseconds per exercise call",
    .same "    --json" "Print JSON lines instead of the tab-separated report",
    .same "-v, --verbose" "Verbose logging on stderr",
    ⟨"-h, --help", "Print help (see more with '--help')",
      "Print help (see a summary with '-h')"⟩,
    .same "-V, --version" "Print version"]

/-- The line that says how the program is called, and the heading of the
options. -/
def usageText : String :=
  "Usage: " ++ programName ++ " [OPTIONS]\n\nOptions:\n"

def usageWidth : Nat :=
  (optionEntries.map (·.usage.length)).foldl max 0

/-- An option and its description on one line, all descriptions in one
column. -/
def OptionEntry.shortLine (entry : OptionEntry) : String :=
  "  " ++ entry.usage ++
    String.ofList (List.replicate (usageWidth + 2 - entry.usage.length) ' ') ++
    entry.short ++ "\n"

/-- An option with its description indented below it. -/
def OptionEntry.paragraph (entry : OptionEntry) : String :=
  "  " ++ entry.usage ++ "\n          " ++ entry.long ++ "\n"

def shortHelp : String :=
  "Run the bundled micro-benchmark kernels\n\n" ++ usageText ++
    String.join (optionEntries.map (·.shortLine))

def description : String :=
  "Each kernel is measured ten times (100ms warmup + 2000ms exercise per\n" ++
  "measurement) and reported as runs/sec with a 95% confidence interval.\n" ++
  "\n" ++
  "Example:\n" ++
  "    ton80                      # Run every kernel\n" ++
  "    ton80 --filter Tracer      # Only kernels whose name contains 'Tracer'\n" ++
  "    ton80 --single             # One measurement per kernel, raw microseconds\n" ++
  "    ton80 --list               # List kernels without running them\n"

def longHelp : String :=
  description ++ "\n\n" ++ usageText ++
    "\n".intercalate (optionEntries.map (·.paragraph))

end Throughput.CommandLine
