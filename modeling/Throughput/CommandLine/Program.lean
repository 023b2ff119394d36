import Throughput.Bundled
import Throughput.CommandLine.Arguments
import Throughput.CommandLine.Help
import Throughput.LogFilter

/-!
Contract: what the program does for a list of arguments.

Owns:
- `Choices.settings`, the settings that the arguments leave of those of the
  environment;
- `logFilter`, which entries are shown in the log, and `Host.showing`, the host
  that drops the others;
- `listNames`, which prints the names of kernels;
- `execute`, one call of the program on any host;
- `Exit`, the code with which it ends, and its last words.
-/

namespace Throughput

/-- The host that drops the entries of its log which are not shown. -/
def Host.showing
    {m : Type → Type}
    [Monad m]
    (shows : Log.Entry → Bool)
    (host : Host m) :
    Host m :=
  { host with
    record := fun entry => if shows entry then host.record entry else pure () }

namespace CommandLine

/-- How a call of the program ends. -/
structure Exit where
  code : Nat
  /-- What is said about a call that did not succeed. -/
  complaint : Option String := none
deriving DecidableEq, Repr

def Exit.success : Exit := { code := 0 }

/-- A text with a margin before each line but the first. -/
def setIn (margin text : String) : String :=
  ("\n" ++ margin).intercalate (text.splitOn "\n")

/-- The texts of causes, outermost first. They are numbered if there are several. -/
def causesText : List String → String
  | [cause] => "    " ++ setIn "    " cause ++ "\n"
  | causes =>
    String.join (causes.mapIdx fun number cause =>
      String.ofList ((toString number).toList.leftpad 5 ' ') ++ ": " ++
        setIn "       " cause ++ "\n")

/-- The end of a run that stopped early. -/
def Exit.aborted : Halt → Exit
  | .failed failure =>
    { code := 1
      complaint := some
        ("Error: benchmark run aborted\n\nCaused by:\n" ++
          causesText (failure.message :: failure.causes)) }
  | .unfinished =>
    { code := 1, complaint := some "Error: the clock does not move\n" }

/-- The settings that the arguments leave of those of the environment: a
filter replaces the other one, and flags only add to it. -/
def Choices.settings (choices : Choices) (environment : Settings) : Settings :=
  { filter := choices.filter <|> environment.filter
    verbose := environment.verbose || choices.verbose
    json := environment.json || choices.json }

/-- The settings of an environment whose values may be no texts. -/
def environmentSettings (environment : String → Option RawText) : Settings :=
  Settings.ofEnvironment fun name => (environment name).bind RawText.decode?

/-- The level from which on entries are shown, unless the environment says more. -/
def logLevel (settings : Settings) : Log.Level :=
  if settings.verbose then .debug else .warn

/-- The variable that says which entries are shown. -/
def logVariable : String := "RUST_LOG"

/-- Which entries are shown: those that the variable of the log asks for. Where
it is not set, is no text or is not read, it is the level that decides. -/
def logFilter
    (environment : String → Option RawText)
    (settings : Settings) :
    Log.Entry → Bool :=
  let asked := ((environment logVariable).bind RawText.decode?).bind Log.readFilter
  asked.getD fun entry => (logLevel settings).rank ≤ entry.level.rank

variable {m : Type → Type} [Monad m]

/-- Writes texts in order; it does not matter if they are refused. -/
def writeAll (host : Host m) : List String → m Unit
  | [] => pure ()
  | text :: rest => do
    let _ ← host.write text
    writeAll host rest

/-- Prints names, a line for each. The first line that is refused ends the program. -/
def listNames (host : Host m) : List String → m Exit
  | [] => return .success
  | name :: rest => do
    match ← host.write (name ++ "\n") with
    | none => listNames host rest
    | some reason =>
      return { code := 101, complaint := some ("failed printing to stdout: " ++ reason ++ "\n") }

/-- Lists, or measures, the bundled kernels that the settings select. -/
def runChoices
    (host : Host m)
    (patience : Nat)
    (lift : {β : Type} → StateM Bundled.State β → m β)
    (settings : Settings)
    (choices : Choices) :
    m Exit := do
  let suite := Bundled.suite lift settings
  if choices.list then
    listNames host suite.selectedNames
  else if choices.single then
    match ← (suite.measureOnce host patience).run with
    | .ok _ => return .success
    | .error halt => return .aborted halt
  else
    match ← (suite.measureAll host patience).run with
    | .ok _ => return .success
    | .error halt => return .aborted halt

def execute
    (host : Host m)
    (patience : Nat)
    (lift : {β : Type} → StateM Bundled.State β → m β)
    (environment : String → Option RawText)
    (arguments : List RawText) :
    m Exit := do
  match parse arguments with
  | .error (.help long) =>
    writeAll host [if long then longHelp else shortHelp]
    return .success
  | .error .version =>
    writeAll host [versionText]
    return .success
  | .error (.refused error) =>
    return { code := 2, complaint := some ("error: " ++ error.message ++ "\n") }
  | .ok choices =>
    let settings := choices.settings (environmentSettings environment)
    runChoices (host.showing (logFilter environment settings)) patience lift settings choices

end CommandLine

end Throughput
