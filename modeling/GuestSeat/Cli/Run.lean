import GuestSeat.Cli.Help
import GuestSeat.Config.File
import GuestSeat.Json.Writer
import GuestSeat.Trace.Replay

/-!
The command as a function of its arguments and of what stands at the paths that they name. It tells
about itself, prints the default settings, checks settings, or replays a trace and prints the summary.
-/

namespace GuestSeat.Cli

structure Outcome where
  exitCode : Nat
  output : List String := []
  /-- The message on the error output, if there is one. -/
  error : Option String := none
deriving DecidableEq

inductive Place
  | absent
  /-- Something that cannot be read, such as a directory. -/
  | unreadable
  | file (text : String)
deriving DecidableEq

/-- Why the command fails once its arguments are understood. -/
inductive Failure
  | readConfig (path : String)
  | config (path : String)
  | noTrace
  | openTrace (path : String)
  | readTrace (path : String)
  | traceLine (number : Nat)
deriving DecidableEq

def Failure.message : Failure → String
  | .readConfig path => "Failed to read config file: " ++ Text.quoted path
  | .config path => "Failed to parse config file: " ++ Text.quoted path
  | .noTrace => "no trace given; pass a trace file or --print-default-config"
  | .openTrace path => "Failed to open trace: " ++ Text.quoted path
  | .readTrace path => "Failed to read trace: " ++ Text.quoted path
  | .traceLine number => Replay.invalidLine number

/-- The settings at the path that the arguments name. Where nothing stands they are the usual ones. -/
def settings (places : String → Place) (a : Arguments) : Except Failure Config :=
  match a.config with
  | none => .ok {}
  | some path =>
    match places path with
    | .absent => .ok {}
    | .unreadable => .error (.readConfig path)
    | .file text => (Config.ofToml text).mapError fun _ => .config path

/-- The summary of the trace that the arguments name. Settings that cannot be had are replaced by the
usual ones. -/
def replay (places : String → Place) (a : Arguments) : Except Failure ReplaySummary := do
  let config := (settings places a).toOption.getD {}
  let path ← a.trace.elim (.error .noTrace) .ok
  match places path with
  | .absent => .error (.openTrace path)
  | .unreadable => .error (.readTrace path)
  | .file text => (Replay.run config (a.screen.getD defaultScreen) text).mapError .traceLine

/-- What the arguments ask for, as lines of output. -/
def answer (identity : Identity) (places : String → Place) (a : Arguments) :
    Except Failure (List String) := do
  if a.has .help then
    return identity.helpLines
  if a.has .version then
    return [identity.versionLine]
  if a.has .printDefaultConfig then
    let text := ({} : Config).text.splitOn "\n"
    return text
  if a.has .validate then
    let _ ← settings places a
    return []
  let summary ← replay places a
  return Json.writeIndented (fun _ => []) summary.entries

def run (identity : Identity) (places : String → Place) (arguments : List String) : Outcome :=
  match Arguments.ofList arguments with
  | .error e => { exitCode := 2, error := some ("error: " ++ e.message) }
  | .ok a =>
    match answer identity places a with
    | .error e => { exitCode := 1, error := some ("Error: " ++ e.message) }
    | .ok output => { exitCode := 0, output }

def pathsNamed (arguments : List String) : List String :=
  match Arguments.ofList arguments with
  | .error _ => []
  | .ok a => a.config.toList ++ a.trace.toList

end GuestSeat.Cli
