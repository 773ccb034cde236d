import ChatCluster.Service.Startup
import ChatCluster.Simulation.Action
import Std.Time.DateTime.Timestamp

/-!
# The Program

An instance with its store and bus in the process itself. It starts up as its surroundings say,
runs until its standard input ends, and then takes its leave. Everything here that decides
something is done elsewhere; this is only where the world outside is looked at and written to.

A server for shared state would have to be reached over a network, which is not built in, so none
is ever found.
-/

namespace ChatCluster.Main

/-- The time of the machine, in milliseconds since the Unix epoch. -/
def machineTime : IO Int64 := do
  return Int64.ofInt (← Std.Time.Timestamp.now).toMillisecondsSinceUnixEpoch.toInt

/-- A number that nobody else is likely to draw. -/
def drawNumber : IO Nat := do
  return (← IO.getRandomBytes 15).foldl (fun n b => 256 * n + b.toNat) 0

/-- What is found at a path. -/
def lookAt (path : String) : IO FileContent := do
  match ← (IO.FS.readBinFile path).toBaseIO with
  | .ok content => return .bytes content.toList
  | .error (.noFileOrDirectory ..) => return .missing
  | .error _ => return .unreadable

/-- What is found outside, with the settings file that the command line names. -/
def lookAround (path : Option String) : IO Surroundings := do
  let known ← Surroundings.variableNames.mapM fun name => do return (name, ← IO.getEnv name)
  let home ← IO.getEnv "HOME"
  let content ←
    match path.or (home.map CommandLine.standardPath) with
    | none => pure .missing
    | some path => lookAt path
  return {
    env := fun name => (known.lookup name).join
    home
    file := fun _ => content
    reachable := fun _ => false }

/-- Reads the standard input to its end. -/
partial def awaitEnd (input : IO.FS.Stream) : IO Unit := do
  if (← input.getLine).isEmpty then return
  awaitEnd input

/-- Writes the warnings that have come up. -/
def writeWarnings (s : Simulation) : IO Simulation := do
  let (warnings, s) := s.act Action.takeWarnings
  match warnings with
  | .error _ => return s
  | .ok warnings =>
    for w in warnings do
      IO.println ("WARN " ++ w.text)
    return s

/-- Runs an instance until the standard input ends. The time that has gone by then is made up
    for before it takes its leave. -/
def runInstance (settings : Settings) : IO Unit := do
  let began ← machineTime
  let name := settings.id.text
  let s := Simulation.new settings.opTimeout settings.queueCapacity began began
  let (_, s) := s.act (Action.node name (fun _ => settings.profile) standardQueueCapacity)
  let s ← writeWarnings s
  awaitEnd (← IO.getStdin)
  let elapsed := ((← machineTime) - began).toInt.toNat
  let (_, s) := s.act (Action.advance elapsed true true)
  let (_, s) := s.act (Action.shutdown name)
  let _ ← writeWarnings s

/-- Starts up and runs, and returns the exit code. -/
def run (path : Option String) : IO UInt32 := do
  let startup := (← lookAround path).start path (.spare (← drawNumber))
  for w in startup.warnings do
    IO.println ("WARN " ++ w.text)
  match startup.failure, startup.settings with
  | some failure, _ =>
    IO.eprintln failure.text
    return UInt32.ofNat failure.exitCode
  | none, none => return 0
  | none, some settings =>
    runInstance settings
    return 0

end ChatCluster.Main

/-- The program, given its arguments. -/
def main (arguments : List String) : IO UInt32 := do
  match ChatCluster.CommandLine.configPath arguments with
  | .ok path => ChatCluster.Main.run path
  | .error refusal =>
    IO.eprint refusal.text
    return UInt32.ofNat ChatCluster.CommandLine.Refusal.exitCode
