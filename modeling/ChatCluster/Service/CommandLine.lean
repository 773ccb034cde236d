import ChatCluster.Text.Blank

/-!
# The Command Line

The arguments that the program takes. They are gone through from left to right, and the first that
is wrong, or that asks for help, ends the program with a short text on how to use it.

## Main definitions

* `CommandLine.usage`: How to use the program.
* `CommandLine.Refusal`: Why the program ends before it has begun.
* `CommandLine.configPath`: The settings file that the arguments name.
* `CommandLine.standardPath`: The settings file if they name none.
-/

namespace ChatCluster.CommandLine

/-- How to use the program. -/
def usage : String :=
  "Usage: chatmesh_server [--config path]\n\n" ++
  "Options:\n\t--config  Config file (default: ~/.chatmesh/config.toml)\n" ++
  "\t--help    Show this help\n\n"

/-- Why the program ends before it has begun. -/
inductive Refusal where
  /-- Help was asked for, or the path is missing. -/
  | help
  /-- The path is blank. -/
  | blankPath
  /-- There is no such argument. -/
  | unknown (argument : String)
  deriving DecidableEq, Repr

/-- What is written to the error stream then. -/
def Refusal.text : Refusal → String
  | help => usage
  | blankPath => "--config must be non-empty\n" ++ usage
  | unknown argument => "Unknown argument: " ++ argument ++ "\n" ++ usage

/-- The exit code then. -/
def Refusal.exitCode : Nat := 2

/-- Goes through arguments, with the path named so far. The last one named counts. -/
def configPathFrom (path : Option String) : List String → Except Refusal (Option String)
  | [] => .ok path
  | [argument] =>
    if argument ∈ ["--help", "-h", "--config", "-c"] then .error .help
    else .error (.unknown argument)
  | argument :: value :: rest =>
    if argument ∈ ["--help", "-h"] then .error .help
    else if argument ∈ ["--config", "-c"] then
      if Text.isBlank value then .error .blankPath else configPathFrom (some value) rest
    else .error (.unknown argument)

/-- The settings file that the arguments name, if they name one. -/
def configPath (arguments : List String) : Except Refusal (Option String) :=
  configPathFrom none arguments

/-- A path below a directory. -/
def below (directory name : String) : String :=
  if directory.isEmpty || directory.toList.getLast? = some '/' then directory ++ name
  else directory ++ "/" ++ name

/-- The settings file of a user, given the home directory. -/
def standardPath (home : String) : String :=
  below (below home ".chatmesh") "config.toml"

end ChatCluster.CommandLine
