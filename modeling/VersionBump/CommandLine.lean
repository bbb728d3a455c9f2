import VersionBump.Arguments
import VersionBump.Log.Settings
import VersionBump.Update

/-!
# The command line

`CommandLine.run` is the whole program as a function: from the file system, the name of the
program, its arguments and the log settings to the exit status, the two outputs and the file
system afterwards.  `CommandLine.written` tells the paths of the files that it writes.
-/

namespace VersionBump.CommandLine

/-- A finished run of the program. -/
structure Execution where
  exitStatus : Nat
  output : String
  errorOutput : String
  files : FileSystem

/-- The exit status if the arguments are not one version. -/
def usageStatus : Nat := 42

/-- The text about a failed update: what was tried, and the causes. -/
def failureText (version : String) (e : UpdateError) : String :=
  "Error: Failed to update version to " ++ version ++ "\n\nCaused by:\n" ++
    match e.cause? with
    | some cause => "    0: " ++ e.message ++ "\n    1: " ++ cause ++ "\n"
    | none => "    " ++ e.message ++ "\n"

/-- The end of a run without a single version. -/
def usageEnd (fs : FileSystem) (program errorOutput : String) : Execution :=
  ⟨usageStatus, (UpdateError.usage program).message ++ "\n", errorOutput, fs⟩

/-- The update of the default targets, with the log records that the settings show. -/
def update (fs : FileSystem) (settings : Log.Settings) (version : String) : Execution :=
  let run := updateAll fs defaultTargets version
  let log := settings.warnings ++ Log.render (run.log.filter settings.shows)
  match run.result with
  | .ok _ => ⟨0, "", log, run.files⟩
  | .error e => ⟨1, "", log ++ failureText version e, run.files⟩

/-- **The program.**  Options are answered and wrong arguments told before the log settings are
read; the number of versions is looked at after that.

The name of the program is a text.  Started under a name that is none, the program panics before it
looks at its arguments; such a start is not described here. -/
def run (fs : FileSystem) (program : String) (arguments : List (List UInt8))
    (logSettings : Option String) : Execution :=
  match Arguments.parse arguments with
  | .error stop =>
    if stop.isError then usageEnd fs program stop.message else ⟨0, stop.message, "", fs⟩
  | .ok values =>
    let settings := Log.Settings.read logSettings
    match Arguments.single program values with
    | .error _ => usageEnd fs program settings.warnings
    | .ok version => update fs settings version

/-- The paths of the files that the program writes, in order. -/
def written (fs : FileSystem) (program : String) (arguments : List (List UInt8)) : List String :=
  match Arguments.parse arguments with
  | .error _ => []
  | .ok values =>
    match Arguments.single program values with
    | .error _ => []
    | .ok version => writtenPaths fs version defaultTargets

end VersionBump.CommandLine
