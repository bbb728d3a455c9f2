import VersionBump.CommandLine
import VersionBump.FileSystem.Setup

/-!
# The executable

The outer layer around `CommandLine.run`: it looks at the files of the default targets, runs the
program on what it saw, puts the content of every file that the run writes onto the disk, also where
it is what was there, and prints the two outputs.
-/

namespace VersionBump.Main

/-- Whether a file can be opened for writing. -/
def canWrite (path : String) : IO Bool := do
  try
    let _ ← IO.FS.Handle.mk path .append
    return true
  catch _ => return false

/-- Adds to a file system what the disk has at a path. -/
def load (fs : FileSystem) (path : String) : IO FileSystem := do
  try
    let content ← IO.FS.readBinFile path
    let mode : Mode := ⟨true, ← canWrite path, false⟩
    return (fs.putFile path content).setMode path mode
  catch
    | .permissionDenied .. =>
      return (fs.putFile path ByteArray.empty).setMode path ⟨false, false, false⟩
    | .inappropriateType .. => return fs.makeDirectory path
    | _ => return fs

/-- Puts the content that a path has in a file system onto the disk. -/
def store (fs : FileSystem) (path : String) : IO Unit := do
  match fs.readFile path with
  | .ok content => IO.FS.writeBinFile path content
  | .error _ => return ()

end VersionBump.Main

open VersionBump in
/-- The program. -/
def main (arguments : List String) : IO UInt32 := do
  let paths := defaultTargets.map (·.path)
  let files ← paths.foldlM Main.load FileSystem.blank
  let program := toString (← IO.appPath)
  let settings ← IO.getEnv "RUST_LOG"
  let arguments := arguments.map (·.toUTF8.data.toList)
  let run := CommandLine.run files program arguments settings
  (CommandLine.written files program arguments).forM (Main.store run.files)
  IO.print run.output
  IO.eprint run.errorOutput
  return UInt32.ofNat run.exitStatus
