import VersionBump.Log.Record
import VersionBump.SemanticVersion
import VersionBump.Target

/-!
# Updating files

`updateFile` puts a version into one target: it reads the file, replaces the version in its text
and writes the text back, also if there was nothing to replace.  `updateAll` does so for several
targets in order and stops at the first file that cannot be read or written; what was written
before stays.

Both say, beside the result, what was logged and what the file system is afterwards.  Which files
were written, changed or not, is told by `writtenPaths`.
-/

namespace VersionBump

/-- What was done to one target. -/
structure Substitution where
  path : String
  /-- The number of replacements: none or one. -/
  replaced : Nat
deriving DecidableEq

/-- A finished run: its result, what it logged, and the file system that it left. -/
structure Run (α : Type) where
  result : Except UpdateError α
  log : List Log.Record
  files : FileSystem

/-! ## Log records -/

/-- Reported before a file is read. -/
def readingRecord (path : String) : Log.Record :=
  ⟨.debug, "Reading file: '" ++ path ++ "'"⟩

/-- Reported after a file was read, before it is written: whether a version was found. -/
def foundRecord (path : String) (replaced : Nat) : Log.Record :=
  if replaced = 0 then ⟨.debug, "No version marker found in '" ++ path ++ "'"⟩
  else ⟨.info, "Updated '" ++ path ++ "'"⟩

/-- What is reported before the first file: a warning if the version is no semantic version, and
the version. -/
def openingRecords (version : String) : List Log.Record :=
  (if isSemanticVersion version then []
    else [⟨.warn, "'" ++ version ++ "' is not a semantic version, writing it anyway"⟩]) ++
  [⟨.info, "Updating version to " ++ version⟩]

/-! ## Updates -/

/-- **One file.**  Puts a version into a target. -/
def updateFile (fs : FileSystem) (target : Target) (version : String) : Run Substitution :=
  match fs.readText target.path with
  | .error cause =>
    ⟨.error (.fileAccess target.path cause), [readingRecord target.path], fs⟩
  | .ok text =>
    let (newText, replaced) := replaceFirst target.pattern text version
    let log := [readingRecord target.path, foundRecord target.path replaced]
    match fs.writeFile target.path newText.toUTF8 with
    | .error cause => ⟨.error (.fileAccess target.path cause), log, fs⟩
    | .ok fs => ⟨.ok ⟨target.path, replaced⟩, log, fs⟩

/-- Puts a version into targets, one after the other, up to the first failure. -/
def updateEach (fs : FileSystem) (version : String) : List Target → Run (List Substitution)
  | [] => ⟨.ok [], [], fs⟩
  | target :: targets =>
    let first := updateFile fs target version
    match first.result with
    | .error e => ⟨.error e, first.log, first.files⟩
    | .ok substitution =>
      let rest := updateEach first.files version targets
      ⟨rest.result.map (substitution :: ·), first.log ++ rest.log, rest.files⟩

/-- The paths of the targets that are written, up to the first failure. -/
def writtenPaths (fs : FileSystem) (version : String) : List Target → List String
  | [] => []
  | target :: targets =>
    let first := updateFile fs target version
    match first.result with
    | .error _ => []
    | .ok _ => target.path :: writtenPaths first.files version targets

/-- **All files.**  Reports the version and puts it into every target. -/
def updateAll (fs : FileSystem) (targets : List Target) (version : String) :
    Run (List Substitution) :=
  let run := updateEach fs version targets
  { run with log := openingRecords version ++ run.log }

end VersionBump
