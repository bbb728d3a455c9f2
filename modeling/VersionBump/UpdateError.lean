import VersionBump.FileSystem.Basic

/-!
# What can go wrong

The reasons why an update does not happen, and how each is told.
-/

namespace VersionBump

/-- Why an update does not happen. -/
inductive UpdateError where
  /-- There is not exactly one version. -/
  | usage (program : String)
  /-- A text is no pattern. -/
  | invalidPattern (source : String)
  /-- A file cannot be read or written. -/
  | fileAccess (path : String) (cause : AccessError)

/-- The text of an error. -/
def UpdateError.message : UpdateError → String
  | .usage program => "Usage: " ++ program ++ " X.Y.Z"
  | .invalidPattern source => "Invalid version pattern '" ++ source ++ "'"
  | .fileAccess path _ => "Failed to access file '" ++ path ++ "'"

/-- The text of what lies behind an error, where a file could not be accessed. -/
def UpdateError.cause? : UpdateError → Option String
  | .fileAccess _ cause => some cause.message
  | _ => none

end VersionBump
