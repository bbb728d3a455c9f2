import VersionBump.FileSystem.Basic

/-!
# Preparing a file system

The operations by which a file system comes to be what it is: making directories, files and links,
removing them, and setting modes.  They do nothing where they cannot be carried out.

`FileSystem.files` lists the regular files below the working directory, with their content.
-/

namespace VersionBump.FileSystem

/-- A file system with nothing but an empty working directory. -/
def blank : FileSystem where
  entries := [([], .directory .newDirectory), (["work"], .directory .newDirectory)]
  workingDirectory := ["work"]

/-- Makes the directories that names lead to from `here`, as far as they are missing: the file
system then, and the location of the last directory. -/
def ensureDirectories (fs : FileSystem) (here : Location) : List String → FileSystem × Location
  | [] => (fs, here)
  | name :: names =>
    match fs.follow linkLimit here [name] with
    | .ok ⟨location, none⟩ =>
      ensureDirectories (fs.add location (.directory .newDirectory)) location names
    | .ok ⟨location, some _⟩ => ensureDirectories fs location names
    | .error _ => (fs, here)

/-- Makes a directory and those above it. -/
def makeDirectory (fs : FileSystem) (path : String) : FileSystem :=
  (fs.ensureDirectories (pathStart fs.workingDirectory path) (pathNames path)).1

/-- The names of a path, whether or not a slash follows the last of them. -/
def entryNames (path : String) : List String :=
  (pathNames path).filter (· ≠ "")

/-- Makes the directories above the last name of a path. -/
def makeParent (fs : FileSystem) (path : String) : FileSystem :=
  (fs.ensureDirectories (pathStart fs.workingDirectory path) (entryNames path).dropLast).1

/-- Puts a file at a path, making the directories above it. -/
def putFile (fs : FileSystem) (path : String) (content : ByteArray) : FileSystem :=
  let fs := fs.makeParent path
  match fs.writeFile path content with
  | .ok fs => fs
  | .error _ => fs

/-- The location of the entry that the last name of a path names, the link itself if it is one. -/
def ownLocation? (fs : FileSystem) (path : String) : Option Location :=
  match (entryNames path).getLast?,
      fs.follow linkLimit (pathStart fs.workingDirectory path) (entryNames path).dropLast with
  | some name, .ok ⟨location, some _⟩ => some (location ++ [name])
  | _, _ => none

/-- Removes an entry and all that is below it; of a link, the link only. -/
def remove (fs : FileSystem) (path : String) : FileSystem :=
  match fs.ownLocation? path with
  | some location =>
    { fs with
      entries := fs.entries.filter fun (l, _) => !location.isPrefixOf l
      distinct := fs.distinct.sublist (List.filter_sublist.map _) }
  | none => fs

/-- Puts a link at a path, making the directories above it. -/
def putLink (fs : FileSystem) (path target : String) : FileSystem :=
  let fs := fs.makeParent path
  match fs.ownLocation? path with
  | some location => fs.add location (.link target)
  | none => fs

/-- An entry with another mode, if it has one. -/
def changeMode (mode : Mode) : Entry → Entry
  | .file content _ => .file content mode
  | .directory _ => .directory mode
  | .link target => .link target

/-- Sets the mode of the entry that a path leads to. -/
def setMode (fs : FileSystem) (path : String) (mode : Mode) : FileSystem :=
  match fs.resolve path with
  | .ok place => fs.mapEntries fun l e => if l = place.location then changeMode mode e else e
  | .error _ => fs

/-- **The files.**  The regular files below the working directory: path from there, and content. -/
def files (fs : FileSystem) : List (String × ByteArray) :=
  fs.entries.filterMap fun (location, entry) =>
    match entry with
    | .file content _ =>
      if fs.workingDirectory.isPrefixOf location then
        some ("/".intercalate (location.drop fs.workingDirectory.length), content)
      else none
    | _ => none

end VersionBump.FileSystem
