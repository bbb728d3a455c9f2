import VersionBump.Text.Fields

/-!
# Files, directories and links

A file system maps locations to entries.  A location is the list of names that leads from the root
to an entry without passing a link.  No two locations share a file, so there are no hard links; an
entry is a regular file, a directory or a symbolic link, and no device, pipe or socket; and names
and link targets are texts.

A path is a text that a program gives to reach an entry: names separated by slashes, from the root
if it starts with a slash, else from the working directory, with `.` for the directory at hand,
`..` for the one above, and links followed on the way.  `FileSystem.resolve` says where a path
leads.

`readFile` and `writeFile` are the two operations on files.  `writeFile` leaves everything but the
content of the one file as it was, and makes the file if there is none.

A file system is changed by `mapEntries`, which puts other entries in the place of those that are
there, or by `add`, and both are known by what `get?` then finds.
-/

namespace VersionBump

/-- Why an entry cannot be accessed. -/
inductive AccessError where
  | notFound
  | permissionDenied
  | isADirectory
  | notADirectory
  | notText
  | nulInPath
  | nameTooLong
  | tooManyLinks
deriving DecidableEq

/-- The text of an access error. -/
def AccessError.message : AccessError → String
  | .notFound => "No such file or directory (os error 2)"
  | .permissionDenied => "Permission denied (os error 13)"
  | .isADirectory => "Is a directory (os error 21)"
  | .notADirectory => "Not a directory (os error 20)"
  | .notText => "stream did not contain valid UTF-8"
  | .nulInPath => "file name contained an unexpected NUL byte"
  | .nameTooLong => "File name too long (os error 36)"
  | .tooManyLinks => "Too many levels of symbolic links (os error 40)"

/-- The names that lead from the root to an entry. -/
abbrev Location := List String

/-- What may be done with an entry. -/
structure Mode where
  /-- A file may be read, a directory listed. -/
  read : Bool
  /-- A file may be written, a directory changed. -/
  write : Bool
  /-- A directory may be passed through. -/
  search : Bool
deriving DecidableEq

/-- An entry of a file system. -/
inductive Entry where
  | file (content : ByteArray) (mode : Mode)
  | directory (mode : Mode)
  | link (target : String)

/-- A file system and the directory from which relative paths start. -/
@[ext] structure FileSystem where
  entries : List (Location × Entry)
  workingDirectory : Location
  /-- Each location is listed once. -/
  distinct : (entries.map Prod.fst).Nodup := by decide

/-- An entry with other content, if it is a file. -/
def Entry.withContent (content : ByteArray) : Entry → Entry
  | .file _ mode => .file content mode
  | entry => entry

namespace Mode

/-- The mode of a new file. -/
def newFile : Mode := ⟨true, true, false⟩

/-- The mode of a new directory. -/
def newDirectory : Mode := ⟨true, true, true⟩

end Mode

namespace FileSystem

/-- The entry at a location. -/
def get? (fs : FileSystem) (location : Location) : Option Entry :=
  fs.entries.lookup location

theorem get?_eq_some_iff {fs : FileSystem} {location : Location} {entry : Entry} :
    fs.get? location = some entry ↔ (location, entry) ∈ fs.entries := by
  rw [get?, List.lookup_eq_some_iff]
  constructor
  · rintro ⟨before, after, hentries, -⟩
    rw [hentries]
    exact List.mem_append_right _ List.mem_cons_self
  · intro hmem
    obtain ⟨before, after, hentries⟩ := List.append_of_mem hmem
    refine ⟨before, after, hentries, fun e he => ?_⟩
    have hdistinct := fs.distinct
    rw [hentries, List.map_append, List.map_cons] at hdistinct
    have hne := (List.nodup_append.1 hdistinct).2.2 e.1 (List.mem_map_of_mem he) location
      List.mem_cons_self
    simpa using hne.symm

theorem get?_eq_none_iff {fs : FileSystem} {location : Location} :
    fs.get? location = none ↔ location ∉ fs.entries.map Prod.fst := by
  rw [Option.eq_none_iff_forall_ne_some, List.mem_map]
  constructor
  · rintro hnone ⟨e, he, rfl⟩
    exact hnone e.2 (get?_eq_some_iff.2 he)
  · rintro hnot entry hentry
    exact hnot ⟨_, get?_eq_some_iff.1 hentry, rfl⟩

/-! ## Other entries -/

/-- The file system with another entry at each location that has one. -/
def mapEntries (fs : FileSystem) (f : Location → Entry → Entry) : FileSystem where
  entries := fs.entries.map fun e => (e.1, f e.1 e.2)
  workingDirectory := fs.workingDirectory
  distinct := by
    rw [List.map_map]
    exact fs.distinct

theorem get?_mapEntries (fs : FileSystem) (f : Location → Entry → Entry) (location : Location) :
    (fs.mapEntries f).get? location = (fs.get? location).map (f location) := by
  cases hget : fs.get? location with
  | none =>
    rw [get?_eq_none_iff] at hget
    rw [Option.map_none, get?_eq_none_iff, mapEntries, List.map_map]
    exact hget
  | some entry =>
    rw [get?_eq_some_iff] at hget
    rw [Option.map_some, get?_eq_some_iff]
    exact List.mem_map.2 ⟨_, hget, rfl⟩

theorem mapEntries_mapEntries (fs : FileSystem) (f g : Location → Entry → Entry) :
    (fs.mapEntries f).mapEntries g = fs.mapEntries fun l e => g l (f l e) := by
  refine FileSystem.ext ?_ rfl
  simp only [mapEntries, List.map_map]
  rfl

/-- Only what is done to the entries that are there matters. -/
theorem mapEntries_congr {fs : FileSystem} {f g : Location → Entry → Entry}
    (h : ∀ l e, fs.get? l = some e → f l e = g l e) : fs.mapEntries f = fs.mapEntries g := by
  refine FileSystem.ext (List.map_congr_left fun e he => ?_) rfl
  rw [h e.1 e.2 (get?_eq_some_iff.2 he)]

theorem mapEntries_eq_self {fs : FileSystem} {f : Location → Entry → Entry}
    (h : ∀ l e, fs.get? l = some e → f l e = e) : fs.mapEntries f = fs := by
  rw [mapEntries_congr h]
  exact FileSystem.ext (List.map_id _) rfl

/-- The file system with a new entry, unless the location has one. -/
def add (fs : FileSystem) (location : Location) (entry : Entry) : FileSystem :=
  if h : location ∈ fs.entries.map Prod.fst then fs
  else
    { fs with
      entries := fs.entries ++ [(location, entry)]
      distinct := by
        rw [List.map_append, List.nodup_append]
        refine ⟨fs.distinct, List.pairwise_singleton _ _, fun l hl l' hl' => ?_⟩
        rintro rfl
        obtain rfl : l = location := List.mem_singleton.1 hl'
        exact h hl }

/-- What is added is seen at its location, and nothing else changes. -/
theorem get?_add (fs : FileSystem) (location : Location) (entry : Entry) (l : Location) :
    (fs.add location entry).get? l =
      if l = location then some ((fs.get? l).getD entry) else fs.get? l := by
  rw [add]
  split
  · next hmem =>
    split
    · next hl =>
      subst hl
      cases hget : fs.get? l with
      | none => exact absurd hmem (get?_eq_none_iff.1 hget)
      | some e => rfl
    · rfl
  · next hmem =>
    simp only [get?, List.lookup_append]
    split
    · next hl =>
      subst hl
      have hnone : fs.entries.lookup l = none := get?_eq_none_iff.2 hmem
      rw [hnone, Option.none_or, List.lookup_cons_self, Option.getD_none]
    · next hl =>
      rw [List.lookup_cons, beq_false_of_ne hl]
      exact Option.or_none

/-! ## Paths -/

/-- The longest name, in bytes. -/
def nameLimit : Nat := 255

/-- The longest path, in bytes. -/
def pathLimit : Nat := 4095

/-- How many links a path may lead through. -/
def linkLimit : Nat := 40

/-- The length of a text in bytes. -/
def byteLength (text : String) : Nat :=
  text.toList.foldl (fun n c => n + c.utf8Size) 0

/-- The names of a path.  A slash at the end asks for a directory, which an empty name stands for:
unlike `.` it does not look anything up there. -/
def pathNames (path : String) : List String :=
  ((Text.fields '/' path.toList).filter (· ≠ [])).map String.ofList ++
    (if path.toList.getLast? = some '/' then [""] else [])

/-- Where a path starts, seen from a directory. -/
def pathStart (directory : Location) (path : String) : Location :=
  if path.toList.head? = some '/' then [] else directory

/-- The place that a path leads to.  If the last name of the path has no entry there is none. -/
structure Place where
  location : Location
  entry : Option Entry

/-- **Following names.**  Where the given names lead from the location `here`.  What comes of a
link is left to `through`, which is given the directory of the link, its target and the names that
are still to be followed. -/
def walk (fs : FileSystem) (through : Location → String → List String → Except AccessError Place)
    (here : Location) (names : List String) : Except AccessError Place :=
  match names with
  | [] => .ok ⟨here, fs.get? here⟩
  | name :: rest =>
    match fs.get? here with
    | none => .error .notFound
    | some (.file _ _) | some (.link _) => .error .notADirectory
    | some (.directory mode) =>
      if name = "" then fs.walk through here rest
      else if mode.search = false then .error .permissionDenied
      else if name = "." then fs.walk through here rest
      else if name = ".." then fs.walk through here.dropLast rest
      else if nameLimit < byteLength name then .error .nameTooLong
      else
        match fs.get? (here ++ [name]) with
        | some (.link target) => through here target rest
        | some _ => fs.walk through (here ++ [name]) rest
        | none => if rest.isEmpty then .ok ⟨here ++ [name], none⟩ else .error .notFound

/-- Where names lead through at most the given number of links.  The target of a link is a path
that starts in the directory of the link. -/
def follow (fs : FileSystem) : Nat → Location → List String → Except AccessError Place
  | 0 => fs.walk fun _ _ _ => .error .tooManyLinks
  | links + 1 =>
    fs.walk fun here target rest =>
      fs.follow links (pathStart here target) (pathNames target ++ rest)

/-- **Resolution.**  The place that a path leads to. -/
def resolve (fs : FileSystem) (path : String) : Except AccessError Place :=
  if '\x00' ∈ path.toList then .error .nulInPath
  else if path = "" then .error .notFound
  else if pathLimit < byteLength path then .error .nameTooLong
  else fs.follow linkLimit (pathStart fs.workingDirectory path) (pathNames path)

/-! ## Files -/

/-- The bytes of the file that a path leads to. -/
def readFile (fs : FileSystem) (path : String) : Except AccessError ByteArray := do
  match (← fs.resolve path).entry with
  | some (.file content mode) => if mode.read then .ok content else .error .permissionDenied
  | some (.directory mode) => .error (if mode.read then .isADirectory else .permissionDenied)
  | some (.link _) => .error .tooManyLinks
  | none => .error .notFound

/-- The text in the file that a path leads to. -/
def readText (fs : FileSystem) (path : String) : Except AccessError String := do
  match String.fromUTF8? (← fs.readFile path) with
  | some text => .ok text
  | none => .error .notText

/-- The file system with other content in the file at a location. -/
def setContent (fs : FileSystem) (location : Location) (content : ByteArray) : FileSystem :=
  fs.mapEntries fun l e => if l = location then e.withContent content else e

/-- New content is seen at its location and nowhere else. -/
theorem get?_setContent (fs : FileSystem) (location l : Location) (content : ByteArray) :
    (fs.setContent location content).get? l =
      if l = location then (fs.get? l).map (Entry.withContent content) else fs.get? l := by
  rw [setContent, get?_mapEntries]
  split
  · rfl
  · exact Option.map_id'

/-- **Writing.**  Puts bytes into the file that a path leads to, in place of what it held.  Where
there is no file one is made, if its directory may be changed. -/
def writeFile (fs : FileSystem) (path : String) (content : ByteArray) :
    Except AccessError FileSystem := do
  let place ← fs.resolve path
  match place.entry with
  | some (.file _ mode) =>
    if mode.write then .ok (fs.setContent place.location content) else .error .permissionDenied
  | some (.directory _) => .error .isADirectory
  | some (.link _) => .error .tooManyLinks
  | none =>
    match fs.get? place.location.dropLast with
    | some (.directory mode) =>
      if mode.write then .ok (fs.add place.location (.file content .newFile))
      else .error .permissionDenied
    | _ => .error .notFound

end FileSystem

end VersionBump
