import VersionBump.Proofs.Update.Access

/-!
# The first step of an update that fails

An update finds the place that its path leads to, opens the file there for reading, decodes it, and
opens it for writing.  `AccessStep.fault?` asks of each step on its own what would keep it from being
done, and `FileSystem.firstFault?` takes the steps in order: the first fault is the one that is
reported.

A file system has no fault for a path exactly if the path leads to a regular file that may be read,
holds text and may be written (`firstFault?_eq_none_iff`).  Which fault comes first is what an update
finds out in one pass (`obstacle?_eq_firstFault?`, `updateFile_verdict_eq_firstFault?`); so
`updateFile_succeeds_iff_accessible` needs no second look at the update itself.
-/

namespace VersionBump

/-- The steps of an update. -/
inductive AccessStep where
  | resolution
  | reading
  | decoding
  | writing

namespace AccessStep

/-- The steps in the order in which they are taken. -/
def inOrder : List AccessStep := [.resolution, .reading, .decoding, .writing]

/-- **What keeps a step from being done**, whatever becomes of the others.  A path without an entry
at its end does not resolve.  A directory has nothing to decode and cannot be opened for writing. -/
def fault? (fs : FileSystem) (path : String) : AccessStep → Option AccessError
  | .resolution =>
    match fs.resolve path with
    | .error cause => some cause
    | .ok place => if place.entry.isSome then none else some .notFound
  | .reading =>
    match fs.resolve path with
    | .ok ⟨_, some (.file _ mode)⟩ => if mode.read then none else some .permissionDenied
    | .ok ⟨_, some (.directory mode)⟩ =>
      some (if mode.read then .isADirectory else .permissionDenied)
    | .ok ⟨_, some (.link _)⟩ => some .tooManyLinks
    | _ => none
  | .decoding =>
    match fs.resolve path with
    | .ok ⟨_, some (.file content _)⟩ => if IsText content then none else some .notText
    | _ => none
  | .writing =>
    match fs.resolve path with
    | .ok ⟨_, some (.file _ mode)⟩ => if mode.write then none else some .permissionDenied
    | .ok ⟨_, some (.directory _)⟩ => some .isADirectory
    | .ok ⟨_, some (.link _)⟩ => some .tooManyLinks
    | _ => none

end AccessStep

namespace FileSystem

/-- **The first fault.**  What is wrong with the first step that cannot be done. -/
def firstFault? (fs : FileSystem) (path : String) : Option AccessError :=
  AccessStep.inOrder.findSome? (AccessStep.fault? fs path)

/-- **The steps one by one.**  On the entry that a path leads to, the first fault is what opening it
for an update comes to. -/
lemma firstFault?_of_resolve {fs : FileSystem} {path : String} {location : Location}
    {entry : Option Entry} (h : fs.resolve path = .ok ⟨location, entry⟩) :
    fs.firstFault? path =
      match openForUpdate entry with
      | .error cause => some cause
      | .ok () => none := by
  simp only [firstFault?, AccessStep.inOrder, List.findSome?_cons, List.findSome?_nil,
    AccessStep.fault?, h]
  match entry with
  | none => rfl
  | some (.directory _) => rfl
  | some (.link _) => rfl
  | some (.file content mode) =>
      obtain ⟨read, write, search⟩ := mode
      by_cases htext : IsText content <;> cases read <;> cases write <;>
        simp [openForUpdate, htext]

lemma firstFault?_of_error {fs : FileSystem} {path : String} {cause : AccessError}
    (h : fs.resolve path = .error cause) : fs.firstFault? path = some cause := by
  simp only [firstFault?, AccessStep.inOrder, List.findSome?_cons, AccessStep.fault?, h]

/-- The first fault is the obstacle that one pass finds. -/
lemma obstacle?_eq_firstFault? (fs : FileSystem) (path : String) :
    fs.obstacle? path = fs.firstFault? path := by
  have hresolve := fs.resolve_eq_locate path
  rw [obstacle?]
  cases hlocate : fs.locate path with
  | error cause =>
      rw [hlocate] at hresolve
      rw [firstFault?_of_error hresolve]
      rfl
  | ok location =>
      rw [hlocate] at hresolve
      rw [firstFault?_of_resolve hresolve]
      rfl

/-- An entry can be opened for an update if it is a file with all that an update asks for. -/
lemma openForUpdate_eq_ok_iff {entry : Option Entry} :
    openForUpdate entry = .ok () ↔
      ∃ content mode, entry = some (.file content mode) ∧
        mode.read = true ∧ IsText content ∧ mode.write = true := by
  match entry with
  | none => simp [openForUpdate]
  | some (.directory _) => simp [openForUpdate]
  | some (.link _) => simp [openForUpdate]
  | some (.file content ⟨read, write, search⟩) =>
      by_cases htext : IsText content <;> cases read <;> cases write <;>
        simp [openForUpdate, htext]

/-- **No fault.**  The path leads to a regular file that may be read, holds text, and may be
written. -/
lemma firstFault?_eq_none_iff {fs : FileSystem} {path : String} :
    fs.firstFault? path = none ↔
      ∃ location content mode, fs.resolve path = .ok ⟨location, some (.file content mode)⟩ ∧
        mode.read = true ∧ IsText content ∧ mode.write = true := by
  cases hresolve : fs.resolve path with
  | error cause => simp [firstFault?_of_error hresolve]
  | ok place =>
      obtain ⟨location, entry⟩ := place
      have hopen : fs.firstFault? path = none ↔ openForUpdate entry = .ok () := by
        rw [firstFault?_of_resolve hresolve]
        cases openForUpdate entry <;> simp
      rw [hopen, openForUpdate_eq_ok_iff]
      simp

end FileSystem

/-! ## The main statement -/

variable {fs : FileSystem} {target : Target} {version : String}

/-- **The verdict in steps.**  With a fault an update fails and names it; without one it
succeeds. -/
lemma updateFile_verdict_eq_firstFault? (fs : FileSystem) (target : Target) (version : String) :
    (updateFile fs target version).result.map Substitution.path =
      match fs.firstFault? target.path with
      | some cause => .error (.fileAccess target.path cause)
      | none => .ok target.path := by
  have hverdict := fs.verdict_eq_obstacle? target.path
  rw [fs.obstacle?_eq_firstFault?, ← updateFile_verdict fs target version] at hverdict
  refine hverdict.trans ?_
  cases fs.firstFault? target.path <;> rfl

lemma updateFile_eq_ok_iff :
    (∃ substitution, (updateFile fs target version).result = .ok substitution) ↔
      fs.firstFault? target.path = none := by
  have hverdict := updateFile_verdict_eq_firstFault? fs target version
  generalize (updateFile fs target version).result = result at hverdict ⊢
  generalize fs.firstFault? target.path = fault at hverdict ⊢
  cases result <;> cases fault <;> simp_all [Except.map]

lemma updateFile_eq_error_iff {e : UpdateError} :
    (updateFile fs target version).result = .error e ↔
      ∃ cause, e = .fileAccess target.path cause ∧ fs.firstFault? target.path = some cause := by
  have hverdict := updateFile_verdict_eq_firstFault? fs target version
  generalize (updateFile fs target version).result = result at hverdict ⊢
  generalize fs.firstFault? target.path = fault at hverdict ⊢
  cases result <;> cases fault <;> simp_all [Except.map, eq_comm]

/-- **Success exactly on accessible text files.**  The update of a file succeeds exactly if its path
leads to a regular file that may be read, holds text and may be written.  Whether it does, and if
not why, is the same for every version and every pattern.  An update that fails names the path as it
was given and the first fault, and leaves the file system as it was. -/
theorem updateFile_succeeds_iff_accessible (fs : FileSystem) (target : Target) (version : String) :
    ((∃ substitution, (updateFile fs target version).result = .ok substitution) ↔
      ∃ location content mode,
        fs.resolve target.path = .ok ⟨location, some (.file content mode)⟩ ∧
          mode.read = true ∧ IsText content ∧ mode.write = true) ∧
    (∀ other version', other.path = target.path →
      (updateFile fs other version').result.map Substitution.path
        = (updateFile fs target version).result.map Substitution.path) ∧
    ∀ e, (updateFile fs target version).result = .error e →
      (∃ cause, e = .fileAccess target.path cause ∧ fs.firstFault? target.path = some cause) ∧
        (updateFile fs target version).files = fs := by
  refine ⟨?_, fun other version' hpath => ?_, fun e he => ⟨?_, updateFile_files_of_error he⟩⟩
  · rw [updateFile_eq_ok_iff, FileSystem.firstFault?_eq_none_iff]
  · rw [updateFile_verdict, updateFile_verdict, hpath]
  · exact updateFile_eq_error_iff.1 he

end VersionBump
