import VersionBump.Proofs.Update.Step

/-!
# Updates never change what can be accessed

Whether an update of a path succeeds is decided by where the path leads, by the modes there, and by
whether the file holds text.  None of these is changed by an update: it puts text where text was.

* `FileSystem.SameAccess` relates two file systems that agree in all of this.  Every update, failed
  or not, leaves a file system related to the one before it (`sameAccess_updateFile`), and so does
  every history of them.
* `FileSystem.verdict` is the success or failure of an update told from the file system alone, and
  `updateFile_verdict` says that it is what `updateFile` comes to, for every pattern and version.
* `updateEach_verdict`: a run over several files has the verdict of its targets asked one by one in
  the file system *before* the run.  So `FileSystem.firstObstacle?`, the first target that cannot be
  updated there, is where the run fails (`updateAll_result_of_firstObstacle?`).

So any history of updates leaves the verdict of every later run as it was
(`commands_keep_access`).
-/

namespace VersionBump

/-- Whether bytes are the UTF-8 encoding of a text. -/
def IsText (content : ByteArray) : Prop := ∃ text : String, content = text.toUTF8

lemma isText_toUTF8 (text : String) : IsText text.toUTF8 := ⟨text, rfl⟩

lemma fromUTF8?_eq_none_iff {content : ByteArray} :
    String.fromUTF8? content = none ↔ ¬ IsText content := by
  rw [Option.eq_none_iff_forall_ne_some, IsText, not_exists]
  exact forall_congr' fun text => not_congr fromUTF8?_eq_some_iff

instance (content : ByteArray) : Decidable (IsText content) :=
  decidable_of_iff (¬ String.fromUTF8? content = none) (by simp [fromUTF8?_eq_none_iff])

/-- A file's content with its text forgotten: text is emptied, other bytes stay. -/
def outlineContent (content : ByteArray) : ByteArray :=
  if IsText content then ByteArray.empty else content

@[simp] lemma isText_outlineContent {content : ByteArray} :
    IsText (outlineContent content) ↔ IsText content := by
  rw [outlineContent]
  split_ifs with h
  · exact iff_of_true (isText_toUTF8 "") h
  · exact Iff.rfl

/-- An entry with its text forgotten. -/
def Entry.outline : Entry → Entry
  | .file content mode => .file (outlineContent content) mode
  | entry => entry

namespace FileSystem

/-! ## The relation -/

/-- **The same access.**  The same paths, kinds, modes and links, text in the same files, and the
same bytes in the others. -/
structure SameAccess (fs gs : FileSystem) : Prop where
  skeleton : fs.skeleton = gs.skeleton
  outline : ∀ location, (fs.get? location).map Entry.outline = (gs.get? location).map Entry.outline

namespace SameAccess

variable {fs gs hs : FileSystem}

lemma refl (fs : FileSystem) : SameAccess fs fs := ⟨rfl, fun _ => rfl⟩

lemma trans (h₁ : SameAccess fs gs) (h₂ : SameAccess gs hs) : SameAccess fs hs :=
  ⟨h₁.skeleton.trans h₂.skeleton, fun location => (h₁.outline location).trans (h₂.outline location)⟩

/-- What the relation says of one file. -/
lemma file (h : SameAccess fs gs) {location : Location} {content : ByteArray} {mode : Mode}
    (hget : fs.get? location = some (.file content mode)) :
    ∃ content', gs.get? location = some (.file content' mode) ∧
      (IsText content' ↔ IsText content) ∧ (¬ IsText content → content' = content) := by
  have houtline := h.outline location
  rw [hget, Option.map_some, eq_comm, Option.map_eq_some_iff] at houtline
  obtain ⟨entry, hg, hentry⟩ := houtline
  cases entry with
  | directory _ => simp [Entry.outline] at hentry
  | link _ => simp [Entry.outline] at hentry
  | file content' mode' =>
      simp only [Entry.outline, Entry.file.injEq] at hentry
      obtain ⟨hcontent, rfl⟩ := hentry
      have htext : IsText content' ↔ IsText content := by
        rw [← isText_outlineContent, hcontent, isText_outlineContent]
      refine ⟨content', hg, htext, fun hno => ?_⟩
      rwa [outlineContent, outlineContent, if_neg hno, if_neg (mt htext.1 hno)] at hcontent

end SameAccess

/-! ## The verdict of a file system -/

/-- Whether an entry can be opened for an update: read as text, then written.  If not, the reason is
the first thing that is missing. -/
def openForUpdate : Option Entry → Except AccessError Unit
  | some (.file content mode) =>
    if mode.read = false then .error .permissionDenied
    else if ¬ IsText content then .error .notText
    else if mode.write = false then .error .permissionDenied
    else .ok ()
  | some (.directory mode) => .error (if mode.read then .isADirectory else .permissionDenied)
  | some (.link _) => .error .tooManyLinks
  | none => .error .notFound

/-- **The verdict.**  Whether the file that a path leads to can be updated. -/
def verdict (fs : FileSystem) (path : String) : Except UpdateError String :=
  match (fs.locate path).bind fun location => openForUpdate (fs.get? location) with
  | .error cause => .error (.fileAccess path cause)
  | .ok () => .ok path

/-- What the text says is not asked for. -/
lemma openForUpdate_outline (entry : Option Entry) :
    openForUpdate (entry.map Entry.outline) = openForUpdate entry := by
  match entry with
  | none => rfl
  | some (.directory _) => rfl
  | some (.link _) => rfl
  | some (.file content mode) =>
      simp only [Option.map_some, Entry.outline, openForUpdate, isText_outlineContent]

/-- What cannot be read cannot be updated, for the same reason. -/
lemma openForUpdate_of_openText {cause : AccessError} :
    ∀ {entry : Option Entry}, openText entry = .error cause → openForUpdate entry = .error cause
  | none, h => by cases h; rfl
  | some (.directory _), h => by cases h; rfl
  | some (.link _), h => by cases h; rfl
  | some (.file content mode), h => by
      simp only [openText] at h
      simp only [openForUpdate]
      by_cases hread : mode.read = true
      · rw [if_pos hread] at h
        rw [if_neg (by simp [hread])]
        cases htext : String.fromUTF8? content with
        | none =>
            rw [htext] at h
            cases h
            rw [if_pos (fromUTF8?_eq_none_iff.1 htext)]
        | some text => simp [htext] at h
      · rw [if_neg hread] at h
        cases h
        rw [if_pos (by simpa using hread)]

/-- **The verdict depends on no more than access.** -/
lemma SameAccess.verdict_eq {fs gs : FileSystem} (h : SameAccess fs gs) (path : String) :
    fs.verdict path = gs.verdict path := by
  rw [verdict, verdict, locate_eq_of_skeleton_eq h.skeleton path]
  cases gs.locate path with
  | error e => rfl
  | ok location =>
      simp only [Except.bind]
      rw [← openForUpdate_outline, h.outline, openForUpdate_outline]

end FileSystem

/-! ## One update -/

/-- **An update keeps access**, whether it succeeds or fails. -/
lemma sameAccess_updateFile (fs : FileSystem) (target : Target) (version : String) :
    FileSystem.SameAccess fs (updateFile fs target version).files := by
  refine ⟨(skeleton_updateFile fs target version).symm, fun l => ?_⟩
  have hattempt := updateFile_attempt fs target version
  generalize updateFile fs target version = run at hattempt ⊢
  cases hattempt with
  | unreadable _ => rfl
  | unwritable _ _ => rfl
  | @written location text mode hopens _ =>
      rw [FileSystem.get?_setContent]
      split_ifs with hl
      · rw [hl, hopens.holds]
        simp only [Option.map_some, Entry.withContent, Entry.outline, outlineContent]
        rw [if_pos (isText_toUTF8 _), if_pos (isText_toUTF8 _)]
      · rfl

/-- **The verdict of an update** can be told beforehand, without pattern and version. -/
lemma updateFile_verdict (fs : FileSystem) (target : Target) (version : String) :
    (updateFile fs target version).result.map Substitution.path = fs.verdict target.path := by
  have hattempt := updateFile_attempt fs target version
  generalize updateFile fs target version = run at hattempt ⊢
  cases hattempt with
  | @unreadable cause hread =>
      have hopen : ((fs.locate target.path).bind fun location =>
          FileSystem.openForUpdate (fs.get? location)) = .error cause := by
        rw [FileSystem.readText_eq_openText] at hread
        cases hl : fs.locate target.path with
        | error e =>
            rw [hl] at hread
            cases hread
            rfl
        | ok location =>
            rw [hl] at hread
            exact FileSystem.openForUpdate_of_openText hread
      rw [FileSystem.verdict, hopen]
      rfl
  | unwritable hopens hwrite =>
      simp only [FileSystem.verdict, hopens.located, Except.bind, hopens.holds,
        FileSystem.openForUpdate, hopens.readable, isText_toUTF8, hwrite]
      rfl
  | written hopens hwrite =>
      simp only [FileSystem.verdict, hopens.located, Except.bind, hopens.holds,
        FileSystem.openForUpdate, hopens.readable, isText_toUTF8, hwrite]
      rfl

/-! ## Runs -/

/-- A run over several files keeps access, up to its first failure and beyond. -/
lemma sameAccess_updateEach (fs : FileSystem) (version : String) (targets : List Target) :
    FileSystem.SameAccess fs (updateEach fs version targets).files := by
  induction targets generalizing fs with
  | nil => exact .refl fs
  | cons target targets ih =>
      have hfirst := sameAccess_updateFile fs target version
      simp only [updateEach]
      split
      · exact hfirst
      · exact hfirst.trans (ih _)

/-- **The verdict of a run** is that of its targets, asked in order before the run starts. -/
lemma updateEach_verdict (fs : FileSystem) (version : String) (targets : List Target) :
    (updateEach fs version targets).result.map (List.map Substitution.path)
      = targets.mapM fun target => fs.verdict target.path := by
  induction targets generalizing fs with
  | nil => rfl
  | cons target targets ih =>
      have hfirst := updateFile_verdict fs target version
      rw [List.mapM_cons, ← hfirst]
      simp only [updateEach]
      cases hresult : (updateFile fs target version).result with
      | error e => rfl
      | ok substitution =>
          have hrest := ih (updateFile fs target version).files
          simp only [← (sameAccess_updateFile fs target version).verdict_eq] at hrest
          rw [← hrest]
          cases (updateEach (updateFile fs target version).files version targets).result <;> rfl

/-! ## The first obstacle -/

namespace FileSystem

/-- Why the file that a path leads to cannot be updated, if it cannot. -/
def obstacle? (fs : FileSystem) (path : String) : Option AccessError :=
  match (fs.locate path).bind fun location => openForUpdate (fs.get? location) with
  | .error cause => some cause
  | .ok () => none

/-- **The first obstacle.**  The path of the first target that cannot be updated, and why. -/
def firstObstacle? (fs : FileSystem) (targets : List Target) : Option (String × AccessError) :=
  targets.findSome? fun target => (fs.obstacle? target.path).map (target.path, ·)

lemma verdict_eq_obstacle? (fs : FileSystem) (path : String) :
    fs.verdict path =
      match fs.obstacle? path with
      | some cause => .error (.fileAccess path cause)
      | none => .ok path := by
  rw [verdict, obstacle?]
  cases (fs.locate path).bind fun location => openForUpdate (fs.get? location) <;> rfl

lemma firstObstacle?_cons (fs : FileSystem) (target : Target) (targets : List Target) :
    fs.firstObstacle? (target :: targets) =
      match fs.obstacle? target.path with
      | some cause => some (target.path, cause)
      | none => fs.firstObstacle? targets := by
  rw [firstObstacle?, List.findSome?_cons]
  cases fs.obstacle? target.path <;> rfl

/-- The targets, asked in order, come to the first obstacle or through to the end. -/
lemma mapM_verdict (fs : FileSystem) (targets : List Target) :
    (targets.mapM fun target => fs.verdict target.path) =
      match fs.firstObstacle? targets with
      | some (path, cause) => .error (.fileAccess path cause)
      | none => .ok (targets.map Target.path) := by
  induction targets with
  | nil => rfl
  | cons target targets ih =>
      rw [List.mapM_cons, ih, verdict_eq_obstacle?, firstObstacle?_cons]
      cases fs.obstacle? target.path with
      | some cause => rfl
      | none => cases fs.firstObstacle? targets <;> rfl

end FileSystem

/-- **A run fails at the first obstacle** that there is before it starts, and succeeds if there is
none. -/
lemma updateAll_result_of_firstObstacle? (fs : FileSystem) (targets : List Target)
    (version : String) :
    match fs.firstObstacle? targets with
    | some (path, cause) =>
      (updateAll fs targets version).result = .error (.fileAccess path cause)
    | none => ∃ substitutions, (updateAll fs targets version).result = .ok substitutions := by
  have hverdict := updateEach_verdict fs version targets
  rw [fs.mapM_verdict] at hverdict
  rw [updateAll]
  generalize (updateEach fs version targets).result = result at hverdict ⊢
  generalize fs.firstObstacle? targets = obstacle at hverdict ⊢
  cases obstacle with
  | none =>
      cases result with
      | error e => cases hverdict
      | ok substitutions => exact ⟨substitutions, rfl⟩
  | some obstacle =>
      cases result with
      | error e => exact congrArg _ (Except.error.inj hverdict)
      | ok substitutions => cases hverdict

/-! ## Histories -/

/-- What a program can do to a file system by updates. -/
inductive Command where
  /-- The update of one file. -/
  | one (target : Target) (version : String)
  /-- A run over several files. -/
  | all (targets : List Target) (version : String)

/-- The file system that a command leaves, successful or not. -/
def Command.files (fs : FileSystem) : Command → FileSystem
  | .one target version => (updateFile fs target version).files
  | .all targets version => (updateAll fs targets version).files

/-- The file system after a history of commands. -/
def runCommands (fs : FileSystem) (commands : List Command) : FileSystem :=
  commands.foldl Command.files fs

lemma sameAccess_runCommands (fs : FileSystem) (commands : List Command) :
    FileSystem.SameAccess fs (runCommands fs commands) := by
  induction commands generalizing fs with
  | nil => exact .refl fs
  | cons command commands ih =>
      have hfirst : FileSystem.SameAccess fs (command.files fs) := by
        cases command with
        | one target version => exact sameAccess_updateFile fs target version
        | all targets version => exact sameAccess_updateEach fs version targets
      exact hfirst.trans (ih _)

/-- The outcome of a run: the paths that it updated, or the error that ended it, which names a path
and a cause. -/
def Run.verdict (run : Run (List Substitution)) : Except UpdateError (List String) :=
  run.result.map (List.map Substitution.path)

/-- **Updates never change what can be accessed.**  After any history of updates and runs, failed
ones included, the file system has the same paths, kinds, link targets and modes; each file has its
mode and holds text if it did before, and if it does not its bytes are the same.  Hence a run over
any targets comes to the same verdict before and after, with any two versions. -/
theorem commands_keep_access (fs : FileSystem) (commands : List Command) :
    (runCommands fs commands).skeleton = fs.skeleton ∧
    (∀ location content mode, fs.get? location = some (.file content mode) →
      ∃ content', (runCommands fs commands).get? location = some (.file content' mode) ∧
        (IsText content' ↔ IsText content) ∧ (¬ IsText content → content' = content)) ∧
    ∀ targets before after,
      (updateAll (runCommands fs commands) targets after).verdict
        = (updateAll fs targets before).verdict := by
  have haccess := sameAccess_runCommands fs commands
  refine ⟨haccess.skeleton.symm, fun _ _ _ hget => haccess.file hget, ?_⟩
  intro targets before after
  calc (updateAll (runCommands fs commands) targets after).verdict
      = targets.mapM fun target => (runCommands fs commands).verdict target.path :=
        updateEach_verdict _ _ _
    _ = targets.mapM fun target => fs.verdict target.path := by
        simp only [haccess.verdict_eq]
    _ = (updateAll fs targets before).verdict := (updateEach_verdict _ _ _).symm

end VersionBump
