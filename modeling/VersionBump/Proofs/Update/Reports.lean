import VersionBump.Proofs.Search.Marked
import VersionBump.Proofs.Update.FirstFailure

/-!
# Which files a log tells as updated

A file is told as updated after it was read and before it is written.  So the log of a run has one
such record for each target in whose file the pattern found a version, whatever became of the write
(`filter_tellsUpdate_updateAll`), and where the write is refused one file is told as updated that
was not.

`processed` lists the updates that a run makes: its targets up to the first that fails, each with
the file system that it meets.  An update that fails is the last of them, so at most one record too
many is logged; `told_updates_of_run` says exactly when.
-/

namespace VersionBump

/-! ## Records about updated files -/

/-- The record that tells a file as updated. -/
def updatedRecord (path : String) : Log.Record := ⟨.info, "Updated '" ++ path ++ "'"⟩

/-- The path in such a record: what follows the quotation mark, without the last character. -/
def Log.Record.toldPath (record : Log.Record) : String :=
  String.ofList (record.message.toList.drop "Updated '".length).dropLast

/-- Whether a record tells some file as updated. -/
def Log.Record.tellsUpdate (record : Log.Record) : Bool :=
  record = updatedRecord record.toldPath

@[simp] lemma toldPath_updatedRecord (path : String) : (updatedRecord path).toldPath = path := by
  have hmessage : (updatedRecord path).message.toList
      = "Updated '".toList ++ (path.toList ++ ['\'']) := by
    simp [updatedRecord, String.toList_append]
  rw [Log.Record.toldPath, hmessage, List.drop_left' (by rfl), List.dropLast_concat,
    String.ofList_toList]

lemma tellsUpdate_iff {record : Log.Record} :
    record.tellsUpdate = true ↔ ∃ path, record = updatedRecord path := by
  rw [Log.Record.tellsUpdate, decide_eq_true_iff]
  constructor
  · intro h
    exact ⟨_, h⟩
  · rintro ⟨path, rfl⟩
    rw [toldPath_updatedRecord]

@[simp] lemma tellsUpdate_updatedRecord (path : String) : (updatedRecord path).tellsUpdate = true :=
  tellsUpdate_iff.2 ⟨path, rfl⟩

/-- Other levels tell other things. -/
lemma tellsUpdate_of_level {record : Log.Record} (h : record.level ≠ .info) :
    record.tellsUpdate = false := by
  rw [← Bool.not_eq_true, tellsUpdate_iff]
  rintro ⟨path, rfl⟩
  exact h rfl

@[simp] lemma tellsUpdate_readingRecord (path : String) :
    (readingRecord path).tellsUpdate = false :=
  tellsUpdate_of_level (by simp [readingRecord])

/-- The version that a run puts in is told in other words. -/
lemma filter_tellsUpdate_openingRecords (version : String) :
    (openingRecords version).filter Log.Record.tellsUpdate = [] := by
  have hversion : (Log.Record.mk .info ("Updating version to " ++ version)).tellsUpdate = false := by
    rw [← Bool.not_eq_true, tellsUpdate_iff]
    rintro ⟨path, h⟩
    have hmessage := congrArg (fun record => record.message.toList) h
    simp [updatedRecord, String.toList_append] at hmessage
  rw [openingRecords]
  split <;> simp [hversion, tellsUpdate_of_level]

/-! ## The updates of a run -/

/-- An update that a run makes: its target, and the file system that it meets. -/
structure Turn where
  files : FileSystem
  target : Target

namespace Turn

/-- Whether the file holds a text in which the pattern finds a version. -/
def matched (turn : Turn) : Bool :=
  match turn.files.readText turn.target.path with
  | .error _ => false
  | .ok text => (turn.target.pattern.search markerGroup text.toList.toArray).isSome

/-- Whether the new text can be written to the file. -/
def writable (version : String) (turn : Turn) : Bool :=
  match turn.files.readText turn.target.path with
  | .error _ => false
  | .ok text =>
    (turn.files.writeFile turn.target.path
      (replaceFirst turn.target.pattern text version).1.toUTF8).isOk

/-- **An updated file**: a version was found in it and the new text was written. -/
def rewritten (version : String) (turn : Turn) : Bool := turn.matched && turn.writable version

/-- **A refused write**: a version was found, but the new text could not be written. -/
def refused (version : String) (turn : Turn) : Bool := turn.matched && !turn.writable version

end Turn

/-- **The updates that a run makes**: its targets up to the first whose update fails, each with what
the updates before it left. -/
def processed (fs : FileSystem) (version : String) : List Target → List Turn
  | [] => []
  | target :: targets =>
    let run := updateFile fs target version
    ⟨fs, target⟩ :: if run.failed then [] else processed run.files version targets

/-! ## One update -/

/-- The records about a file that was read tell it as updated if something was replaced in its
text. -/
lemma filter_tellsUpdate_found (path : String) (pattern : Pattern) (text version : String) :
    [readingRecord path, foundRecord path (replaceFirst pattern text version).2].filter
        Log.Record.tellsUpdate
      = if (pattern.search markerGroup text.toList.toArray).isSome then [updatedRecord path]
        else [] := by
  rw [List.filter_cons_of_neg (by simp), replaceFirst]
  cases pattern.search markerGroup text.toList.toArray with
  | none =>
      have hnothing : (foundRecord path 0).tellsUpdate = false :=
        tellsUpdate_of_level (by simp [foundRecord])
      simp [hnothing]
  | some found =>
      have hupdated : foundRecord path 1 = updatedRecord path := rfl
      simp [hupdated]

/-- **What one update tells**: its file as updated, if a version was found there. -/
lemma filter_tellsUpdate_updateFile (fs : FileSystem) (target : Target) (version : String) :
    (updateFile fs target version).log.filter Log.Record.tellsUpdate
      = if (Turn.mk fs target).matched then [updatedRecord target.path] else [] := by
  have hattempt := updateFile_attempt fs target version
  generalize updateFile fs target version = run at hattempt ⊢
  cases hattempt with
  | unreadable hread => simp [Turn.matched, hread]
  | unwritable hopens _ => simp only [filter_tellsUpdate_found, Turn.matched, hopens.readText]
  | written hopens _ => simp only [filter_tellsUpdate_found, Turn.matched, hopens.readText]

/-- **When one update fails**: exactly if its new text cannot be written. -/
lemma failed_updateFile (fs : FileSystem) (target : Target) (version : String) :
    (updateFile fs target version).failed = !(Turn.mk fs target).writable version := by
  have hattempt := updateFile_attempt fs target version
  generalize updateFile fs target version = run at hattempt ⊢
  cases hattempt with
  | unreadable hread => simp [Run.failed, Turn.writable, hread]
  | unwritable hopens hwrite =>
      simp [Run.failed, Turn.writable, hopens.readText, hopens.writeFile, hwrite, Except.isOk,
        Except.toBool]
  | written hopens hwrite =>
      simp [Run.failed, Turn.writable, hopens.readText, hopens.writeFile, hwrite, Except.isOk,
        Except.toBool]

/-! ## The whole run -/

lemma files_updateAll (fs : FileSystem) (targets : List Target) (version : String) :
    (updateAll fs targets version).files = (updateEach fs version targets).files := rfl

section run

variable {fs : FileSystem} {target : Target} {version : String}

lemma processed_of_error {e : UpdateError} (h : (updateFile fs target version).result = .error e)
    (targets : List Target) : processed fs version (target :: targets) = [⟨fs, target⟩] := by
  simp only [processed, Run.failed_eq_true_iff.2 ⟨e, h⟩, if_true]

lemma processed_of_ok {substitution : Substitution}
    (h : (updateFile fs target version).result = .ok substitution) (targets : List Target) :
    processed fs version (target :: targets)
      = ⟨fs, target⟩ :: processed (updateFile fs target version).files version targets := by
  simp only [processed, Run.failed_eq_false_iff.2 ⟨substitution, h⟩, Bool.false_eq_true, if_false]

end run

/-- **The log of a run** is made of those of its updates. -/
lemma log_updateEach (fs : FileSystem) (version : String) (targets : List Target) :
    (updateEach fs version targets).log
      = (processed fs version targets).flatMap fun turn =>
          (updateFile turn.files turn.target version).log := by
  induction targets generalizing fs with
  | nil => rfl
  | cons target targets ih =>
      cases hresult : (updateFile fs target version).result with
      | error e => simp [updateEach_of_error hresult, processed_of_error hresult]
      | ok substitution => simp [updateEach, hresult, processed_of_ok hresult, ih]

/-- **What a run tells**: the files in which a version was found, in order. -/
lemma filter_tellsUpdate_updateAll (fs : FileSystem) (version : String) (targets : List Target) :
    (updateAll fs targets version).log.filter Log.Record.tellsUpdate
      = ((processed fs version targets).filter Turn.matched).map
          fun turn => updatedRecord turn.target.path := by
  rw [updateAll, List.filter_append, filter_tellsUpdate_openingRecords, List.nil_append,
    log_updateEach, List.filter_flatMap]
  induction processed fs version targets with
  | nil => rfl
  | cons turn turns ih =>
      rw [List.flatMap_cons, filter_tellsUpdate_updateFile, ih, List.filter_cons]
      split <;> rfl

/-- **A refused write ends the run**, so there is at most one. -/
lemma countP_refused_le_one (fs : FileSystem) (version : String) (targets : List Target) :
    (processed fs version targets).countP (Turn.refused version) ≤ 1 := by
  induction targets generalizing fs with
  | nil => simp [processed]
  | cons target targets ih =>
      cases hresult : (updateFile fs target version).result with
      | error e =>
          rw [processed_of_error hresult]
          exact List.countP_le_length
      | ok substitution =>
          have hwritable : (Turn.mk fs target).writable version = true := by
            have hfailed := failed_updateFile fs target version
            rw [Run.failed_eq_false_iff.2 ⟨substitution, hresult⟩] at hfailed
            simpa using hfailed
          rw [processed_of_ok hresult, List.countP_cons_of_neg (by simp [Turn.refused, hwritable])]
          exact ih _

/-- A file in which a version was found is updated, or its write refused. -/
lemma countP_matched (version : String) (turns : List Turn) :
    turns.countP Turn.matched
      = turns.countP (Turn.rewritten version) + turns.countP (Turn.refused version) := by
  induction turns with
  | nil => rfl
  | cons turn turns ih =>
      simp only [List.countP_cons, ih, Turn.rewritten, Turn.refused]
      by_cases hmatched : turn.matched <;> by_cases hwritable : turn.writable version <;>
        simp [hmatched, hwritable] <;> omega

/-- One record is logged for each updated file, and one for the refused write. -/
lemma countP_tellsUpdate_updateAll (fs : FileSystem) (version : String) (targets : List Target) :
    (updateAll fs targets version).log.countP Log.Record.tellsUpdate
      = (processed fs version targets).countP (Turn.rewritten version)
        + (processed fs version targets).countP (Turn.refused version) := by
  rw [List.countP_eq_length_filter, filter_tellsUpdate_updateAll, List.length_map,
    ← List.countP_eq_length_filter, countP_matched version]

/-! ## The main statement -/

/-- **Told and updated files.**  The log of a run tells a file as updated for each update that found
a version in it, in order.  These are the updated files, exactly if no write was refused after a
version was found; otherwise one file more is told than was updated. -/
theorem told_updates_of_run (fs : FileSystem) (targets : List Target) (version : String) :
    let turns := processed fs version targets
    let log := (updateAll fs targets version).log
    log.filter Log.Record.tellsUpdate
        = (turns.filter Turn.matched).map (fun turn => updatedRecord turn.target.path) ∧
      (log.countP Log.Record.tellsUpdate = turns.countP (Turn.rewritten version) ↔
        ∀ turn ∈ turns, ¬ turn.refused version) ∧
      ((∃ turn ∈ turns, turn.refused version) →
        log.countP Log.Record.tellsUpdate = turns.countP (Turn.rewritten version) + 1) := by
  intro turns log
  have hcount : log.countP Log.Record.tellsUpdate
      = turns.countP (Turn.rewritten version) + turns.countP (Turn.refused version) :=
    countP_tellsUpdate_updateAll fs version targets
  have hatmost : turns.countP (Turn.refused version) ≤ 1 := countP_refused_le_one fs version targets
  refine ⟨filter_tellsUpdate_updateAll fs version targets, ?_, fun hrefused => ?_⟩
  · rw [← List.countP_eq_zero]
    omega
  · have hpos := List.countP_pos_iff.2 hrefused
    omega

/-! ## A file that cannot be written -/

/-- A project file that may be read but not written. -/
def lockedFiles : FileSystem where
  entries :=
    [([], .directory .newDirectory),
      (["app.csproj"], .file "<Version></Version>".toUTF8 ⟨true, false, false⟩)]
  workingDirectory := []

/-- The project file as a target. -/
def lockedProject : Target := { projectTarget with path := "app.csproj" }

lemma lockedFiles_project :
    lockedFiles.Opens lockedProject.path ["app.csproj"] "<Version></Version>"
      ⟨true, false, false⟩ where
  located := (FileSystem.fileLocation?_eq_some_iff.1 (by decide)).1
  holds := rfl
  readable := rfl

lemma lockedProject_matched : (Turn.mk lockedFiles lockedProject).matched = true := by
  have hmarked : Text.MarkedAt "<Version>".toList "</Version>".toList "<Version></Version>".toList
      0 0 := Text.markedAt_append [] [] [] (by simp)
  obtain ⟨start, length, hfirst⟩ := hmarked.exists_first
  have hsearch := Pattern.search_between_eq_some (by decide) hfirst
  rw [Turn.matched, lockedFiles_project.readText]
  exact Option.isSome_of_eq_some hsearch

/-- **Told as updated, and not written.** -/
theorem update_told_of_refused_write :
    let run := updateAll lockedFiles [lockedProject] "2.0.0"
    updatedRecord "app.csproj" ∈ run.log ∧ run.files = lockedFiles ∧
      run.log.countP Log.Record.tellsUpdate
        ≠ (processed lockedFiles "2.0.0" [lockedProject]).countP (Turn.rewritten "2.0.0") := by
  intro run
  have herror := congrArg Run.result (lockedFiles_project.updateFile_refused rfl "2.0.0")
  have hturns := processed_of_error herror []
  have hrefused : (Turn.mk lockedFiles lockedProject).refused "2.0.0" = true := by
    simp [Turn.refused, lockedProject_matched, Turn.writable, lockedFiles_project.readText,
      lockedFiles_project.writeFile, Except.isOk, Except.toBool]
  refine ⟨?_, ?_, ?_⟩
  · have htold : updatedRecord lockedProject.path ∈ run.log.filter Log.Record.tellsUpdate := by
      rw [filter_tellsUpdate_updateAll, hturns]
      simp [lockedProject_matched]
    exact (List.mem_filter.1 htold).1
  · rw [files_updateAll, updateEach_of_error herror]
  · rw [countP_tellsUpdate_updateAll, hturns]
    simp [hrefused]

end VersionBump
