import VersionBump.Proofs.CommandLine.Decision

/-!
# What the log settings can change

The log settings are read in the middle of a run, after the arguments were parsed and before the
versions are counted.  They have no way to the exit status, the output or the files: of two runs
that differ in nothing but the settings, `exitStatus`, `output` and `files` are the same, whichever
way the runs end.

What they change is the error output, and there `log_settings_only_drop_records` says how.  In an
update it has three parts: warnings, which the settings alone decide; the log, of which the settings
may drop records; and the text about a failure, on which they have no influence.  The failure can be
told from the file system before the run: it is the first obstacle among the default targets.
-/

namespace VersionBump.CommandLine

open Arguments

/-! ## One update -/

/-- **The error output of an update** in its three parts. -/
lemma errorOutput_update (fs : FileSystem) (settings : Log.Settings) (version : String) :
    (update fs settings version).errorOutput =
      settings.warnings ++
        Log.render ((updateAll fs defaultTargets version).log.filter settings.shows) ++
        match fs.firstObstacle? defaultTargets with
        | some (path, cause) => errorChain version path cause
        | none => "" := by
  have hresult := updateAll_result_of_firstObstacle? fs defaultTargets version
  generalize fs.firstObstacle? defaultTargets = obstacle at hresult ⊢
  cases obstacle with
  | none =>
      obtain ⟨substitutions, hok⟩ := hresult
      simp only [update, hok, String.append_empty]
  | some obstacle =>
      simp only at hresult
      simp only [update, hresult, failureText_fileAccess]

/-- An update fails exactly if there is an obstacle. -/
lemma exitStatus_update_eq_one_iff (fs : FileSystem) (settings : Log.Settings) (version : String) :
    (update fs settings version).exitStatus = 1 ↔
      (fs.firstObstacle? defaultTargets).isSome = true := by
  have hresult := updateAll_result_of_firstObstacle? fs defaultTargets version
  generalize fs.firstObstacle? defaultTargets = obstacle at hresult ⊢
  rw [exitStatus_update]
  cases obstacle with
  | none => simp [Run.failed_eq_false_iff.2 hresult]
  | some obstacle =>
      simp only at hresult
      simp [Run.failed_eq_true_iff.2 ⟨_, hresult⟩]

/-! ## Two runs -/

/-- **The settings are not seen** in anything but the error output. -/
lemma run_settings_irrelevant (fs : FileSystem) (program : String) (arguments : List (List UInt8))
    (settings settings' : Option String) :
    let execution := run fs program arguments settings
    let execution' := run fs program arguments settings'
    execution.exitStatus = execution'.exitStatus ∧ execution.output = execution'.output ∧
      execution.files = execution'.files := by
  simp only [run]
  cases parse arguments with
  | error stop => exact ⟨rfl, rfl, rfl⟩
  | ok values =>
      simp only
      cases single program values with
      | error e => exact ⟨rfl, rfl, rfl⟩
      | ok version => simp

/-! ## The main statement -/

/-- **Log settings only drop records.**  Two runs that differ in the log settings alone have the
same exit status and output and leave the same file system.

If the arguments give exactly one version, the error output is made of the warnings about the
settings, those of the records that the update of the default targets logs which the settings show,
in their order, and the text about a failure.  There is such a text exactly if the exit status is
one, and it names the version, the path of the first default target that cannot be updated, and the
reason. -/
theorem log_settings_only_drop_records (fs : FileSystem) (program : String)
    (arguments : List (List UInt8)) :
    (∀ settings settings',
      let execution := run fs program arguments settings
      let execution' := run fs program arguments settings'
      execution.exitStatus = execution'.exitStatus ∧ execution.output = execution'.output ∧
        execution.files = execution'.files) ∧
    ∀ version, parse arguments = .ok [version] → ∀ settings,
      let execution := run fs program arguments settings
      let records := (updateAll fs defaultTargets version).log
      let shown := records.filter (Log.Settings.read settings).shows
      shown.Sublist records ∧
      (execution.exitStatus = 1 ↔ (fs.firstObstacle? defaultTargets).isSome = true) ∧
      execution.errorOutput =
        (Log.Settings.read settings).warnings ++ Log.render shown ++
          match fs.firstObstacle? defaultTargets with
          | some (path, cause) => errorChain version path cause
          | none => "" := by
  refine ⟨run_settings_irrelevant fs program arguments, fun version hversion settings => ?_⟩
  rw [run_of_asksForUpdate (parse_eq_singleton_iff.1 hversion)]
  exact ⟨List.filter_sublist, exitStatus_update_eq_one_iff _ _ _, errorOutput_update _ _ _⟩

/-- No file, and settings that name no level: they are warned about, and the failure is told as
always. -/
theorem log_settings_only_drop_records_on_nothing :
    let settings := some "up_version=loud"
    let execution := run noFiles "up-version" [bytes "2.0.0"] settings
    let records := (updateAll noFiles defaultTargets "2.0.0").log
    let shown := records.filter (Log.Settings.read settings).shows
    execution.exitStatus = 1 ∧ shown.Sublist records ∧
      execution.errorOutput =
        (Log.Settings.read settings).warnings ++ Log.render shown ++
          errorChain "2.0.0" projectTarget.path .notFound := by
  intro settings execution records shown
  have hobstacle : noFiles.firstObstacle? defaultTargets
      = some (projectTarget.path, .notFound) := rfl
  have hparse : parse [bytes "2.0.0"] = .ok ["2.0.0"] := rfl
  obtain ⟨hshown, hstatus, herror⟩ :=
    (log_settings_only_drop_records noFiles "up-version" [bytes "2.0.0"]).2 "2.0.0" hparse settings
  rw [hobstacle] at hstatus herror
  exact ⟨hstatus.2 rfl, hshown, herror⟩

end VersionBump.CommandLine
