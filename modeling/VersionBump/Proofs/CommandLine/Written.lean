import Mathlib.Data.List.TakeWhile
import VersionBump.Proofs.CommandLine.Decision
import VersionBump.Proofs.Update.Faults

/-!
# Which files a run writes

The outer layer of the program puts those files onto the disk that `CommandLine.written` names, with
the content that they have in the file system after the run.  That this is right is shown here.

* `writtenPaths_eq_takeWhile`: the files are those of the targets before the first fault.  This can
  be told before the run, and depends on neither the version nor the patterns.
* **`get?_run_of_not_written`**: where none of the paths leads, the run has changed nothing.
* `readFile_run_of_mem_written`: each of the paths has a content after the run.
-/

namespace VersionBump

variable {fs : FileSystem} {target : Target} {version : String}

/-! ## The paths -/

lemma FileSystem.SameAccess.firstFault?_eq {fs gs : FileSystem} (h : SameAccess fs gs)
    (path : String) : fs.firstFault? path = gs.firstFault? path := by
  have hverdict := h.verdict_eq path
  rw [verdict_eq_obstacle?, verdict_eq_obstacle?, obstacle?_eq_firstFault?,
    obstacle?_eq_firstFault?] at hverdict
  generalize fs.firstFault? path = fault at hverdict ⊢
  generalize gs.firstFault? path = fault' at hverdict ⊢
  cases fault <;> cases fault' <;> simp_all

/-- **Up to the first fault.**  The targets that are written can be told from the file system before
the run. -/
theorem writtenPaths_eq_takeWhile (fs : FileSystem) (version : String) (targets : List Target) :
    writtenPaths fs version targets
      = (targets.takeWhile fun target => (fs.firstFault? target.path).isNone).map Target.path := by
  induction targets generalizing fs with
  | nil => rfl
  | cons target targets ih =>
      rw [List.takeWhile_cons]
      cases hresult : (updateFile fs target version).result with
      | error e =>
          obtain ⟨cause, -, hfault⟩ := updateFile_eq_error_iff.1 hresult
          simp [writtenPaths, hresult, hfault]
      | ok substitution =>
          have hnone := updateFile_eq_ok_iff.1 ⟨substitution, hresult⟩
          have hrest := ih (updateFile fs target version).files
          simp only [← (sameAccess_updateFile fs target version).firstFault?_eq] at hrest
          simp [writtenPaths, hresult, hnone, hrest]

/-! ## The files -/

/-- One update writes where its path leads, and nowhere else. -/
lemma get?_updateFile {l : Location} (h : fs.locate target.path ≠ .ok l) :
    (updateFile fs target version).files.get? l = fs.get? l := by
  have hattempt := updateFile_attempt fs target version
  generalize updateFile fs target version = run at hattempt ⊢
  cases hattempt with
  | unreadable _ => rfl
  | unwritable _ _ => rfl
  | written hopens _ =>
      rw [FileSystem.get?_setContent, if_neg]
      rintro rfl
      exact h hopens.located

/-- **Only what is written changes.** -/
lemma get?_updateEach_of_not_written {targets : List Target} {l : Location}
    (h : ∀ path ∈ writtenPaths fs version targets, fs.locate path ≠ .ok l) :
    (updateEach fs version targets).files.get? l = fs.get? l := by
  induction targets generalizing fs with
  | nil => rfl
  | cons target targets ih =>
      cases hresult : (updateFile fs target version).result with
      | error e => rw [updateEach_of_error hresult]
      | ok substitution =>
          simp only [writtenPaths, hresult, List.forall_mem_cons] at h
          have hlocate := FileSystem.locate_eq_of_skeleton_eq
            (skeleton_updateFile fs target version)
          simp only [updateEach, hresult]
          rw [ih fun path hpath => by rw [hlocate]; exact h.2 path hpath, get?_updateFile h.1]

/-- What is written can be read afterwards. -/
lemma readFile_updateEach_of_mem_written {targets : List Target} {path : String}
    (h : path ∈ writtenPaths fs version targets) :
    ∃ content, (updateEach fs version targets).files.readFile path = .ok content := by
  rw [writtenPaths_eq_takeWhile] at h
  obtain ⟨target, htarget, rfl⟩ := List.mem_map.1 h
  have hnone := List.mem_takeWhile_imp htarget
  rw [(sameAccess_updateEach fs version targets).firstFault?_eq, Option.isNone_iff_eq_none,
    FileSystem.firstFault?_eq_none_iff] at hnone
  obtain ⟨location, content, mode, hresolve, hread, -, -⟩ := hnone
  refine ⟨content, ?_⟩
  rw [FileSystem.readFile, hresolve]
  exact if_pos hread

/-! ## The program -/

namespace CommandLine

open Arguments

variable {program : String} {arguments : List (List UInt8)} {settings : Option String}

/-- The program writes files if it is asked for an update, and then those of the update. -/
lemma run_written (fs : FileSystem) (program : String) (arguments : List (List UInt8))
    (settings : Option String) :
    (run fs program arguments settings).files = fs ∧ written fs program arguments = [] ∨
      ∃ version, (run fs program arguments settings).files
          = (updateEach fs version defaultTargets).files ∧
        written fs program arguments = writtenPaths fs version defaultTargets := by
  simp only [run, written]
  cases parse arguments with
  | error stop =>
      refine Or.inl ⟨?_, rfl⟩
      simp only
      split_ifs <;> rfl
  | ok values =>
      simp only
      cases single program values with
      | error e => exact Or.inl ⟨rfl, rfl⟩
      | ok version => exact Or.inr ⟨version, files_update _ _ _, rfl⟩

/-- **Nothing else is written.**  At a location to which no written path leads, the file system
after a run is as it was. -/
theorem get?_run_of_not_written {l : Location}
    (h : ∀ path ∈ written fs program arguments, fs.locate path ≠ .ok l) :
    (run fs program arguments settings).files.get? l = fs.get? l := by
  rcases run_written fs program arguments settings with ⟨hfiles, -⟩ | ⟨version, hfiles, hwritten⟩
  · rw [hfiles]
  · rw [hfiles]
    rw [hwritten] at h
    exact get?_updateEach_of_not_written h

/-- **What is written** can be read from the file system after the run. -/
theorem readFile_run_of_mem_written {path : String} (h : path ∈ written fs program arguments) :
    ∃ content, (run fs program arguments settings).files.readFile path = .ok content := by
  rcases run_written fs program arguments settings with ⟨-, hwritten⟩ | ⟨version, hfiles, hwritten⟩
  · simp [hwritten] at h
  · rw [hwritten] at h
    rw [hfiles]
    exact readFile_updateEach_of_mem_written h

end CommandLine

end VersionBump
