import VersionBump.CommandLine
import VersionBump.Proofs.Arguments
import VersionBump.Proofs.Update.FirstFailure
import VersionBump.Proofs.Update.Order

/-!
# What the command line decides

A run of the program ends in one of three ways, and the arguments alone say in which: with an update
of the default targets (`run_of_asksForUpdate`), with a text that was asked for
(`run_of_asksForText`), or with the usage line (`run_of_neither`).  Neither the file system nor the
log settings have a say in it.

* `Attempts` says from outside that the program is at an update with some version: it does what
  `update` does, wherever it is run.  Where there is no file to update and the log is off, all that
  an update tells is its version, so attempts with different versions can be told apart
  (`attempts_iff`).
* **`command_line_decision`** is the whole decision, with exit status, output and file system.
* **`usage_iff_not_after_separator`** looks at the lists that are not one argument long.  They lead
  to the usage line with one exception, a version after `--`, which is not counted as an argument
  (`separator_not_counted`).
-/

namespace VersionBump.CommandLine

open Arguments

variable {fs : FileSystem} {program : String} {arguments : List (List UInt8)}
  {settings : Option String} {version : String}

/-! ## The update -/

@[simp] lemma output_update (fs : FileSystem) (settings : Log.Settings) (version : String) :
    (update fs settings version).output = "" := by
  simp only [update]
  split <;> rfl

@[simp] lemma files_update (fs : FileSystem) (settings : Log.Settings) (version : String) :
    (update fs settings version).files = (updateAll fs defaultTargets version).files := by
  simp only [update]
  split <;> rfl

@[simp] lemma exitStatus_update (fs : FileSystem) (settings : Log.Settings) (version : String) :
    (update fs settings version).exitStatus
      = if (updateAll fs defaultTargets version).failed then 1 else 0 := by
  cases h : (updateAll fs defaultTargets version).result <;> simp [update, Run.failed, h]

lemma exitStatus_update_of_ok {substitutions : List Substitution}
    (h : (updateAll fs defaultTargets version).result = .ok substitutions)
    (settings : Log.Settings) : (update fs settings version).exitStatus = 0 := by
  rw [exitStatus_update, Run.failed_eq_false_iff.2 ⟨_, h⟩]
  rfl

/-! ## The three ends of a run -/

lemma run_of_asksForUpdate (h : AsksForUpdate arguments version) :
    run fs program arguments settings = update fs (.read settings) version := by
  simp only [run, parse_eq_singleton_iff.2 h, single]

lemma run_of_asksForText (h : AsksForText arguments) :
    ∃ text, run fs program arguments settings = ⟨0, text, "", fs⟩ := by
  obtain ⟨stop, hstop, hrequest⟩ := exists_parse_eq_request_iff.2 h
  exact ⟨stop.message, by simp [run, hstop, hrequest]⟩

lemma run_of_neither (hupdate : ∀ version, ¬ AsksForUpdate arguments version)
    (htext : ¬ AsksForText arguments) :
    ∃ errorOutput, run fs program arguments settings = usageEnd fs program errorOutput := by
  simp only [← parse_eq_singleton_iff] at hupdate
  rw [← exists_parse_eq_request_iff] at htext
  rw [run]
  cases hparse : parse arguments with
  | error stop =>
      have herror : stop.isError = true := by
        by_contra hno
        exact htext ⟨stop, hparse, by simpa using hno⟩
      exact ⟨stop.message, by simp [herror]⟩
  | ok values =>
      have hsingle : single program values = .error (.usage program) := by
        rw [single.eq_def]
        split
        · exact absurd hparse (hupdate _)
        · rfl
      simp only [hsingle]
      exact ⟨_, rfl⟩

lemma output_usageEnd (fs : FileSystem) (program errorOutput : String) :
    (usageEnd fs program errorOutput).output = "Usage: " ++ program ++ " X.Y.Z\n" := by
  have hend : " X.Y.Z" ++ "\n" = " X.Y.Z\n" := rfl
  show "Usage: " ++ program ++ " X.Y.Z" ++ "\n" = _
  rw [String.append_assoc, hend]

/-! ## Attempts can be observed -/

/-- **An attempt** at an update with a version: in every file system and with every log settings the
program does what the update of the default targets does. -/
def Attempts (program : String) (arguments : List (List UInt8)) (version : String) : Prop :=
  ∀ fs settings, run fs program arguments settings = update fs (.read settings) version

/-- **The text about a file that cannot be accessed**: what was tried, the path, and the reason. -/
def errorChain (version path : String) (cause : AccessError) : String :=
  "Error: Failed to update version to " ++ version ++
    "\n\nCaused by:\n    0: Failed to access file '" ++ path ++ "'\n    1: " ++ cause.message ++
    "\n"

lemma failureText_fileAccess (version path : String) (cause : AccessError) :
    failureText version (.fileAccess path cause) = errorChain version path cause := by
  have hfirst : "\n\nCaused by:\n" ++ "    0: " ++ "Failed to access file '"
      = "\n\nCaused by:\n    0: Failed to access file '" := rfl
  have hsecond : "'" ++ "\n    1: " = "'\n    1: " := rfl
  delta errorChain
  rw [← hfirst, ← hsecond]
  show "Error: Failed to update version to " ++ version ++ "\n\nCaused by:\n" ++
    ("    0: " ++ ("Failed to access file '" ++ path ++ "'") ++ "\n    1: " ++ cause.message ++
      "\n") = _
  simp only [String.append_assoc]

/-- The version can be read off it. -/
lemma errorChain_injective {version version' path : String} {cause : AccessError}
    (h : errorChain version path cause = errorChain version' path cause) : version = version' := by
  delta errorChain at h
  simp only [← String.toList_inj, String.toList_append, List.append_cancel_right_eq,
    List.append_cancel_left_eq] at h
  exact String.toList_inj.1 h

/-- A file system without any entry. -/
def noFiles : FileSystem where
  entries := []
  workingDirectory := []

/-- Where there are no entries the project file is not found. -/
lemma readText_noFiles : noFiles.readText projectTarget.path = .error .notFound := rfl

/-- Log settings that show nothing. -/
lemma not_shows_off (record : Log.Record) :
    (Log.Settings.read (some "off")).shows record = false := rfl

/-- Where there is no file and the log is off, an update tells nothing but its version. -/
lemma update_noFiles (version : String) :
    update noFiles (.read (some "off")) version =
      ⟨1, "", errorChain version projectTarget.path .notFound, noFiles⟩ := by
  have hproject : (updateFile noFiles projectTarget version).result
      = .error (.fileAccess projectTarget.path .notFound) := by
    simp only [updateFile, readText_noFiles]
  have hquiet : ∀ log : List Log.Record,
      log.filter (Log.Settings.read (some "off")).shows = [] := by
    intro log
    exact List.filter_eq_nil_iff.2 fun record _ => by simp [not_shows_off]
  simp only [update, updateAll, defaultTargets, updateEach_of_error hproject, hquiet,
    failureText_fileAccess]
  rfl

/-- **Attempts** are made exactly where the arguments ask for one. -/
lemma attempts_iff : Attempts program arguments version ↔ AsksForUpdate arguments version := by
  constructor
  · intro h
    have hrun := h noFiles (some "off")
    rw [update_noFiles] at hrun
    by_cases hupdate : ∃ version', AsksForUpdate arguments version'
    · obtain ⟨version', hversion'⟩ := hupdate
      rw [run_of_asksForUpdate hversion', update_noFiles] at hrun
      rwa [← errorChain_injective (congrArg Execution.errorOutput hrun)]
    by_cases htext : AsksForText arguments
    · obtain ⟨text, hend⟩ := run_of_asksForText htext
      rw [hend] at hrun
      cases congrArg Execution.exitStatus hrun
    · obtain ⟨errorOutput, hend⟩ := run_of_neither (not_exists.1 hupdate) htext
      rw [hend] at hrun
      cases congrArg Execution.exitStatus hrun
  · intro h fs settings
    exact run_of_asksForUpdate h

/-! ## The main statements -/

/-- **The decision of the command line.**  An update with a version is attempted exactly if the
arguments are this version alone, not special, or `--` and this version.  Then the exit status tells
whether the update of the default targets succeeded, nothing is printed, and the file system is the
one that the update leaves.

With any other arguments the file system stays as it is.  The exit status is zero exactly if the
first argument asks for a text, and otherwise the usage line is printed and the status is 42.  Lists
with an argument that is not text are among these. -/
theorem command_line_decision (program : String) (arguments : List (List UInt8)) :
    (∀ version, Attempts program arguments version ↔ AsksForUpdate arguments version) ∧
    ∀ fs settings,
      let execution := run fs program arguments settings
      (∀ version, AsksForUpdate arguments version →
        execution.exitStatus = (if (updateAll fs defaultTargets version).failed then 1 else 0) ∧
        execution.output = "" ∧
        execution.files = (updateAll fs defaultTargets version).files) ∧
      ((∀ version, ¬ AsksForUpdate arguments version) →
        execution.files = fs ∧
        (execution.exitStatus = 0 ↔ AsksForText arguments) ∧
        (¬ AsksForText arguments →
          execution.exitStatus = 42 ∧
          execution.output = "Usage: " ++ program ++ " X.Y.Z\n")) ∧
      ((∃ argument ∈ arguments, ¬ Textual argument) →
        ∀ version, ¬ AsksForUpdate arguments version) := by
  refine ⟨fun version => attempts_iff, fun fs settings => ⟨?_, ?_, ?_⟩⟩
  · intro version h
    rw [run_of_asksForUpdate h]
    exact ⟨exitStatus_update _ _ _, output_update _ _ _, files_update _ _ _⟩
  · intro hupdate
    by_cases htext : AsksForText arguments
    · obtain ⟨text, hend⟩ := run_of_asksForText htext
      rw [hend]
      exact ⟨rfl, iff_of_true rfl htext, fun hno => absurd htext hno⟩
    · obtain ⟨errorOutput, hend⟩ := run_of_neither hupdate htext
      rw [hend]
      refine ⟨rfl, iff_of_false ?_ htext, fun _ => ⟨rfl, output_usageEnd _ _ _⟩⟩
      show ¬ usageStatus = 0
      decide
  · rintro ⟨argument, hmem, hno⟩ version hupdate
    exact hno (hupdate.textual argument hmem)

/-- After `--` even `--help` is a version, and a byte that is no text leads to the usage line. -/
theorem command_line_decision_on_bytes :
    let execution := run noFiles "up-version" [bytes "2.0.0", [0xFF]] none
    Attempts "up-version" [bytes "--", bytes "--help"] "--help" ∧
      execution.files = noFiles ∧ execution.exitStatus = 42 ∧
      execution.output = "Usage: " ++ "up-version" ++ " X.Y.Z\n" := by
  intro execution
  have hbyte : ¬ Textual [0xFF] := decode?_eq_none_iff.1 rfl
  have hvalue : Shape.of (bytes "2.0.0") = .value := rfl
  obtain ⟨-, hother, hbytes⟩ :=
    (command_line_decision "up-version" [bytes "2.0.0", [0xFF]]).2 noFiles none
  obtain ⟨hfiles, -, husage⟩ := hother (hbytes ⟨_, by simp, hbyte⟩)
  exact ⟨((command_line_decision _ _).1 _).2 (Or.inr rfl), hfiles,
    husage (not_asksForText (by simp [hvalue]) _)⟩

/-- **Counting the arguments.**  Of the lists that are not one argument long and do not ask for a
text, all but those with a version after `--` print the usage line, end with status 42 and leave
every file as it is. -/
theorem usage_iff_not_after_separator (fs : FileSystem) (program : String)
    (arguments : List (List UInt8)) (settings : Option String) (hcount : arguments.length ≠ 1)
    (htext : ¬ AsksForText arguments) :
    let execution := run fs program arguments settings
    (execution.exitStatus = 42 ∧ execution.output = "Usage: " ++ program ++ " X.Y.Z\n" ∧
        execution.files = fs) ↔
      ∀ version, arguments ≠ [bytes "--", bytes version] := by
  constructor
  · rintro ⟨hstatus, -⟩ version rfl
    rw [run_of_asksForUpdate (Or.inr rfl), exitStatus_update] at hstatus
    cases hfailed : (updateAll fs defaultTargets version).failed <;> simp [hfailed] at hstatus
  · intro hseparator
    have hupdate : ∀ version, ¬ AsksForUpdate arguments version := by
      rintro version (⟨rfl, -⟩ | hsame)
      · exact hcount rfl
      · exact hseparator version hsame
    obtain ⟨errorOutput, hend⟩ := run_of_neither hupdate htext
    rw [hend]
    exact ⟨rfl, output_usageEnd _ _ _, rfl⟩

/-! ## A small checkout -/

/-- The default targets, each with an empty version. -/
def sampleCheckout : FileSystem where
  entries :=
    [([], .directory .newDirectory),
      (["AntlrTreeRewriter"], .directory .newDirectory),
      (["AntlrTreeRewriter", "AntlrTreeRewriter"], .directory .newDirectory),
      (["AntlrTreeRewriter", "AntlrTreeRewriter", "AntlrTreeRewriter.csproj"],
        .file "<Version></Version>".toUTF8 .newFile),
      (["README.md"], .file "Version=\"\"".toUTF8 .newFile)]
  workingDirectory := []

lemma sampleCheckout_project :
    sampleCheckout.Opens projectTarget.path
      ["AntlrTreeRewriter", "AntlrTreeRewriter", "AntlrTreeRewriter.csproj"]
      "<Version></Version>" .newFile where
  located := (FileSystem.fileLocation?_eq_some_iff.1 (by decide)).1
  holds := rfl
  readable := rfl

lemma sampleCheckout_document :
    sampleCheckout.Opens documentTarget.path ["README.md"] "Version=\"\"" .newFile where
  located := (FileSystem.fileLocation?_eq_some_iff.1 (by decide)).1
  holds := rfl
  readable := rfl

/-- A run over the default targets can be told beforehand. -/
lemma sampleCheckout_history : History sampleCheckout defaultTargets [] where
  editable := by
    simpa [defaultTargets] using
      ⟨⟨_, _, _, sampleCheckout_project, rfl⟩, ⟨_, _, _, sampleCheckout_document, rfl⟩⟩
  separate := by
    simp [FileSystem.Separate, defaultTargets, sampleCheckout_project.fileLocation?,
      sampleCheckout_document.fileLocation?]
  members := by simp
  forgotten := .nil

/-- A flag that there is not, before a version: both are counted. -/
theorem usage_iff_not_after_separator_on_flag :
    let execution := run sampleCheckout "up-version" [bytes "-v", bytes "2.0.0"] (some "debug")
    execution.exitStatus = 42 ∧ execution.output = "Usage: " ++ "up-version" ++ " X.Y.Z\n" ∧
      execution.files = sampleCheckout := by
  have hvalue : Shape.of (bytes "-v") = .value := rfl
  refine (usage_iff_not_after_separator sampleCheckout "up-version" [bytes "-v", bytes "2.0.0"]
    (some "debug") (by decide) (not_asksForText (by simp [hvalue]) _)).2 ?_
  intro version hsame
  exact absurd (List.cons.inj hsame).1 (by decide)

/-- **`--` is not counted.**  It and a version are two arguments and ask for no text, and yet the
program ends well and the document is another one. -/
theorem separator_not_counted :
    let arguments := [bytes "--", bytes "2.0.0"]
    let execution := run sampleCheckout "up-version" arguments none
    arguments.length ≠ 1 ∧ ¬ AsksForText arguments ∧
      execution.exitStatus = 0 ∧ execution.output = "" ∧ execution.files ≠ sampleCheckout := by
  intro arguments execution
  have hrun : execution = update sampleCheckout (.read none) "2.0.0" :=
    run_of_asksForUpdate (Or.inr rfl)
  obtain ⟨substitutions, hsub⟩ := sampleCheckout_history.exists_substitutions "2.0.0"
  have hok := sampleCheckout_history.updateAll_result hsub
  have hseparator : Shape.of (bytes "--") = .separator := rfl
  rw [hrun, exitStatus_update_of_ok hok, output_update, files_update]
  refine ⟨by decide, not_asksForText (by simp [hseparator]) _, rfl, rfl, ?_⟩
  · intro hfiles
    have hopens := sampleCheckout_history.opens_run (by simp [defaultTargets])
      sampleCheckout_document "2.0.0"
    have hfirst : Marking.quoted.First "Version=\"\"".toList 0 0 :=
      ⟨Text.markedAt_append [] [] [] (by simp), by simp, by simp⟩
    have hnew := Marking.replaceFirst_of_first hfirst "2.0.0"
    rw [hfiles] at hopens
    have hsame := Except.ok.inj (hopens.readText.symm.trans sampleCheckout_document.readText)
    rw [show documentTarget.pattern = Marking.quoted.pattern from rfl, hnew] at hsame
    exact absurd (congrArg String.toList hsame) (by decide)

end VersionBump.CommandLine
