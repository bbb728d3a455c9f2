import VersionBump.Proofs.FileSystem.Content
import VersionBump.Update

/-!
# What the update of one file can come to

`updateFile` ends in one of three ways, and `updateFile_attempt` lists them with all that each
leaves behind: result, log and file system.  The file cannot be read as text; it can be read but
not written; or it is rewritten.  Everything about runs over several files is derived from this
list, and nothing below looks into `updateFile` again.
-/

namespace VersionBump

variable {fs : FileSystem} {target : Target} {version : String}

/-- **The three outcomes** of an update of one file. -/
inductive Attempt (fs : FileSystem) (target : Target) (version : String) : Run Substitution → Prop
  /-- The file cannot be read as text.  Nothing was looked for in it. -/
  | unreadable {cause : AccessError} (h : fs.readText target.path = .error cause) :
      Attempt fs target version
        ⟨.error (.fileAccess target.path cause), [readingRecord target.path], fs⟩
  /-- The file was read, but writing it back is refused. -/
  | unwritable {location : Location} {text : String} {mode : Mode}
      (h : fs.Opens target.path location text mode) (hwrite : mode.write = false) :
      Attempt fs target version
        ⟨.error (.fileAccess target.path .permissionDenied),
          [readingRecord target.path,
            foundRecord target.path (replaceFirst target.pattern text version).2], fs⟩
  /-- The file was read and its new content put in place. -/
  | written {location : Location} {text : String} {mode : Mode}
      (h : fs.Opens target.path location text mode) (hwrite : mode.write = true) :
      Attempt fs target version
        ⟨.ok ⟨target.path, (replaceFirst target.pattern text version).2⟩,
          [readingRecord target.path,
            foundRecord target.path (replaceFirst target.pattern text version).2],
          fs.setContent location (replaceFirst target.pattern text version).1.toUTF8⟩

/-- The update of a file that can be read and written. -/
theorem FileSystem.Opens.updateFile {location : Location} {text : String} {mode : Mode}
    (h : fs.Opens target.path location text mode) (hwrite : mode.write = true)
    (version : String) :
    updateFile fs target version =
      ⟨.ok ⟨target.path, (replaceFirst target.pattern text version).2⟩,
        [readingRecord target.path,
          foundRecord target.path (replaceFirst target.pattern text version).2],
        fs.setContent location (replaceFirst target.pattern text version).1.toUTF8⟩ := by
  rw [VersionBump.updateFile]
  simp only [h.readText, h.writeFile, hwrite, if_true]

/-- The update of a file that can be read but not written. -/
theorem FileSystem.Opens.updateFile_refused {location : Location} {text : String} {mode : Mode}
    (h : fs.Opens target.path location text mode) (hwrite : mode.write = false)
    (version : String) :
    VersionBump.updateFile fs target version =
      ⟨.error (.fileAccess target.path .permissionDenied),
        [readingRecord target.path,
          foundRecord target.path (replaceFirst target.pattern text version).2], fs⟩ := by
  rw [VersionBump.updateFile]
  simp only [h.readText, h.writeFile, hwrite, Bool.false_eq_true, if_false]

/-- **No other outcome.** -/
theorem updateFile_attempt (fs : FileSystem) (target : Target) (version : String) :
    Attempt fs target version (updateFile fs target version) := by
  cases hread : fs.readText target.path with
  | error cause =>
      simp only [updateFile, hread]
      exact .unreadable hread
  | ok text =>
      obtain ⟨location, mode, hopens⟩ := FileSystem.readText_eq_ok_iff.1 hread
      cases hwrite : mode.write with
      | true =>
          rw [hopens.updateFile hwrite]
          exact .written hopens hwrite
      | false =>
          rw [hopens.updateFile_refused hwrite]
          exact .unwritable hopens hwrite

/-- There is no replacement or there is one. -/
lemma replaceFirst_snd (pattern : Pattern) (text version : String) :
    (replaceFirst pattern text version).2 = 0 ∨ (replaceFirst pattern text version).2 = 1 := by
  rw [replaceFirst]
  split
  · exact Or.inl rfl
  · exact Or.inr rfl

/-- A failed update changes nothing. -/
lemma updateFile_files_of_error {e : UpdateError}
    (h : (updateFile fs target version).result = .error e) :
    (updateFile fs target version).files = fs := by
  have hattempt := updateFile_attempt fs target version
  generalize updateFile fs target version = run at h hattempt ⊢
  cases hattempt with
  | unreadable _ => rfl
  | unwritable _ _ => rfl
  | written _ _ => simp at h

/-- An update reports that it reads, and perhaps what it found. -/
lemma mem_log_updateFile {record : Log.Record}
    (h : record ∈ (updateFile fs target version).log) :
    record = readingRecord target.path ∨ ∃ replaced, record = foundRecord target.path replaced := by
  have hattempt := updateFile_attempt fs target version
  generalize updateFile fs target version = run at h hattempt
  cases hattempt with
  | unreadable _ => exact Or.inl (List.mem_singleton.1 h)
  | unwritable _ _ =>
      simp only [List.mem_cons, List.not_mem_nil, or_false] at h
      exact h.imp_right fun hfound => ⟨_, hfound⟩
  | written _ _ =>
      simp only [List.mem_cons, List.not_mem_nil, or_false] at h
      exact h.imp_right fun hfound => ⟨_, hfound⟩

/-- An update changes no path, kind, mode or link. -/
@[simp] lemma skeleton_updateFile (fs : FileSystem) (target : Target) (version : String) :
    (updateFile fs target version).files.skeleton = fs.skeleton := by
  have hattempt := updateFile_attempt fs target version
  generalize updateFile fs target version = run at hattempt ⊢
  cases hattempt with
  | unreadable _ => rfl
  | unwritable _ _ => rfl
  | written _ _ => exact fs.skeleton_setContent _ _

end VersionBump
