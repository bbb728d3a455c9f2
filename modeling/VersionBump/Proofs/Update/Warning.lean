import VersionBump.Proofs.SemanticVersion
import VersionBump.Proofs.Update.Reports

/-!
# When a run warns

A run warns before its first update or not at all, since no update logs a warning
(`filter_isWarning_updateEach`).  So the warnings of a run are a matter of the version alone, and by
`isSemanticVersion_iff` it is the grammar of semantic versions that decides.  Targets and files play
no part.
-/

namespace VersionBump

/-- Whether a record is a warning. -/
def Log.Record.isWarning (record : Log.Record) : Bool := record.level = .warn

/-- **No update warns**, whatever comes of it. -/
lemma isWarning_of_mem_updateFile {fs : FileSystem} {target : Target} {version : String}
    {record : Log.Record} (h : record ∈ (updateFile fs target version).log) :
    record.isWarning = false := by
  rcases mem_log_updateFile h with rfl | ⟨replaced, rfl⟩
  · rfl
  · rw [foundRecord]
    split <;> rfl

lemma filter_isWarning_updateEach (fs : FileSystem) (version : String) (targets : List Target) :
    (updateEach fs version targets).log.filter Log.Record.isWarning = [] := by
  rw [log_updateEach, List.filter_eq_nil_iff]
  intro record hrecord
  obtain ⟨turn, -, hmem⟩ := List.mem_flatMap.1 hrecord
  simp [isWarning_of_mem_updateFile hmem]

/-- **Warned exactly about texts that are no semantic versions.**  A run logs one warning, about its
version, if the version is not of the form `MAJOR.MINOR.PATCH[-PRE][+BUILD]`, and otherwise none. -/
theorem warned_iff_not_version (fs : FileSystem) (targets : List Target) (version : String) :
    let warnings := (updateAll fs targets version).log.filter Log.Record.isWarning
    (warnings = [⟨.warn, "'" ++ version ++ "' is not a semantic version, writing it anyway"⟩] ↔
        ¬ Grammar.Version version.toList) ∧
      (warnings = [] ↔ Grammar.Version version.toList) := by
  intro warnings
  have hwarnings : warnings = (openingRecords version).filter Log.Record.isWarning := by
    simp only [warnings, updateAll, List.filter_append, filter_isWarning_updateEach, List.append_nil]
  rw [hwarnings, ← isSemanticVersion_iff, openingRecords]
  cases isSemanticVersion version <;> simp [Log.Record.isWarning]

end VersionBump
