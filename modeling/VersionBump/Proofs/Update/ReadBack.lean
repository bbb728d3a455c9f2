import Mathlib.Data.List.Forall2
import VersionBump.Proofs.SemanticVersion
import VersionBump.Proofs.Update.Access
import VersionBump.Proofs.Update.History

/-!
# Without a warning, versions read back

The warning is given for versions that are no semantic versions.  Nothing in the program ties it to
the marks around a version; the tie is in the characters.  A semantic version has no line break, and
none of its characters starts a closing mark, so it is safe for every marking
(`Marking.safe_of_isSemanticVersion`).

A run over separate files is a history with one call for each target, and `version_reads_back` puts
the parts together: where a version was replaced the pattern finds the new one, and where none was
the file is as it was and has none.
-/

namespace VersionBump

/-! ## Versions without a warning -/

/-- **Semantic versions are safe.** -/
lemma Marking.safe_of_isSemanticVersion (m : Marking) {version : String}
    (h : isSemanticVersion version = true) : m.Safe version := by
  have hchars := isVersionChar_of_isSemanticVersion h
  have hline : '\n' ∉ version.toList := fun hmem => absurd (hchars _ hmem) (by decide)
  cases m with
  | element =>
      exact safe_of_notMem (c := '<') hline (by decide)
        fun hmem => absurd (hchars _ hmem) (by decide)
  | quoted =>
      exact safe_of_notMem (c := '"') hline (by decide)
        fun hmem => absurd (hchars _ hmem) (by decide)

/-- Nothing else is warned about, so a log without a warning is that of a semantic version. -/
lemma isSemanticVersion_of_quiet {fs : FileSystem} {targets : List Target} {version : String}
    (h : ∀ record ∈ (updateAll fs targets version).log, record.level ≠ .warn) :
    isSemanticVersion version = true := by
  by_contra hno
  refine h ⟨.warn, "'" ++ version ++ "' is not a semantic version, writing it anyway"⟩ ?_ rfl
  simp [updateAll, openingRecords, hno]

/-! ## Runs that succeed -/

/-- What holds of each part of a list that was worked through holds of the whole. -/
lemma forall₂_of_mapM {α β ε : Type} {f : α → Except ε β} {P : α → β → Prop} {inputs : List α}
    {outputs : List β} (h : inputs.mapM f = .ok outputs)
    (hP : ∀ a ∈ inputs, ∀ b, f a = .ok b → P a b) : List.Forall₂ P inputs outputs := by
  induction inputs generalizing outputs with
  | nil =>
      cases h
      exact .nil
  | cons a inputs ih =>
      rw [List.mapM_cons] at h
      cases hfirst : f a with
      | error e =>
          rw [hfirst] at h
          cases h
      | ok b =>
          rw [hfirst] at h
          cases hrest : inputs.mapM f with
          | error e =>
              rw [hrest] at h
              cases h
          | ok bs =>
              rw [hrest] at h
              cases h
              exact .cons (hP a (by simp) b hfirst) (ih hrest fun a' ha' => hP a' (by simp [ha']))

/-- A target that could be updated leads to a text that may be read and written. -/
lemma editable_of_verdict {fs : FileSystem} {target : Target} {path : String}
    (h : fs.verdict target.path = .ok path) : fs.Editable target.path := by
  rw [← updateFile_verdict fs target ""] at h
  have hattempt := updateFile_attempt fs target ""
  generalize updateFile fs target "" = run at h hattempt
  cases hattempt with
  | unreadable _ => cases h
  | unwritable _ _ => cases h
  | written hopens hwrite => exact ⟨_, _, _, hopens, hwrite⟩

/-- **A run that succeeds** can update all its targets from the start. -/
lemma editable_of_updateAll {fs : FileSystem} {targets : List Target} {version : String}
    {substitutions : List Substitution}
    (h : (updateAll fs targets version).result = .ok substitutions) :
    ∀ t ∈ targets, fs.Editable t.path := by
  have hverdict := updateEach_verdict fs version targets
  have hresult : (updateEach fs version targets).result = .ok substitutions := h
  rw [hresult] at hverdict
  have hall : List.Forall₂ (fun t _ => fs.Editable t.path ∧ True) targets
      (substitutions.map Substitution.path) :=
    forall₂_of_mapM hverdict.symm fun t _ path hpath => ⟨editable_of_verdict hpath, trivial⟩
  exact ((List.forall₂_and_left _ _).1 hall).1

/-! ## What a run leaves in one file -/

section run

variable {fs : FileSystem} {targets : List Target} {version : String} {t : Target}

/-- The call of a target is the last one for its file. -/
lemma lastCall?_runCalls (hseparate : fs.Separate targets) (ht : t ∈ targets) {location : Location}
    (hlocation : fs.fileLocation? t.path = some location) :
    lastCall? fs (runCalls targets version) location = some (t, version) := by
  have hmem : (t, version) ∈ (runCalls targets version).reverse :=
    List.mem_reverse.2 (List.mem_map.2 ⟨t, ht, rfl⟩)
  cases hlast : lastCall? fs (runCalls targets version) location with
  | none =>
      rw [lastCall?, List.find?_eq_none] at hlast
      exact absurd hlocation (by simpa using hlast _ hmem)
  | some last =>
      obtain ⟨t', ht', rfl⟩ := List.mem_map.1
        (List.mem_reverse.1 (List.mem_of_find?_eq_some hlast))
      have hlocation' : fs.fileLocation? t'.path = some location := by
        simpa using List.find?_some hlast
      rw [hseparate.eq_of_location ht' ht (hlocation'.trans hlocation.symm)]

/-- The file of a target holds the new text. -/
lemma History.opens_run (h : History fs targets []) (ht : t ∈ targets) {location : Location}
    {text : String} {mode : Mode} (hopens : fs.Opens t.path location text mode) (version : String) :
    (updateAll fs targets version).files.Opens t.path location
      (replaceFirst t.pattern text version).1 mode := by
  have hfiles : (updateAll fs targets version).files
      = fs.overwrite (lastContent? fs (runCalls targets version)) := by
    rw [← (h.run version).files_eq_overwrite]
    simp only [updateAll, h.updateEach_run version]
  rw [hfiles]
  apply hopens.overwrite
  rw [lastContent?, lastCall?_runCalls h.separate ht hopens.fileLocation?]
  simp only [hopens.readText, Option.getD_some]

end run

/-- Two file systems in which a path opens the same text resolve it to the same place. -/
lemma FileSystem.Opens.resolve_eq {fs gs : FileSystem} {path : String} {location : Location}
    {text : String} {mode : Mode} (h : fs.Opens path location text mode)
    (h' : gs.Opens path location text mode) : gs.resolve path = fs.resolve path := by
  rw [h.resolve_eq_ok, h'.resolve_eq_ok]

/-- **Reading back.**  What one substitution of a run says about the file of its target: either the
pattern finds the version there, in its group, or the file is as it was and the pattern finds
nothing. -/
def ReadsBack (before after : FileSystem) (version : String) (target : Target)
    (substitution : Substitution) : Prop :=
  ∃ text, after.readText target.path = .ok text ∧
    (substitution.replaced = 1 ∧
        (∃ found span, target.pattern.search markerGroup text.toList.toArray = some found ∧
          found.group = some span ∧ span.chars text.toList = version.toList) ∨
      substitution.replaced = 0 ∧ after.resolve target.path = before.resolve target.path ∧
        target.pattern.search markerGroup text.toList.toArray = none)

/-- **Without a warning, versions read back.**  If a run over targets with a marked version, which
lead to different files, logs no warning and succeeds, then there is one substitution for each
target; where a version was replaced the pattern finds the new one in the new content of the file,
and where none was the file is unchanged and the pattern finds nothing in it. -/
theorem version_reads_back (fs : FileSystem) (targets : List Target) (version : String)
    (hmarked : ∀ t ∈ targets, ∃ m : Marking, t.source = m.source)
    (hseparate : fs.Separate targets)
    (hquiet : ∀ record ∈ (updateAll fs targets version).log, record.level ≠ .warn)
    (substitutions : List Substitution)
    (hok : (updateAll fs targets version).result = .ok substitutions) :
    List.Forall₂ (ReadsBack fs (updateAll fs targets version).files version) targets
      substitutions := by
  have hsemantic := isSemanticVersion_of_quiet hquiet
  have hhistory : History fs targets [] :=
    ⟨editable_of_updateAll hok, hseparate, by simp, .nil⟩
  have hresults : (targets.mapM fun t => (updateFile fs t version).result) = .ok substitutions := by
    rw [← hok]
    simp only [updateAll, hhistory.updateEach_run version]
  refine forall₂_of_mapM hresults fun t ht substitution hsub => ?_
  obtain ⟨location, text, mode, hopens, hwrite⟩ := hhistory.editable t ht
  have hafter := hhistory.opens_run ht hopens version
  rw [hopens.updateFile hwrite version, Except.ok.injEq] at hsub
  subst hsub
  refine ⟨_, hafter.readText, ?_⟩
  rcases replaceFirst_snd t.pattern text version with hzero | hone
  · obtain ⟨hsearch, hsame⟩ := search_eq_none_of_replaceFirst hzero
    rw [hsame] at hafter ⊢
    exact Or.inr ⟨hzero, hopens.resolve_eq hafter, hsearch⟩
  · obtain ⟨m, hm⟩ := hmarked t ht
    rw [Target.pattern_eq hm] at hone ⊢
    have hsafe := m.safe_of_isSemanticVersion hsemantic
    exact Or.inl ⟨hone, hsafe.search_replaceFirst (by simp [hone])⟩

/-- The versions of the project file and of the document read back, and the notes have none. -/
theorem version_reads_back_on_sample :
    List.Forall₂
      (ReadsBack sampleFiles (updateAll sampleFiles sampleTargets "2.0.0-rc.1").files "2.0.0-rc.1")
      sampleTargets [⟨"app.csproj", 1⟩, ⟨"./README.md", 1⟩, ⟨"notes", 0⟩] := by
  have hsemantic : isSemanticVersion "2.0.0-rc.1" = true := by decide +kernel
  have hproject : (replaceFirst sampleProject.pattern "<Version>1.0.0</Version>\n"
      "2.0.0-rc.1").2 = 1 :=
    @Marking.replaced_of_markedAt .element _ _ _
      (Text.markedAt_append [] "1.0.0".toList ['\n'] (by decide)) _
  have hdocument : (replaceFirst sampleDocument.pattern "Version=\"1.0.0\" \"\n"
      "2.0.0-rc.1").2 = 1 :=
    @Marking.replaced_of_markedAt .quoted _ _ _
      (Text.markedAt_append [] "1.0.0".toList " \"\n".toList (by decide)) _
  have hnotes : (replaceFirst sampleNotes.pattern "-" "2.0.0-rc.1").2 = 0 := by
    decide +kernel
  have hhistory : History sampleFiles sampleTargets [] :=
    ⟨sampleTargets_editable, sampleTargets_separate, by simp, .nil⟩
  have hrun := hhistory.updateEach_run "2.0.0-rc.1"
  simp only [sampleTargets, List.mapM_cons, List.mapM_nil, List.flatMap_cons, List.flatMap_nil,
    sampleFiles_project.updateFile rfl, sampleFiles_document.updateFile rfl,
    sampleFiles_notes.updateFile rfl, hproject, hdocument, hnotes] at hrun
  refine version_reads_back sampleFiles sampleTargets "2.0.0-rc.1" sampleTargets_marked
    sampleTargets_separate ?_ _ ?_
  · simp [updateAll, sampleTargets, hrun, openingRecords, hsemantic, readingRecord, foundRecord]
  · simp only [updateAll, sampleTargets, hrun]
    rfl

end VersionBump
