import Mathlib.Data.List.Induction
import Mathlib.Data.List.Pairwise
import VersionBump.Proofs.Replacement.Marking
import VersionBump.Proofs.Update.Step

/-!
# Histories of updates: the last version wins

A history is a list of calls, each of which puts a version into a target.  The targets lead to
different files, so a call is seen only by later calls for the same target.

What a history leaves is told without running it: `lastContent?` takes the last call for each file
and applies its replacement to what the file held *at first*.  The simulation is
`History.files_eq_overwrite`: as long as each version but the last one for its file is forgotten
when another one takes its place (`Target.Forgets`), the file system after the calls is the first
one with these contents.  The step of the simulation, `History.step`, also says that a call reports
what it would have reported at first.

`last_version_wins` is this for targets with a marked version, where the safe versions are the ones
that are forgotten.
-/

namespace VersionBump

/-! ## Calls -/

/-- A version for a target. -/
abbrev Call := Target × String

/-- The file system after the given calls, one after another. -/
def updateCalls (fs : FileSystem) (calls : List Call) : FileSystem :=
  calls.foldl (fun files call => (updateFile files call.1 call.2).files) fs

lemma updateCalls_snoc (fs : FileSystem) (calls : List Call) (call : Call) :
    updateCalls fs (calls ++ [call])
      = (updateFile (updateCalls fs calls) call.1 call.2).files := by
  rw [updateCalls, List.foldl_append]
  rfl

/-- The calls of a run over all the targets. -/
def runCalls (targets : List Target) (version : String) : List Call :=
  targets.map fun t => (t, version)

/-- The path leads to a file that holds text and may be read and written. -/
def FileSystem.Editable (fs : FileSystem) (path : String) : Prop :=
  ∃ location text mode, fs.Opens path location text mode ∧ mode.write = true

/-- The targets lead to different files. -/
def FileSystem.Separate (fs : FileSystem) (targets : List Target) : Prop :=
  targets.Pairwise fun t t' => fs.fileLocation? t.path ≠ fs.fileLocation? t'.path

/-- There is one target for each file. -/
lemma FileSystem.Separate.eq_of_location {fs : FileSystem} {targets : List Target}
    (h : fs.Separate targets) {t t' : Target} (ht : t ∈ targets) (ht' : t' ∈ targets)
    (hsame : fs.fileLocation? t.path = fs.fileLocation? t'.path) : t = t' := by
  have hsymm : Std.Symm fun t t' : Target => fs.fileLocation? t.path ≠ fs.fileLocation? t'.path :=
    ⟨fun _ _ => Ne.symm⟩
  by_contra hne
  exact h.forall ht ht' hne hsame

/-- The last call for the file at a location. -/
def lastCall? (fs : FileSystem) (calls : List Call) (location : Location) : Option Call :=
  calls.reverse.find? fun call => fs.fileLocation? call.1.path = some location

/-- **What a history leaves.**  The new content of the file at a location: the text that it held at
first, with the last version for it in place. -/
def lastContent? (fs : FileSystem) (calls : List Call) (location : Location) : Option ByteArray :=
  match lastCall? fs calls location with
  | none => none
  | some (target, version) =>
    match fs.readText target.path with
    | .error _ => none
    | .ok text => some (replaceFirst target.pattern text version).1.toUTF8

lemma lastCall?_snoc (fs : FileSystem) (calls : List Call) (call : Call) (location : Location) :
    lastCall? fs (calls ++ [call]) location =
      if fs.fileLocation? call.1.path = some location then some call
      else lastCall? fs calls location := by
  simp only [lastCall?, List.reverse_append, List.reverse_singleton, List.singleton_append,
    List.find?_cons]
  by_cases h : fs.fileLocation? call.1.path = some location <;> simp [h]

/-! ## Versions that are forgotten -/

/-- A version that leaves no trace when another one takes its place. -/
def Target.Forgets (target : Target) (version : String) : Prop :=
  ∀ text version', replaceFirst target.pattern (replaceFirst target.pattern text version).1 version'
    = replaceFirst target.pattern text version'

/-- **A history over separate files.**  Every version but the last one for its file is forgotten. -/
structure History (fs : FileSystem) (targets : List Target) (calls : List Call) : Prop where
  editable : ∀ t ∈ targets, fs.Editable t.path
  separate : fs.Separate targets
  members : ∀ call ∈ calls, call.1 ∈ targets
  forgotten : calls.Pairwise fun call later =>
    fs.fileLocation? call.1.path = fs.fileLocation? later.1.path → call.1.Forgets call.2

namespace History

variable {fs : FileSystem} {targets : List Target} {calls : List Call} {call : Call}

/-- The beginning of a history is one. -/
lemma left {later : List Call} (h : History fs targets (calls ++ later)) :
    History fs targets calls where
  editable := h.editable
  separate := h.separate
  members c hc := h.members c (List.mem_append_left later hc)
  forgotten := (List.pairwise_append.1 h.forgotten).1

/-- The last call for the file of the next one was for the same target, with a version that is
forgotten. -/
lemma lastCall?_eq_some (h : History fs targets (calls ++ [call])) {location : Location}
    (hlocation : fs.fileLocation? call.1.path = some location) {last : Call}
    (hlast : lastCall? fs calls location = some last) :
    last.1 = call.1 ∧ last.1.Forgets last.2 := by
  have hmem : last ∈ calls := List.mem_reverse.1 (List.mem_of_find?_eq_some hlast)
  have hsame : fs.fileLocation? last.1.path = fs.fileLocation? call.1.path := by
    rw [hlocation]
    simpa using List.find?_some hlast
  refine ⟨?_, (List.pairwise_append.1 h.forgotten).2.2 last hmem call (by simp) hsame⟩
  exact h.separate.eq_of_location (h.members last (by simp [hmem])) (h.members call (by simp)) hsame

/-- What a file holds in the middle of a history replaces like what it held at first. -/
lemma current (h : History fs targets (calls ++ [call])) {location : Location} {text : String}
    {mode : Mode} (hopens : fs.Opens call.1.path location text mode) :
    ∃ current : String, (lastContent? fs calls location).getD text.toUTF8 = current.toUTF8 ∧
      ∀ version, replaceFirst call.1.pattern current version
        = replaceFirst call.1.pattern text version := by
  rw [lastContent?]
  cases hlast : lastCall? fs calls location with
  | none => exact ⟨text, rfl, fun _ => rfl⟩
  | some last =>
      obtain ⟨hsame, hforgets⟩ := h.lastCall?_eq_some hopens.fileLocation? hlast
      obtain ⟨target, version⟩ := last
      obtain rfl : target = call.1 := hsame
      simp only [hopens.readText]
      exact ⟨_, rfl, hforgets text⟩

/-- **One more call.**  It reports what it would have reported at first, and is the last one for its
file. -/
lemma step (h : History fs targets (calls ++ [call])) :
    updateFile (fs.overwrite (lastContent? fs calls)) call.1 call.2 =
      { updateFile fs call.1 call.2 with
        files := fs.overwrite (lastContent? fs (calls ++ [call])) } := by
  obtain ⟨location, text, mode, hopens, hwrite⟩ := h.editable call.1 (h.members call (by simp))
  obtain ⟨current, hcurrent, hreplace⟩ := h.current hopens
  rw [(hopens.overwrite hcurrent).updateFile hwrite, hopens.updateFile hwrite,
    FileSystem.setContent_overwrite, hreplace]
  congr 2
  funext l
  rw [lastContent?, lastContent?, lastCall?_snoc, hopens.fileLocation?]
  by_cases hl : l = location
  · subst hl
    simp only [if_true, hopens.readText]
  · rw [if_neg hl, if_neg (by simpa [eq_comm] using hl)]

/-- **The simulation.**  The calls leave the file system with the contents that they leave. -/
lemma files_eq_overwrite (h : History fs targets calls) :
    updateCalls fs calls = fs.overwrite (lastContent? fs calls) := by
  induction calls using List.reverseRecOn with
  | nil => exact fs.overwrite_none.symm
  | append_singleton calls call ih =>
      rw [updateCalls_snoc, ih h.left, h.step]

/-- In the middle of a history a call succeeds and reports what it would have reported at first. -/
lemma updateFile_eq (h : History fs targets (calls ++ [call])) :
    updateFile (updateCalls fs calls) call.1 call.2 =
      { updateFile fs call.1 call.2 with files := updateCalls fs (calls ++ [call]) } := by
  rw [h.left.files_eq_overwrite, h.step, h.files_eq_overwrite]

lemma result_eq_ok (h : History fs targets calls) (hmem : call ∈ calls) :
    ∃ substitution, (updateFile fs call.1 call.2).result = .ok substitution := by
  obtain ⟨location, text, mode, hopens, hwrite⟩ := h.editable call.1 (h.members call hmem)
  rw [hopens.updateFile hwrite]
  exact ⟨_, rfl⟩

/-- The calls of a run are a history. -/
lemma run (h : History fs targets calls) (version : String) :
    History fs targets (runCalls targets version) where
  editable := h.editable
  separate := h.separate
  members := by
    intro call hcall
    obtain ⟨t, ht, rfl⟩ := List.mem_map.1 hcall
    exact ht
  forgotten := by
    rw [runCalls, List.pairwise_map]
    exact h.separate.imp fun hne hsame => absurd hsame hne

/-- They can follow on a history whose versions are all forgotten. -/
lemma append_run (h : History fs targets calls) (hall : ∀ call ∈ calls, call.1.Forgets call.2)
    (version : String) : History fs targets (calls ++ runCalls targets version) where
  editable := h.editable
  separate := h.separate
  members := by
    intro call hcall
    rcases List.mem_append.1 hcall with hcall | hcall
    · exact h.members call hcall
    · exact (h.run version).members call hcall
  forgotten := List.pairwise_append.2
    ⟨h.forgotten, (h.run version).forgotten, fun call hcall _ _ _ => hall call hcall⟩

/-- **A run** reports for each target what the call for it would have reported at first. -/
lemma updateEach_eq {version : String} {rest : List Target}
    (h : History fs targets (calls ++ runCalls rest version)) :
    updateEach (updateCalls fs calls) version rest =
      ⟨rest.mapM fun t => (updateFile fs t version).result,
        rest.flatMap fun t => (updateFile fs t version).log,
        updateCalls fs (calls ++ runCalls rest version)⟩ := by
  induction rest generalizing calls with
  | nil =>
      rw [runCalls, List.map_nil, List.append_nil]
      rfl
  | cons t rest ih =>
      rw [runCalls, List.map_cons, List.append_cons, ← runCalls] at h ⊢
      obtain ⟨substitution, hsub⟩ := h.left.result_eq_ok
        (show (t, version) ∈ calls ++ [(t, version)] by simp)
      have hcall := h.left.updateFile_eq
      simp only at hsub hcall
      simp only [updateEach, hcall, hsub, ih h]
      rw [List.mapM_cons, List.flatMap_cons, hsub]
      rfl

/-- A run on the first file system. -/
lemma updateEach_run (h : History fs targets calls) (version : String) :
    updateEach fs version targets =
      ⟨targets.mapM fun t => (updateFile fs t version).result,
        targets.flatMap fun t => (updateFile fs t version).log,
        updateCalls fs (runCalls targets version)⟩ :=
  @updateEach_eq fs targets [] version targets (h.run version)

/-- After a history whose versions are all forgotten a run reports what it would have reported at
first. -/
lemma updateAll_eq (h : History fs targets calls) (hall : ∀ call ∈ calls, call.1.Forgets call.2)
    (version : String) :
    updateAll (updateCalls fs calls) targets version =
      { updateAll fs targets version with
        files := updateCalls fs (calls ++ runCalls targets version) } := by
  simp only [updateAll, (h.append_run hall version).updateEach_eq, h.updateEach_run version]

/-- What a run leaves is left by a second run as it is. -/
lemma updateAll_twice (h : History fs targets calls) {version : String}
    (hall : ∀ t ∈ targets, t.Forgets version) :
    updateAll (updateAll fs targets version).files targets version
      = updateAll fs targets version := by
  have hfiles : (updateAll fs targets version).files
      = updateCalls fs (runCalls targets version) := by
    simp only [updateAll, h.updateEach_run version]
  have hforgets : ∀ call ∈ runCalls targets version, call.1.Forgets call.2 := by
    intro call hcall
    obtain ⟨t, ht, rfl⟩ := List.mem_map.1 hcall
    exact hall t ht
  -- the last call for each file is the same in the second run as in the first
  have hsame : lastContent? fs (runCalls targets version ++ runCalls targets version)
      = lastContent? fs (runCalls targets version) := by
    funext location
    simp only [lastContent?, lastCall?, List.reverse_append, List.find?_append, Option.or_self]
  have hrun := h.run version
  rw [hfiles, hrun.updateAll_eq hforgets, (hrun.append_run hforgets version).files_eq_overwrite,
    hsame, ← hrun.files_eq_overwrite, ← hfiles]

end History

/-! ## Marked versions -/

/-- A version is safe for a target if it is safe for the way in which the target is marked. -/
def Target.Safe (target : Target) (version : String) : Prop :=
  ∀ m : Marking, target.source = m.source → m.Safe version

/-- The pattern of a target is decided by how it is written. -/
lemma Target.pattern_eq {target : Target} {m : Marking} (h : target.source = m.source) :
    target.pattern = m.pattern := by
  have hreads := target.reads
  rw [h, m.read?_source, Option.some.injEq] at hreads
  exact hreads.symm

/-- Safe versions are forgotten. -/
lemma Target.Safe.forgets {target : Target} {version : String} (hsafe : target.Safe version)
    {m : Marking} (hm : target.source = m.source) : target.Forgets version := by
  intro text version'
  rw [Target.pattern_eq hm]
  exact (hsafe m hm).overwritten text version'

/-- **The last version wins.**  Take targets with a marked version that lead to different files, all
of them text that may be read and written, and any calls for them in which every version but the
last one for its file is safe.  Then every call succeeds and reports what it would have reported at
first, and the file system in the end is the first one, but with the last version for each file put
into what that file held at first.

A run over all the targets is no more than such calls: after safe versions it reports what it would
have reported at first, and leaves what the calls leave.  So a second run with a safe version is the
same as the first. -/
theorem last_version_wins (fs : FileSystem) (targets : List Target) (calls : List Call)
    (hmarked : ∀ t ∈ targets, ∃ m : Marking, t.source = m.source)
    (heditable : ∀ t ∈ targets, fs.Editable t.path)
    (hseparate : fs.Separate targets)
    (hcalls : ∀ call ∈ calls, call.1 ∈ targets)
    (hsafe : calls.Pairwise fun call later =>
      fs.fileLocation? call.1.path = fs.fileLocation? later.1.path → call.1.Safe call.2) :
    (∀ earlier call later, calls = earlier ++ call :: later →
      ∃ substitution,
        (updateFile (updateCalls fs earlier) call.1 call.2).result = .ok substitution ∧
        (updateFile fs call.1 call.2).result = .ok substitution) ∧
    updateCalls fs calls = fs.overwrite (lastContent? fs calls) ∧
    (∀ version, (∀ call ∈ calls, call.1.Safe call.2) →
      updateAll (updateCalls fs calls) targets version =
        { updateAll fs targets version with
          files := updateCalls fs (calls ++ runCalls targets version) }) ∧
    ∀ version, (∀ t ∈ targets, t.Safe version) →
      updateAll (updateAll fs targets version).files targets version
        = updateAll fs targets version := by
  have hforgets : ∀ t ∈ targets, ∀ version, t.Safe version → t.Forgets version := by
    intro t ht version hversion
    obtain ⟨m, hm⟩ := hmarked t ht
    exact hversion.forgets hm
  have hhistory : History fs targets calls :=
    ⟨heditable, hseparate, hcalls, hsafe.imp_of_mem fun hcall _ hversion hsame =>
      hforgets _ (hcalls _ hcall) _ (hversion hsame)⟩
  refine ⟨?_, hhistory.files_eq_overwrite, ?_, ?_⟩
  · rintro earlier call later rfl
    rw [List.append_cons] at hhistory
    obtain ⟨substitution, hsub⟩ := hhistory.left.result_eq_ok
      (show call ∈ earlier ++ [call] by simp)
    refine ⟨substitution, ?_, hsub⟩
    rw [hhistory.left.updateFile_eq, hsub]
  · intro version hall
    exact hhistory.updateAll_eq
      (fun call hcall => hforgets _ (hcalls call hcall) _ (hall call hcall)) version
  · intro version hversion
    exact hhistory.updateAll_twice fun t ht => hforgets t ht version (hversion t ht)

/-! ## A small directory -/

/-- A project file, a document behind a link, and notes without a version. -/
def sampleFiles : FileSystem where
  entries :=
    [([], .directory .newDirectory),
      (["app.csproj"], .file "<Version>1.0.0</Version>\n".toUTF8 .newFile),
      (["README.md"], .link "docs.md"),
      (["docs.md"], .file "Version=\"1.0.0\" \"\n".toUTF8 .newFile),
      (["notes"], .file "-".toUTF8 .newFile)]
  workingDirectory := []

/-- The project file of the sample. -/
def sampleProject : Target := { projectTarget with path := "app.csproj" }

/-- The document of the sample. -/
def sampleDocument : Target := { documentTarget with path := "./README.md" }

/-- The notes of the sample. -/
def sampleNotes : Target := { documentTarget with path := "notes" }

lemma sampleFiles_project :
    sampleFiles.Opens sampleProject.path ["app.csproj"] "<Version>1.0.0</Version>\n" .newFile where
  located := (FileSystem.fileLocation?_eq_some_iff.1 (by decide)).1
  holds := rfl
  readable := rfl

lemma sampleFiles_document :
    sampleFiles.Opens sampleDocument.path ["docs.md"] "Version=\"1.0.0\" \"\n" .newFile where
  located := (FileSystem.fileLocation?_eq_some_iff.1 (by decide)).1
  holds := rfl
  readable := rfl

lemma sampleFiles_notes :
    sampleFiles.Opens sampleNotes.path ["notes"] "-" .newFile where
  located := (FileSystem.fileLocation?_eq_some_iff.1 (by decide)).1
  holds := rfl
  readable := rfl

/-- The targets of the sample. -/
def sampleTargets : List Target := [sampleProject, sampleDocument, sampleNotes]

lemma sampleTargets_marked : ∀ t ∈ sampleTargets, ∃ m : Marking, t.source = m.source := by
  simpa [sampleTargets] using ⟨⟨.element, rfl⟩, ⟨.quoted, rfl⟩, ⟨.quoted, rfl⟩⟩

lemma sampleTargets_editable : ∀ t ∈ sampleTargets, sampleFiles.Editable t.path := by
  simpa [sampleTargets] using ⟨⟨_, _, _, sampleFiles_project, rfl⟩,
    ⟨_, _, _, sampleFiles_document, rfl⟩, ⟨_, _, _, sampleFiles_notes, rfl⟩⟩

lemma sampleTargets_separate : sampleFiles.Separate sampleTargets := by
  simp [FileSystem.Separate, sampleTargets, sampleFiles_project.fileLocation?,
    sampleFiles_document.fileLocation?, sampleFiles_notes.fileLocation?]

/-- A safe version may have the opening mark in it or the marks of the other kind, and the last one
for a file may be anything. -/
theorem last_version_wins_on_sample :
    let calls : List Call :=
      [(sampleProject, "<Version>2"), (sampleDocument, "</Version>"),
        (sampleProject, "3</Version>\n"), (sampleDocument, "\"4\"")]
    (∀ earlier call later, calls = earlier ++ call :: later →
      ∃ substitution,
        (updateFile (updateCalls sampleFiles earlier) call.1 call.2).result = .ok substitution ∧
        (updateFile sampleFiles call.1 call.2).result = .ok substitution) ∧
    updateCalls sampleFiles calls = sampleFiles.overwrite (lastContent? sampleFiles calls) := by
  intro calls
  have hproject : sampleProject.Safe "<Version>2" := by
    intro m hm
    cases m with
    | element => exact Marking.safe_of_notMem (c := '/') (by decide) (by decide) (by decide)
    | quoted => exact absurd hm (by decide)
  have hdocument : sampleDocument.Safe "</Version>" := by
    intro m hm
    cases m with
    | element => exact absurd hm (by decide)
    | quoted => exact Marking.safe_of_notMem (c := '"') (by decide) (by decide) (by decide)
  have hwins := last_version_wins sampleFiles sampleTargets calls sampleTargets_marked
    sampleTargets_editable sampleTargets_separate (by simp [calls, sampleTargets])
    (by simp [calls, hproject, hdocument, sampleFiles_project.fileLocation?,
      sampleFiles_document.fileLocation?])
  exact ⟨hwins.1, hwins.2.1⟩

end VersionBump
