import VersionBump.Proofs.Update.Step

/-!
# An update of several files up to the first failure

`updateAll` is compared with the plain composition of updates: `updatesInOrder` applies the update
of each target to what the ones before it left, with no regard to results, and `firstFailure?` asks
which of these updates is the first to fail.  The main statement, `updateAll_first_failure`, says
that result, log and file system of `updateAll` are those of the composition cut off there.

The targets are any list: paths may repeat or lead to one file through links, so that a target reads
what an earlier one wrote.
-/

namespace VersionBump

/-! ## The composition of updates -/

/-- The file system after the updates of the targets, one after another. -/
def updatesInOrder (fs : FileSystem) (version : String) (targets : List Target) : FileSystem :=
  targets.foldl (fun files target => (updateFile files target version).files) fs

/-- The update of target number `k`, after those before it. -/
def attemptAt? (fs : FileSystem) (version : String) (targets : List Target) (k : Nat) :
    Option (Run Substitution) :=
  targets[k]?.map fun target =>
    updateFile (updatesInOrder fs version (targets.take k)) target version

/-- Whether a run failed. -/
def Run.failed {α : Type} (run : Run α) : Bool :=
  match run.result with
  | .error _ => true
  | .ok _ => false

lemma Run.failed_eq_true_iff {α : Type} {run : Run α} :
    run.failed = true ↔ ∃ e, run.result = .error e := by
  rw [Run.failed]
  cases run.result <;> simp

lemma Run.failed_eq_false_iff {α : Type} {run : Run α} :
    run.failed = false ↔ ∃ value, run.result = .ok value := by
  rw [Run.failed]
  cases run.result <;> simp

/-- **The first failure.**  The number of the first target whose update fails. -/
def firstFailure? (fs : FileSystem) (version : String) (targets : List Target) : Option Nat :=
  (List.range targets.length).find? fun k => (attemptAt? fs version targets k).any Run.failed

/-! ## The log of the composition -/

/-- The record about what was found in a file. -/
def outcomeRecord (path : String) (replaced : Nat) : Log.Record :=
  if replaced = 1 then ⟨.info, "Updated '" ++ path ++ "'"⟩
  else ⟨.debug, "No version marker found in '" ++ path ++ "'"⟩

/-- The records about a file that was updated. -/
def updateRecords (substitution : Substitution) : List Log.Record :=
  [⟨.debug, "Reading file: '" ++ substitution.path ++ "'"⟩,
    outcomeRecord substitution.path substitution.replaced]

lemma foundRecord_replaceFirst (path : String) (pattern : Pattern) (text version : String) :
    foundRecord path (replaceFirst pattern text version).2
      = outcomeRecord path (replaceFirst pattern text version).2 := by
  rcases replaceFirst_snd pattern text version with h | h <;> rw [h] <;> rfl

variable {fs : FileSystem} {target : Target} {version : String}

/-- A successful update reports its own path and a count, and logs both. -/
lemma updateFile_of_ok {substitution : Substitution}
    (h : (updateFile fs target version).result = .ok substitution) :
    substitution.path = target.path ∧
      (substitution.replaced = 0 ∨ substitution.replaced = 1) ∧
      (updateFile fs target version).log = updateRecords substitution := by
  have hattempt := updateFile_attempt fs target version
  generalize updateFile fs target version = run at h hattempt ⊢
  cases hattempt with
  | unreadable _ => simp at h
  | unwritable _ _ => simp at h
  | written _ _ =>
      simp only [Except.ok.injEq] at h
      subst h
      refine ⟨rfl, replaceFirst_snd _ _ _, ?_⟩
      rw [foundRecord_replaceFirst]
      rfl

/-- A failed update names its own path, and logs what it found only if it could read. -/
lemma updateFile_of_error {e : UpdateError}
    (h : (updateFile fs target version).result = .error e) :
    (∃ cause, e = .fileAccess target.path cause) ∧
      (updateFile fs target version).log =
        ⟨.debug, "Reading file: '" ++ target.path ++ "'"⟩ ::
          match fs.readText target.path with
          | .error _ => []
          | .ok text =>
            [outcomeRecord target.path (replaceFirst target.pattern text version).2] := by
  have hattempt := updateFile_attempt fs target version
  generalize updateFile fs target version = run at h hattempt ⊢
  cases hattempt with
  | unreadable hread =>
      simp only [Except.error.injEq] at h
      rw [hread]
      exact ⟨⟨_, h.symm⟩, rfl⟩
  | unwritable hopens _ =>
      simp only [Except.error.injEq] at h
      rw [hopens.readText, foundRecord_replaceFirst]
      exact ⟨⟨_, h.symm⟩, rfl⟩
  | written _ _ => simp at h

/-! ## The loop over the targets -/

/-- The substitutions that the updates of all targets give, if none fails. -/
structure Completes (fs : FileSystem) (version : String) (targets : List Target)
    (substitutions : List Substitution) : Prop where
  /-- Substitution number `k` is the result of the update of target number `k`. -/
  results : ∀ k, (attemptAt? fs version targets k).map Run.result = substitutions[k]?.map .ok
  paths : substitutions.map Substitution.path = targets.map Target.path
  counts : ∀ s ∈ substitutions, s.replaced = 0 ∨ s.replaced = 1

lemma attemptAt?_cons_succ (target : Target) (targets : List Target) (k : Nat) :
    attemptAt? fs version (target :: targets) (k + 1)
      = attemptAt? (updateFile fs target version).files version targets k := rfl

lemma attemptAt?_take {targets : List Target} {i k : Nat} (h : i < k) :
    attemptAt? fs version (targets.take k) i = attemptAt? fs version targets i := by
  rw [attemptAt?, attemptAt?, List.getElem?_take_of_lt h, List.take_take,
    Nat.min_eq_left (Nat.le_of_lt h)]

/-- One step of the loop. -/
lemma Completes.cons {substitution : Substitution} {targets : List Target}
    {substitutions : List Substitution}
    (h : (updateFile fs target version).result = .ok substitution)
    (hrest : Completes (updateFile fs target version).files version targets substitutions) :
    Completes fs version (target :: targets) (substitution :: substitutions) where
  results
    | 0 => congrArg some h
    | k + 1 => by
        rw [attemptAt?_cons_succ]
        exact hrest.results k
  paths := by
    rw [List.map_cons, List.map_cons, hrest.paths, (updateFile_of_ok h).1]
  counts := by
    intro s hs
    rcases List.mem_cons.1 hs with rfl | hs
    · exact (updateFile_of_ok h).2.1
    · exact hrest.counts s hs

/-- **The whole loop.**  Where no update fails, the loop gives the substitutions in order, logs them
in order, and goes on with whatever targets follow from where the composition left off. -/
lemma updateEach_of_no_failure {targets : List Target}
    (h : ∀ k < targets.length, (attemptAt? fs version targets k).any Run.failed = false) :
    ∃ substitutions, Completes fs version targets substitutions ∧
      ∀ later, updateEach fs version (targets ++ later) =
        let rest := updateEach (updatesInOrder fs version targets) version later
        ⟨rest.result.map (substitutions ++ ·), substitutions.flatMap updateRecords ++ rest.log,
          rest.files⟩ := by
  induction targets generalizing fs with
  | nil =>
      refine ⟨[], ⟨fun _ => rfl, rfl, by simp⟩, fun later => ?_⟩
      simp only [List.nil_append, updatesInOrder, List.foldl_nil, List.flatMap_nil]
      cases h : (updateEach fs version later).result <;> simp only [Except.map, ← h]
  | cons target targets ih =>
      have hfirst := h 0 (by simp)
      simp only [attemptAt?, List.getElem?_cons_zero, Option.map_some, Option.any_some,
        List.take_zero, updatesInOrder, List.foldl_nil] at hfirst
      obtain ⟨substitution, hsub⟩ := Run.failed_eq_false_iff.1 hfirst
      obtain ⟨substitutions, hcompletes, hloop⟩ :=
        @ih (updateFile fs target version).files fun k hk => h (k + 1) (by simpa using hk)
      refine ⟨substitution :: substitutions, hcompletes.cons hsub, fun later => ?_⟩
      have hlog := (updateFile_of_ok hsub).2.2
      simp only [List.cons_append, updateEach, hsub, hloop later, hlog]
      simp only [updatesInOrder, List.foldl_cons, List.flatMap_cons, List.append_assoc]
      congr 1
      cases (updateEach (List.foldl _ (updateFile fs target version).files targets) version
        later).result <;> rfl

/-- **Nothing after a failure.**  The loop ends with the update that fails, whatever follows. -/
lemma updateEach_of_error {e : UpdateError}
    (h : (updateFile fs target version).result = .error e) (later : List Target) :
    updateEach fs version (target :: later)
      = ⟨.error e, (updateFile fs target version).log, fs⟩ := by
  simp only [updateEach, h, updateFile_files_of_error h]

/-- Before the first failure no update fails, and there one does. -/
lemma firstFailure?_eq_some {targets : List Target} {k : Nat}
    (h : firstFailure? fs version targets = some k) :
    (∀ i < (targets.take k).length,
      (attemptAt? fs version (targets.take k) i).any Run.failed = false) ∧
    ∃ target e, targets[k]? = some target ∧
      (updateFile (updatesInOrder fs version (targets.take k)) target version).result
        = .error e := by
  obtain ⟨hfails, hmem, hbefore⟩ := List.find?_range_eq_some.1 h
  constructor
  · intro i hi
    have hik : i < k := by
      rw [List.length_take] at hi
      omega
    rw [attemptAt?_take hik]
    simpa using hbefore i hik
  · have hk : k < targets.length := List.mem_range.1 hmem
    have htarget : targets[k]? = some targets[k] := List.getElem?_eq_getElem hk
    simp only [attemptAt?, htarget, Option.map_some, Option.any_some] at hfails
    obtain ⟨e, he⟩ := Run.failed_eq_true_iff.1 hfails
    exact ⟨_, e, htarget, he⟩

/-! ## The main statement -/

/-- **First-failure semantics.**  If no update in the composition fails, the run succeeds with one
substitution for each target, in order and with the target's path, and leaves what the composition
leaves.  Otherwise the result is the error of the first target `k` that fails, the file system is
what the targets before it left, and the run is the same for every list that begins with the
targets up to `k`: no later one is read, written or reported.

The log has the warning exactly if the version is no semantic version, the version, two records for
each target before the failure, and for the failing one the record of its reading, followed by what
was found if it was the write that failed. -/
theorem updateAll_first_failure (fs : FileSystem) (targets : List Target) (version : String) :
    let opening : List Log.Record :=
      (if isSemanticVersion version then []
        else [⟨.warn, "'" ++ version ++ "' is not a semantic version, writing it anyway"⟩]) ++
      [⟨.info, "Updating version to " ++ version⟩]
    match firstFailure? fs version targets with
    | none =>
      ∃ substitutions, Completes fs version targets substitutions ∧
        updateAll fs targets version =
          ⟨.ok substitutions, opening ++ substitutions.flatMap updateRecords,
            updatesInOrder fs version targets⟩
    | some k =>
      ∃ target cause substitutions, targets[k]? = some target ∧
        Completes fs version (targets.take k) substitutions ∧
        (updateFile (updatesInOrder fs version (targets.take k)) target version).result
          = .error (.fileAccess target.path cause) ∧
        updateAll fs targets version =
          ⟨.error (.fileAccess target.path cause),
            opening ++ substitutions.flatMap updateRecords ++
              ⟨.debug, "Reading file: '" ++ target.path ++ "'"⟩ ::
                (match (updatesInOrder fs version (targets.take k)).readText target.path with
                | .error _ => []
                | .ok text =>
                  [outcomeRecord target.path (replaceFirst target.pattern text version).2]),
            updatesInOrder fs version (targets.take k)⟩ ∧
        ∀ later, updateAll fs (targets.take (k + 1) ++ later) version
          = updateAll fs targets version := by
  intro opening
  split
  · next hnone =>
      have hno : ∀ k < targets.length,
          (attemptAt? fs version targets k).any Run.failed = false := by
        intro k hk
        simpa using List.find?_eq_none.1 hnone k (List.mem_range.2 hk)
      obtain ⟨substitutions, hcompletes, hloop⟩ := updateEach_of_no_failure hno
      have hrun := hloop []
      rw [List.append_nil] at hrun
      refine ⟨substitutions, hcompletes, ?_⟩
      simp [updateAll, openingRecords, opening, hrun, updateEach, Except.map]
  · next k hk =>
      obtain ⟨hno, target, e, htarget, he⟩ := firstFailure?_eq_some hk
      obtain ⟨substitutions, hcompletes, hloop⟩ := updateEach_of_no_failure hno
      obtain ⟨⟨cause, rfl⟩, hlog⟩ := updateFile_of_error he
      -- one equation for every list that begins alike gives both the run and its independence
      have hrun : ∀ later, updateAll fs (targets.take (k + 1) ++ later) version =
          ⟨.error (.fileAccess target.path cause),
            opening ++ substitutions.flatMap updateRecords ++
              (updateFile (updatesInOrder fs version (targets.take k)) target version).log,
            updatesInOrder fs version (targets.take k)⟩ := by
        intro later
        have hsplit : targets.take (k + 1) ++ later = targets.take k ++ target :: later := by
          rw [List.take_add_one, htarget, Option.toList_some, List.append_assoc]
          rfl
        rw [hsplit]
        simp [updateAll, openingRecords, opening, hloop, updateEach_of_error he, Except.map]
      have hall := hrun (targets.drop (k + 1))
      rw [List.take_append_drop] at hall
      refine ⟨target, cause, substitutions, htarget, hcompletes, he, ?_, ?_⟩
      · rw [hall, hlog]
      · intro later
        rw [hrun later, hall]

end VersionBump
