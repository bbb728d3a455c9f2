import Mathlib.Data.List.FinRange
import Mathlib.Logic.Equiv.Fin.Rotate
import VersionBump.Proofs.Update.ReadBack

/-!
# The order of separate targets does not matter

Targets that lead to different files do not see each other's updates.  So what a run over them does
is a matter of which targets there are, and the order shows only in the order of what it reports:

* each target reports what it would report alone (`History.updateEach_run`), so the substitutions
  of a rearranged list are the rearranged substitutions;
* the last call for a file is the call of the one target that leads there
  (`lastCall?_runCalls_eq_some_iff`), wherever it stands in the list, so the file system left behind
  is the same (`updateCalls_runCalls_perm`).

`target_order_irrelevant` says this of every rearrangement.
-/

namespace VersionBump

variable {fs : FileSystem} {targets targets' : List Target} {version : String}

/-! ## Rearranged targets -/

/-- Targets stay separate in any order. -/
lemma FileSystem.Separate.perm (h : fs.Separate targets) (hperm : targets'.Perm targets) :
    fs.Separate targets' :=
  (hperm.pairwise_iff Ne.symm).2 h

/-- So a run over them can be told beforehand in any order. -/
lemma History.perm (h : History fs targets []) (hperm : targets'.Perm targets) :
    History fs targets' [] where
  editable t ht := h.editable t (hperm.subset ht)
  separate := h.separate.perm hperm
  members := by simp
  forgotten := .nil

/-! ## What is left behind -/

/-- **The last call for a file** in a run is that of the target that leads there. -/
lemma lastCall?_runCalls_eq_some_iff (hseparate : fs.Separate targets) {location : Location}
    {call : Call} :
    lastCall? fs (runCalls targets version) location = some call ↔
      call.1 ∈ targets ∧ call.2 = version ∧ fs.fileLocation? call.1.path = some location := by
  constructor
  · intro h
    obtain ⟨t, ht, rfl⟩ := List.mem_map.1 (List.mem_reverse.1 (List.mem_of_find?_eq_some h))
    exact ⟨ht, rfl, by simpa using List.find?_some h⟩
  · obtain ⟨t, version'⟩ := call
    rintro ⟨ht, rfl, hlocation⟩
    exact lastCall?_runCalls hseparate ht hlocation

/-- **The same contents.**  The calls of a run leave the same file system in any order. -/
lemma updateCalls_runCalls_perm (h : History fs targets []) (hperm : targets'.Perm targets)
    (version : String) :
    updateCalls fs (runCalls targets' version) = updateCalls fs (runCalls targets version) := by
  have hlast :
      lastCall? fs (runCalls targets' version) = lastCall? fs (runCalls targets version) := by
    funext location
    refine Option.ext fun call => ?_
    rw [lastCall?_runCalls_eq_some_iff (h.perm hperm).separate,
      lastCall?_runCalls_eq_some_iff h.separate, hperm.mem_iff]
  rw [((h.perm hperm).run version).files_eq_overwrite, (h.run version).files_eq_overwrite]
  congr 1
  funext location
  rw [lastContent?, lastContent?, hlast]

/-! ## What is reported -/

/-- A list is worked through without an error if its parts are. -/
lemma mapM_ofFn_eq_ok {α β ε : Type} {f : α → Except ε β} {n : Nat} {inputs : Fin n → α}
    {outputs : Fin n → β} (h : ∀ i, f (inputs i) = .ok (outputs i)) :
    (List.ofFn inputs).mapM f = .ok (List.ofFn outputs) := by
  induction n with
  | zero => rfl
  | succ n ih =>
      rw [List.ofFn_succ, List.ofFn_succ, List.mapM_cons, h 0, ih fun i => h i.succ]
      rfl

/-- Each target alone succeeds, with a substitution of its own. -/
lemma History.exists_substitutions (h : History fs targets []) (version : String) :
    ∃ substitutions : Fin targets.length → Substitution,
      ∀ i, (updateFile fs (targets.get i) version).result = .ok (substitutions i) := by
  have hone : ∀ i, ∃ substitution,
      (updateFile fs (targets.get i) version).result = .ok substitution := by
    intro i
    obtain ⟨location, text, mode, hopens, hwrite⟩ :=
      h.editable (targets.get i) (List.get_mem targets i)
    rw [hopens.updateFile hwrite]
    exact ⟨_, rfl⟩
  choose substitutions hsub using hone
  exact ⟨substitutions, hsub⟩

/-- A run over rearranged targets gives the rearranged substitutions and leaves what the run in the
given order leaves. -/
lemma History.updateAll_rearranged (h : History fs targets [])
    {substitutions : Fin targets.length → Substitution}
    (hsub : ∀ i, (updateFile fs (targets.get i) version).result = .ok (substitutions i))
    (order : Equiv.Perm (Fin targets.length)) :
    (updateAll fs (List.ofFn (targets.get ∘ order)) version).result
        = .ok (List.ofFn (substitutions ∘ order)) ∧
      (updateAll fs (List.ofFn (targets.get ∘ order)) version).files
        = (updateAll fs targets version).files := by
  have hperm : (List.ofFn (targets.get ∘ order)).Perm targets := by
    conv_rhs => rw [← List.ofFn_get targets]
    exact order.ofFn_comp_perm targets.get
  rw [updateAll, updateAll, (h.perm hperm).updateEach_run version, h.updateEach_run version]
  exact ⟨mapM_ofFn_eq_ok fun i => hsub (order i), updateCalls_runCalls_perm h hperm version⟩

/-- In particular the run in the given order gives the substitutions as they are. -/
lemma History.updateAll_result (h : History fs targets [])
    {substitutions : Fin targets.length → Substitution}
    (hsub : ∀ i, (updateFile fs (targets.get i) version).result = .ok (substitutions i)) :
    (updateAll fs targets version).result = .ok (List.ofFn substitutions) := by
  have hgiven := (h.updateAll_rearranged hsub (Equiv.refl _)).1
  rwa [Equiv.coe_refl, Function.comp_id, Function.comp_id, List.ofFn_get] at hgiven

/-! ## The main statement -/

/-- **The order of the targets does not matter.**  Take targets with any patterns that lead to
different files.  If a run over them succeeds, it has a substitution for each of them; and the run
over the same targets in another order succeeds as well, gives the same substitutions in that order,
and leaves the same file system. -/
theorem target_order_irrelevant (fs : FileSystem) (targets : List Target) (version : String)
    (hseparate : fs.Separate targets)
    (hok : ∃ substitutions, (updateAll fs targets version).result = .ok substitutions) :
    ∃ substitutions : Fin targets.length → Substitution,
      (updateAll fs targets version).result = .ok (List.ofFn substitutions) ∧
      ∀ order : Equiv.Perm (Fin targets.length),
        (updateAll fs (List.ofFn (targets.get ∘ order)) version).result
            = .ok (List.ofFn (substitutions ∘ order)) ∧
          (updateAll fs (List.ofFn (targets.get ∘ order)) version).files
            = (updateAll fs targets version).files := by
  obtain ⟨_, hok⟩ := hok
  have hhistory : History fs targets [] :=
    ⟨editable_of_updateAll hok, hseparate, by simp, .nil⟩
  obtain ⟨substitutions, hsub⟩ := hhistory.exists_substitutions version
  exact ⟨substitutions, hhistory.updateAll_result hsub, hhistory.updateAll_rearranged hsub⟩

/-- The document behind a link, the notes and the project file, in this order or with the project
file first. -/
theorem target_order_irrelevant_on_sample :
    let order : Equiv.Perm (Fin sampleTargets.length) := finRotate 3
    List.ofFn (sampleTargets.get ∘ order) = [sampleDocument, sampleNotes, sampleProject] ∧
    ∃ substitutions : Fin sampleTargets.length → Substitution,
      (updateAll sampleFiles sampleTargets "2.0.0").result = .ok (List.ofFn substitutions) ∧
      (updateAll sampleFiles (List.ofFn (sampleTargets.get ∘ order)) "2.0.0").result
          = .ok (List.ofFn (substitutions ∘ order)) ∧
        (updateAll sampleFiles (List.ofFn (sampleTargets.get ∘ order)) "2.0.0").files
          = (updateAll sampleFiles sampleTargets "2.0.0").files := by
  intro order
  have hhistory : History sampleFiles sampleTargets [] :=
    ⟨sampleTargets_editable, sampleTargets_separate, by simp, .nil⟩
  obtain ⟨_, hsub⟩ := hhistory.exists_substitutions "2.0.0"
  obtain ⟨substitutions, hgiven, hother⟩ :=
    target_order_irrelevant sampleFiles sampleTargets "2.0.0" sampleTargets_separate
      ⟨_, hhistory.updateAll_result hsub⟩
  exact ⟨rfl, substitutions, hgiven, hother order⟩

end VersionBump
