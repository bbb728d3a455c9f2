import Mathlib.Data.List.Nodup
import Mathlib.Data.List.Perm.Subperm
import Mathlib.Tactic.Common
import VersionBump.Proofs.Pattern.CanonicalForm

/-!
# Groups have different names

The groups of a pattern that was read have different names, so that asking for the place of a group
by its name asks for the place of one group.  In particular no group stands inside another one of
its name.

* `groupNames`: the names of the groups of a pattern.
* The canonical forms keep the names: `groupNames_sequence`, `groupNames_alternation` (what the
  alternatives share has no group), `groupNames_repetition` (where a name may get lost).
* `Fresh`: what the reader knows of the names while it is inside a group.  Every step of the reader
  keeps it (`fresh_readGroup`).
* **`nodup_groupNames`**: the names of a pattern that was read are different.
-/

namespace VersionBump.Pattern

/-! ## Names -/

/-- The names of the groups of a pattern, from left to right. -/
def groupNames : Pattern → List String
  | .cat p q | .alt p q => p.groupNames ++ q.groupNames
  | .rep p _ _ _ => p.groupNames
  | .group name p => name.toList ++ p.groupNames
  | _ => []

lemma groupNames_eq_nil {p : Pattern} (h : p.hasGroup = false) : p.groupNames = [] := by
  induction p with
  | empty => rfl
  | char set => rfl
  | look assertion => rfl
  | cat p q ihp ihq =>
      simp only [hasGroup, Bool.or_eq_false_iff] at h
      rw [groupNames, ihp h.1, ihq h.2, List.append_nil]
  | alt p q ihp ihq =>
      simp only [hasGroup, Bool.or_eq_false_iff] at h
      rw [groupNames, ihp h.1, ihq h.2, List.append_nil]
  | rep p least extra greedy ih => exact ih h
  | group name p ih => simp [hasGroup] at h

/-! ### Sequences -/

lemma flatMap_groupNames_items (p : Pattern) : p.items.flatMap groupNames = p.groupNames := by
  induction p with
  | empty => rfl
  | cat p q ihp ihq => rw [items, List.flatMap_append, ihp, ihq, groupNames]
  | char set => simp [items]
  | look assertion => simp [items]
  | alt p q => simp [items]
  | rep p least extra greedy => simp [items]
  | group name p => simp [items]

lemma groupNames_ofItems (ps : List Pattern) : (ofItems ps).groupNames = ps.flatMap groupNames := by
  induction ps with
  | nil => rfl
  | cons p ps ih =>
      cases ps with
      | nil => simp [ofItems]
      | cons q ps => simp only [ofItems, groupNames, ih, List.flatMap_cons]

lemma groupNames_sequence (ps : List Pattern) :
    (sequence ps).groupNames = ps.flatMap groupNames := by
  rw [sequence, groupNames_ofItems, List.flatMap_assoc]
  simp only [flatMap_groupNames_items]

/-! ### Alternatives -/

lemma flatMap_groupNames_branches (p : Pattern) :
    p.branches.flatMap groupNames = p.groupNames := by
  induction p with
  | alt p q ihp ihq => rw [branches, List.flatMap_append, ihp, ihq, groupNames]
  | empty => simp [branches]
  | char set => simp [branches]
  | look assertion => simp [branches]
  | cat p q => simp [branches]
  | rep p least extra greedy => simp [branches]
  | group name p => simp [branches]

lemma groupNames_ofBranches (ps : List Pattern) :
    (ofBranches ps).groupNames = ps.flatMap groupNames := by
  induction ps with
  | nil => rfl
  | cons p ps ih =>
      cases ps with
      | nil => simp [ofBranches]
      | cons q ps => simp only [ofBranches, groupNames, ih, List.flatMap_cons]

/-- Alternatives that are characters have no groups. -/
lemma groupNames_of_charSet? {p : Pattern} {set : CharSet} (h : p.charSet? = some set) :
    p.groupNames = [] := by
  cases p with
  | char => rfl
  | _ => simp [charSet?] at h

lemma flatMap_groupNames_of_mapM {ps : List Pattern} {sets : List CharSet}
    (h : ps.mapM charSet? = some sets) : ps.flatMap groupNames = [] := by
  induction ps generalizing sets with
  | nil => rfl
  | cons p ps ih =>
      simp only [List.mapM_cons, Option.bind_eq_bind, Option.bind_eq_some_iff] at h
      obtain ⟨set, hset, rest, hrest, -⟩ := h
      rw [List.flatMap_cons, groupNames_of_charSet? hset, ih hrest, List.append_nil]

lemma groupNames_choice (ps : List Pattern) : (choice ps).groupNames = ps.flatMap groupNames := by
  rw [choice]
  split
  · next sets hsets =>
      split_ifs
      · exact (flatMap_groupNames_of_mapM hsets).symm
      · exact groupNames_ofBranches ps
  · exact groupNames_ofBranches ps

lemma groupNames_alternation (ps : List Pattern) :
    (alternation ps).groupNames = ps.flatMap groupNames := by
  have hbranches : (ps.flatMap branches).flatMap groupNames = ps.flatMap groupNames := by
    rw [List.flatMap_assoc]
    simp only [flatMap_groupNames_branches]
  rcases alternation_cases ps with hform | ⟨shared, rest, hgroup, hitems, hform⟩
  · rw [hform, groupNames_choice, hbranches]
  · have hnone : shared.flatMap groupNames = [] := by
      rw [List.flatMap_eq_nil_iff]
      exact fun p hp => groupNames_eq_nil (hgroup p hp)
    -- each alternative has its names in what follows the shared parts
    have hrest : ∀ p ∈ ps.flatMap branches, (ofItems (rest p)).groupNames = p.groupNames := by
      intro p hp
      rw [groupNames_ofItems, ← flatMap_groupNames_items p, hitems p hp, List.flatMap_append, hnone,
        List.nil_append]
    rw [hform, groupNames_sequence, List.flatMap_append, hnone, List.nil_append,
      List.flatMap_singleton, groupNames_choice, List.flatMap_assoc, ← hbranches, List.flatMap_map]
    simp only [flatMap_groupNames_branches]
    exact List.flatMap_congr hrest

/-! ### Repetitions -/

/-- A repetition keeps the names, or has none where nothing is left of it. -/
lemma groupNames_repetition (p : Pattern) (least : Nat) (extra : Option Nat) (greedy : Bool) :
    List.Sublist (repetition p least extra greedy).groupNames p.groupNames := by
  unfold repetition
  split
  · exact List.Sublist.refl _
  · split
    · exact List.nil_sublist _
    · exact List.Sublist.refl _
    · exact List.Sublist.refl _

/-! ## What the reader knows of names -/

/-- **Fresh names.**  Inside a group, the names used so far are different, none of them is one of
those outside, and the reader's list has the names used and those outside. -/
structure Fresh (outer used names : List String) : Prop where
  nodup : used.Nodup
  disjoint : used.Disjoint outer
  used_subset : used ⊆ names
  outer_subset : outer ⊆ names

namespace Fresh

variable {outer used names : List String}

/-- A group starts with no names of its own. -/
lemma start (names : List String) : Fresh names [] names where
  nodup := List.nodup_nil
  disjoint := List.disjoint_nil_left names
  used_subset := List.nil_subset names
  outer_subset := List.Subset.refl names

/-- Names may be put in another order, and some may get lost. -/
lemma of_subperm {used' : List String} (h : Fresh outer used names)
    (hsub : List.Subperm used' used) : Fresh outer used' names where
  nodup := by
    obtain ⟨l, hperm, hsublist⟩ := hsub
    exact hperm.nodup_iff.1 (h.nodup.sublist hsublist)
  disjoint := fun _ hn => h.disjoint (hsub.subset hn)
  used_subset := fun _ hn => h.used_subset (hsub.subset hn)
  outer_subset := h.outer_subset

/-- Names of an inner group that are fresh with respect to all names so far are added. -/
lemma append {new names' : List String} (h : Fresh outer used names)
    (hnew : Fresh names new names') : Fresh outer (new ++ used) names' where
  nodup := hnew.nodup.append h.nodup fun _ hn hused => hnew.disjoint hn (h.used_subset hused)
  disjoint := by
    intro n hn houter
    rcases List.mem_append.1 hn with hn | hn
    · exact hnew.disjoint hn (h.outer_subset houter)
    · exact h.disjoint hn houter
  used_subset := by
    intro n hn
    rcases List.mem_append.1 hn with hn | hn
    · exact hnew.used_subset hn
    · exact hnew.outer_subset (h.used_subset hn)
  outer_subset := fun _ hn => hnew.outer_subset (h.outer_subset hn)

/-- The name of a group is not used inside it, where it is one of those outside. -/
lemma group {name : Option String} {body names' : List String}
    (hname : ∀ n ∈ name.toList, n ∉ names) (h : Fresh (name.toList ++ names) body names') :
    Fresh names (name.toList ++ body) names' where
  nodup := by
    refine List.Nodup.append ?_ h.nodup fun n hn hbody =>
      h.disjoint hbody (List.mem_append_left _ hn)
    cases name with
    | none => exact List.nodup_nil
    | some n => exact List.nodup_singleton n
  disjoint := by
    intro n hn houter
    rcases List.mem_append.1 hn with hn | hn
    · exact hname n hn houter
    · exact h.disjoint hn (List.mem_append_right _ houter)
  used_subset := by
    intro n hn
    rcases List.mem_append.1 hn with hn | hn
    · exact h.outer_subset (List.mem_append_left _ hn)
    · exact h.used_subset hn
  outer_subset := fun _ hn => h.outer_subset (List.mem_append_right _ hn)

end Fresh

/-- The names of several parts. -/
def namesOf (parts : List Part) : List String :=
  parts.flatMap fun part => part.pattern.groupNames

/-- The names in what was read of a group. -/
def Progress.used (progress : Progress) : List String :=
  namesOf progress.parts ++ namesOf progress.alternatives

lemma groupNames_joinParts (parts : List Part) :
    (joinParts parts).pattern.groupNames = namesOf parts := by
  unfold joinParts
  split
  · rw [groupNames_sequence]
    simp [namesOf]
  · rw [groupNames_sequence, namesOf, List.flatMap_map]

lemma groupNames_joinBranches (alternatives : List Part) :
    (joinBranches alternatives).pattern.groupNames = namesOf alternatives := by
  unfold joinBranches
  split
  · simp [namesOf]
  · rw [groupNames_alternation, namesOf, List.flatMap_map]

lemma Progress.used_push (progress : Progress) (part : Part) :
    (progress.push part).used = part.pattern.groupNames ++ progress.used := by
  simp [used, push, namesOf]

lemma Progress.used_close (progress : Progress) : progress.close.used.Perm progress.used := by
  simp only [used, close, namesOf, List.flatMap_nil, List.nil_append, List.flatMap_cons,
    groupNames_joinParts]
  exact ((List.reverse_perm progress.parts).flatMap_right _).append_right _

lemma namesOf_repeatLast {flags : Flags} {least : Nat} {extra : Option Nat} {lazy : Bool}
    {parts parts' : List Part} (h : repeatLast flags least extra lazy parts = some parts') :
    List.Sublist (namesOf parts') (namesOf parts) := by
  cases parts with
  | nil => simp [repeatLast] at h
  | cons part parts =>
      simp only [repeatLast] at h
      split_ifs at h
      obtain rfl := Option.some.inj h
      exact (groupNames_repetition _ _ _ _).append_right _

/-- A single element has no groups. -/
lemma groupNames_of_toPattern? {element : Element} {flags : Flags} {p : Pattern}
    (h : element.toPattern? flags = some p) : p.groupNames = [] := by
  cases element with
  | literal c octet =>
      simp only [Element.toPattern?] at h
      split_ifs at h
      obtain rfl := Option.some.inj h
      rfl
  | dot =>
      simp only [Element.toPattern?] at h
      split_ifs at h
      obtain rfl := Option.some.inj h
      rfl
  | lineStart | lineEnd | textStart | textEnd | word =>
      obtain rfl := Option.some.inj h
      rfl
  | _ =>
      obtain ⟨set, -, rfl⟩ := Option.map_eq_some_iff.1 h
      rfl

/-! ## The reader -/

/-- **A step of the reader** inside a group: how what was read of the group changes.  The fuel is
what is left for the groups inside it. -/
inductive Advance (fuel : Nat) (progress : Progress) : Progress → Prop
  /-- The open alternative is finished. -/
  | alternative : Advance fuel progress progress.close
  /-- The last part is repeated. -/
  | repetition {flags : Flags} {least : Nat} {extra : Option Nat} {lazy : Bool}
      {parts : List Part} (h : repeatLast flags least extra lazy progress.parts = some parts) :
      Advance fuel progress { progress with parts }
  /-- Something without groups was read. -/
  | element {part : Part} (h : part.pattern.groupNames = []) :
      Advance fuel progress (progress.push part)
  /-- A group that is only there for precedence was read. -/
  | plain {flags : Flags} {cs rest : List Char} {part body : Part} {names : List String}
      (hbody : readGroup fuel flags ⟨[], [], progress.names⟩ cs = some (body, names, rest))
      (hpart : part.pattern = body.pattern) :
      Advance fuel progress ({ progress with names }.push part)
  /-- A group whose place is kept was read. -/
  | capture {flags : Flags} {cs rest : List Char} {part body : Part} {name : Option String}
      {names : List String} (hname : ∀ n ∈ name.toList, n ∉ progress.names)
      (hbody : readGroup fuel flags ⟨[], [], name.toList ++ progress.names⟩ cs
        = some (body, names, rest))
      (hpart : part.pattern = .group name body.pattern) :
      Advance fuel progress ({ progress with names }.push part)

/-- **What the reader does.**  It finishes the group, or takes a step and goes on. -/
lemma readGroup_succ {fuel : Nat} {flags : Flags} {progress : Progress} {cs : List Char}
    {result : Part × List String × List Char}
    (h : readGroup (fuel + 1) flags progress cs = some result) :
    (∃ rest, result = (joinBranches progress.close.alternatives.reverse, progress.names, rest)) ∨
      ∃ flags' progress' cs', Advance fuel progress progress' ∧
        readGroup fuel flags' progress' cs' = some result := by
  simp only [readGroup] at h
  split at h
  · exact Or.inl ⟨_, (Option.some.inj h).symm⟩
  · exact Or.inl ⟨_, (Option.some.inj h).symm⟩
  · exact Or.inr ⟨_, _, _, .alternative, h⟩
  · obtain ⟨parts, hparts, hrest⟩ := Option.bind_eq_some_iff.1 h
    exact Or.inr ⟨_, _, _, .repetition hparts, hrest⟩
  · obtain ⟨parts, hparts, hrest⟩ := Option.bind_eq_some_iff.1 h
    exact Or.inr ⟨_, _, _, .repetition hparts, hrest⟩
  · obtain ⟨parts, hparts, hrest⟩ := Option.bind_eq_some_iff.1 h
    exact Or.inr ⟨_, _, _, .repetition hparts, hrest⟩
  · obtain ⟨bounds, -, h⟩ := Option.bind_eq_some_iff.1 h
    obtain ⟨parts, hparts, hrest⟩ := Option.bind_eq_some_iff.1 h
    exact Or.inr ⟨_, _, _, .repetition hparts, hrest⟩
  · obtain ⟨bracket, -, hrest⟩ := Option.bind_eq_some_iff.1 h
    exact Or.inr ⟨_, _, _, .element rfl, hrest⟩
  · obtain ⟨⟨opening, inside⟩, -, h⟩ := Option.bind_eq_some_iff.1 h
    cases opening with
    | flags changes => exact Or.inr ⟨_, _, _, .element rfl, h⟩
    | plain changes =>
        obtain ⟨⟨body, names, after⟩, hbody, h⟩ := Option.bind_eq_some_iff.1 h
        simp only at h
        split at h
        · refine Or.inr ⟨_, _, _, .plain hbody ?_, h⟩
          rfl
        · simp at h
    | capture name =>
        simp only at h
        split_ifs at h with hused
        obtain ⟨⟨body, names, after⟩, hbody, h⟩ := Option.bind_eq_some_iff.1 h
        have hname : ∀ n ∈ name.toList, n ∉ progress.names := by
          intro n hn hmem
          rw [Option.mem_toList] at hn
          rw [hn, Option.any_some] at hused
          exact hused (List.contains_iff_mem.2 hmem)
        simp only at h
        split at h
        · refine Or.inr ⟨_, _, _, .capture hname hbody ?_, h⟩
          rfl
        · simp at h
  · obtain ⟨element, -, h⟩ := Option.bind_eq_some_iff.1 h
    obtain ⟨p, hp, hrest⟩ := Option.bind_eq_some_iff.1 h
    exact Or.inr ⟨_, _, _, .element (groupNames_of_toPattern? hp), hrest⟩

/-- **Reading keeps names apart.**  Whatever is read inside a group, its names are different from
each other and from those outside. -/
lemma fresh_readGroup {fuel : Nat} {flags : Flags} {progress : Progress} {cs rest : List Char}
    {part : Part} {outer names : List String}
    (h : readGroup fuel flags progress cs = some (part, names, rest))
    (hfresh : Fresh outer progress.used progress.names) :
    Fresh outer part.pattern.groupNames names := by
  induction fuel generalizing flags progress cs rest part outer names with
  | zero => simp [readGroup] at h
  | succ fuel ih =>
      rcases readGroup_succ h with ⟨_, hresult⟩ | ⟨flags', progress', cs', hadvance, hrest⟩
      · simp only [Prod.mk.injEq] at hresult
        obtain ⟨rfl, rfl, -⟩ := hresult
        refine hfresh.of_subperm (List.Perm.subperm ?_)
        rw [groupNames_joinBranches]
        exact ((List.reverse_perm _).flatMap_right _).trans progress.used_close
      · refine ih hrest ?_
        cases hadvance with
        | alternative => exact hfresh.of_subperm progress.used_close.subperm
        | repetition hparts =>
            exact hfresh.of_subperm ((namesOf_repeatLast hparts).append_right _).subperm
        | element hnone =>
            rw [Progress.used_push, hnone]
            exact hfresh
        | plain hbody hpart =>
            rw [Progress.used_push, hpart]
            exact hfresh.append (ih hbody (Fresh.start _))
        | capture hname hbody hpart =>
            rw [Progress.used_push, hpart]
            exact hfresh.append (Fresh.group hname (ih hbody (Fresh.start _)))

/-- **Different names.**  The groups of a pattern that was read have different names. -/
theorem nodup_groupNames {source : String} {p : Pattern} (h : read? source = some p) :
    p.groupNames.Nodup := by
  simp only [read?, ofChars?] at h
  split at h
  · next part names hread =>
      split_ifs at h
      obtain rfl := Option.some.inj h
      exact (fresh_readGroup hread (Fresh.start [])).nodup
  · simp at h

end VersionBump.Pattern
