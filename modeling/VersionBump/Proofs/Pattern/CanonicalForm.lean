import Mathlib.Data.List.SplitBy
import Mathlib.Tactic.Common
import VersionBump.Pattern.Matches
import VersionBump.Pattern.Reader

/-!
# Canonical forms match what was written

Patterns are not put together from what was written as it stands, but by `sequence`, `alternation`
and `repetition`, which may drop parts, join sets of characters and let alternatives share what they
begin with.  This file shows that none of this changes what can be matched.

* `matches_sequence`: the parts match one after another.
* **`matches_alternation`**: one of the alternatives matches.  It rests on `alternation_cases`,
  which says all that the canonical form of alternatives can be.
* **`matches_repetition`**: the repetition that was asked for matches.

`matches_joinParts`, `matches_joinBranches` and `matches_repeatLast` say so of the three places
where the reader puts a pattern together.
-/

namespace VersionBump.Pattern

variable {text : Array Char}

/-! ## Sequences -/

/-- **One after another.**  Patterns that match a text in turn, each from where the one before it
has ended. -/
def MatchInTurn (text : Array Char) : List Pattern → Nat → Nat → Prop
  | [], i, j => i = j
  | p :: ps, i, j => ∃ k, p.Matches text i k ∧ MatchInTurn text ps k j

lemma matchInTurn_append {ps qs : List Pattern} {i j : Nat} :
    MatchInTurn text (ps ++ qs) i j ↔
      ∃ k, MatchInTurn text ps i k ∧ MatchInTurn text qs k j := by
  induction ps generalizing i with
  | nil => simp [MatchInTurn]
  | cons p ps ih =>
      simp only [List.cons_append, MatchInTurn, ih]
      constructor
      · rintro ⟨m, hp, k, hps, hqs⟩
        exact ⟨k, ⟨m, hp, hps⟩, hqs⟩
      · rintro ⟨k, ⟨m, hp, hps⟩, hqs⟩
        exact ⟨m, hp, k, hps, hqs⟩

lemma matchInTurn_singleton {p : Pattern} {i j : Nat} :
    MatchInTurn text [p] i j ↔ p.Matches text i j := by
  simp [MatchInTurn]

lemma matchInTurn_items {p : Pattern} {i j : Nat} :
    MatchInTurn text p.items i j ↔ p.Matches text i j := by
  induction p generalizing i j with
  | empty => rfl
  | cat p q ihp ihq => simp only [items, matchInTurn_append, ihp, ihq, Matches]
  | char set => exact matchInTurn_singleton
  | look assertion => exact matchInTurn_singleton
  | alt p q => exact matchInTurn_singleton
  | rep p least extra greedy => exact matchInTurn_singleton
  | group name p => exact matchInTurn_singleton

lemma matchInTurn_flatMap_items {ps : List Pattern} {i j : Nat} :
    MatchInTurn text (ps.flatMap items) i j ↔ MatchInTurn text ps i j := by
  induction ps generalizing i with
  | nil => rfl
  | cons p ps ih =>
      simp only [List.flatMap_cons, matchInTurn_append, matchInTurn_items, ih, MatchInTurn]

lemma matches_ofItems {ps : List Pattern} {i j : Nat} :
    (ofItems ps).Matches text i j ↔ MatchInTurn text ps i j := by
  induction ps generalizing i with
  | nil => rfl
  | cons p ps ih =>
      cases ps with
      | nil => exact matchInTurn_singleton.symm
      | cons q ps => simp only [ofItems, Matches, MatchInTurn, ih]

/-- **Sequences.**  A sequence matches if its parts match one after another. -/
theorem matches_sequence {ps : List Pattern} {i j : Nat} :
    (sequence ps).Matches text i j ↔ MatchInTurn text ps i j := by
  rw [sequence, matches_ofItems, matchInTurn_flatMap_items]

/-! ## Choices -/

lemma exists_mem_branches {p : Pattern} {i j : Nat} :
    (∃ q ∈ p.branches, q.Matches text i j) ↔ p.Matches text i j := by
  induction p with
  | alt p q ihp ihq =>
      simp only [branches, List.mem_append, or_and_right, exists_or, ihp, ihq, Matches]
  | empty => simp [branches]
  | char set => simp [branches]
  | look assertion => simp [branches]
  | cat p q => simp [branches]
  | rep p least extra greedy => simp [branches]
  | group name p => simp [branches]

lemma exists_mem_flatMap_branches {ps : List Pattern} {i j : Nat} :
    (∃ q ∈ ps.flatMap branches, q.Matches text i j) ↔ ∃ p ∈ ps, p.Matches text i j := by
  constructor
  · rintro ⟨q, hq, hmatches⟩
    obtain ⟨p, hp, hqp⟩ := List.mem_flatMap.1 hq
    exact ⟨p, hp, exists_mem_branches.1 ⟨q, hqp, hmatches⟩⟩
  · rintro ⟨p, hp, hmatches⟩
    obtain ⟨q, hq, hmatches⟩ := exists_mem_branches.2 hmatches
    exact ⟨q, List.mem_flatMap.2 ⟨p, hp, hq⟩, hmatches⟩

lemma not_matches_never {i j : Nat} : ¬ never.Matches text i j := by
  rintro ⟨-, c, -, hc⟩
  simp at hc

lemma matches_ofBranches {ps : List Pattern} {i j : Nat} :
    (ofBranches ps).Matches text i j ↔ ∃ p ∈ ps, p.Matches text i j := by
  induction ps with
  | nil => simp [ofBranches, not_matches_never]
  | cons p ps ih =>
      cases ps with
      | nil => simp [ofBranches]
      | cons q ps => simp only [ofBranches, Matches, ih, List.exists_mem_cons_iff]

/-- Alternatives that read one character each are the sets of these. -/
lemma eq_map_char_of_mapM {ps : List Pattern} {sets : List CharSet}
    (h : ps.mapM charSet? = some sets) : ps = sets.map char := by
  induction ps generalizing sets with
  | nil =>
      obtain rfl := Option.some.inj h
      rfl
  | cons p ps ih =>
      simp only [List.mapM_cons, Option.bind_eq_bind, Option.bind_eq_some_iff] at h
      obtain ⟨set, hset, rest, hrest, h⟩ := h
      obtain rfl := Option.some.inj h
      cases p with
      | char set' =>
          obtain rfl := Option.some.inj hset
          rw [List.map_cons, ← ih hrest]
      | _ => simp [charSet?] at hset

lemma matches_char_unions {sets : List CharSet} {i j : Nat} :
    (char (.unions sets)).Matches text i j ↔ ∃ p ∈ sets.map char, p.Matches text i j := by
  simp only [List.mem_map, exists_exists_and_eq_and, Matches, CharSet.contains_unions,
    List.any_eq_true]
  constructor
  · rintro ⟨hj, c, hc, set, hset, hcontains⟩
    exact ⟨set, hset, hj, c, hc, hcontains⟩
  · rintro ⟨set, hset, hj, c, hc, hcontains⟩
    exact ⟨hj, c, hc, set, hset, hcontains⟩

lemma matches_choice {ps : List Pattern} {i j : Nat} :
    (choice ps).Matches text i j ↔ ∃ p ∈ ps, p.Matches text i j := by
  rw [choice]
  split
  · next sets hsets =>
      split_ifs
      · rw [matches_char_unions, eq_map_char_of_mapM hsets]
      · exact matches_ofBranches
  · exact matches_ofBranches

/-! ## Alternatives -/

/-- What two sequences share is at the start of both and has no group. -/
lemma sharedStart_spec (ps qs : List (List Pattern)) :
    sharedStart ps qs <+: ps ∧ sharedStart ps qs <+: qs ∧
      ∀ p ∈ (sharedStart ps qs).flatten, p.hasGroup = false := by
  fun_induction sharedStart ps qs with
  | case1 p ps q qs hsame ih =>
      obtain ⟨rfl, hgroup⟩ := hsame
      obtain ⟨hps, hqs, hgroups⟩ := ih
      refine ⟨List.cons_prefix_cons.2 ⟨rfl, hps⟩, List.cons_prefix_cons.2 ⟨rfl, hqs⟩, ?_⟩
      rw [List.flatten_cons, List.forall_mem_append]
      exact ⟨hgroup, hgroups⟩
  | case2 p ps q qs hdiffer => simp
  | case3 ps qs hother => simp

/-- What sequences share with all of several others. -/
lemma foldl_sharedStart_spec (rest : List (List (List Pattern))) (ps : List (List Pattern)) :
    rest.foldl sharedStart ps <+: ps ∧ (∀ qs ∈ rest, rest.foldl sharedStart ps <+: qs) ∧
      (rest ≠ [] → ∀ p ∈ (rest.foldl sharedStart ps).flatten, p.hasGroup = false) := by
  induction rest generalizing ps with
  | nil => simp
  | cons qs rest ih =>
      obtain ⟨hps, hqs, hgroup⟩ := sharedStart_spec ps qs
      obtain ⟨hfirst, hothers, -⟩ := ih (sharedStart ps qs)
      rw [List.foldl_cons]
      refine ⟨hfirst.trans hps, ?_, fun _ p hp => ?_⟩
      · simpa using ⟨hfirst.trans hqs, hothers⟩
      · obtain ⟨element, helement, hp⟩ := List.mem_flatten.1 hp
        exact hgroup p (List.mem_flatten.2 ⟨element, hfirst.subset helement, hp⟩)

/-- **What alternatives share** is at the start of each, and has no group if there are several. -/
lemma sharedStarts_spec {lists : List (List (List Pattern))} (h : 1 < lists.length) :
    (∀ ps ∈ lists, sharedStarts lists <+: ps) ∧
      ∀ p ∈ (sharedStarts lists).flatten, p.hasGroup = false := by
  cases lists with
  | nil => simp at h
  | cons ps rest =>
      obtain ⟨hfirst, hothers, hgroup⟩ := foldl_sharedStart_spec rest ps
      refine ⟨?_, hgroup ?_⟩
      · simpa [sharedStarts] using ⟨hfirst, hothers⟩
      · rintro rfl
        simp at h

/-- Elements are parts in a row. -/
lemma flatten_elements (p : Pattern) : p.elements.flatten = p.items :=
  List.flatten_splitBy _ _

/-- **All forms of alternatives.**  They are a choice, or each of them begins with the same parts,
in which there is no group, and the choice is between what follows these. -/
lemma alternation_cases (ps : List Pattern) :
    alternation ps = choice (ps.flatMap branches) ∨
      ∃ (shared : List Pattern) (rest : Pattern → List Pattern),
        (∀ p ∈ shared, p.hasGroup = false) ∧
        (∀ p ∈ ps.flatMap branches, p.items = shared ++ rest p) ∧
        alternation ps = sequence (shared ++
          [choice (((ps.flatMap branches).map fun p => ofItems (rest p)).flatMap branches)]) := by
  rw [alternation]
  split_ifs with hseveral hshared hshared
  · exact Or.inl rfl
  · obtain ⟨hstart, hgroup⟩ := @sharedStarts_spec ((ps.flatMap branches).map elements)
      (by simpa using hseveral.1)
    refine Or.inr ⟨_, _, hgroup, fun p hp => ?_, rfl⟩
    obtain ⟨rest, hrest⟩ := hstart p.elements (List.mem_map_of_mem hp)
    rw [← flatten_elements, ← hrest, List.drop_left, List.flatten_append]
  · exact Or.inl rfl
  · simp at hshared

/-- Literal characters in a row are one element: `ab` and `abc` share nothing, so in this pattern
neither do the two alternatives. -/
example : (read? "(?:ab|abc)d|ab(?:|c)c").map (fun p => p.branches.length) = some 2 := by
  decide +kernel

/-- **Alternatives.**  They match where one of them does. -/
theorem matches_alternation {ps : List Pattern} {i j : Nat} :
    (alternation ps).Matches text i j ↔ ∃ p ∈ ps, p.Matches text i j := by
  rw [← exists_mem_flatMap_branches]
  rcases alternation_cases ps with hform | ⟨shared, rest, -, hitems, hform⟩
  · rw [hform, matches_choice]
  · rw [hform, matches_sequence, matchInTurn_append]
    generalize ps.flatMap branches = alternatives at hitems ⊢
    simp only [matchInTurn_singleton, matches_choice, exists_mem_flatMap_branches, List.mem_map,
      exists_exists_and_eq_and, matches_ofItems]
    have hmatches : ∀ p ∈ alternatives, (p.Matches text i j ↔
        ∃ k, MatchInTurn text shared i k ∧ MatchInTurn text (rest p) k j) := fun p hp => by
      rw [← matchInTurn_items, hitems p hp, matchInTurn_append]
    constructor
    · rintro ⟨k, hshared, p, hp, hrest⟩
      exact ⟨p, hp, (hmatches p hp).2 ⟨k, hshared, hrest⟩⟩
    · rintro ⟨p, hp, hp'⟩
      obtain ⟨k, hshared, hrest⟩ := (hmatches p hp).1 hp'
      exact ⟨k, hshared, p, hp, hrest⟩

/-! ## Repetitions -/

/-- What can only be empty ends where it starts. -/
lemma eq_of_emptyOnly {p : Pattern} (h : p.emptyOnly = true) {i j : Nat}
    (hmatches : p.Matches text i j) : i = j := by
  induction p generalizing i j with
  | empty => exact hmatches
  | look assertion => exact hmatches.1
  | char set => simp [emptyOnly] at h
  | cat p q ihp ihq =>
      simp only [emptyOnly, Bool.and_eq_true] at h
      obtain ⟨k, hp, hq⟩ := hmatches
      exact (ihp h.1 hp).trans (ihq h.2 hq)
  | alt p q ihp ihq =>
      simp only [emptyOnly, Bool.and_eq_true] at h
      exact hmatches.elim (ihp h.1) (ihq h.2)
  | rep p least extra greedy ih =>
      simp only [emptyOnly, Bool.and_eq_true] at h
      obtain ⟨n, -, -, hrepeats⟩ := hmatches
      induction n generalizing i with
      | zero => exact hrepeats
      | succ n ihn =>
          obtain ⟨k, hp, hrest⟩ := hrepeats
          exact (ih h.1 hp).trans (ihn hrest)
  | group name p ih => exact ih h hmatches

lemma repeats_one {α : Type} {R : α → α → Prop} {i j : α} : Repeats R 1 i j ↔ R i j := by
  simp [Repeats]

/-- Steps that lead nowhere can be taken any number of times. -/
lemma repeats_succ_of_eq {α : Type} {R : α → α → Prop} (h : ∀ i j, R i j → i = j) {n : Nat}
    {i j : α} : Repeats R (n + 1) i j ↔ R i j := by
  induction n generalizing i with
  | zero => exact repeats_one
  | succ n ih =>
      rw [Repeats]
      simp only [ih]
      constructor
      · rintro ⟨k, hfirst, hrest⟩
        obtain rfl := h i k hfirst
        exact hrest
      · intro hstep
        obtain rfl := h i j hstep
        exact ⟨i, hstep, hstep⟩

lemma matches_rep_exactly {p : Pattern} {n : Nat} {greedy : Bool} {i j : Nat} :
    (rep p n (some 0) greedy).Matches text i j ↔ Repeats (p.Matches text) n i j := by
  constructor
  · rintro ⟨m, hleast, hmost, hrepeats⟩
    obtain rfl : m = n := Nat.le_antisymm (hmost 0 rfl) hleast
    exact hrepeats
  · intro hrepeats
    exact ⟨n, Nat.le_refl _, fun m _ => Nat.le_add_right _ _, hrepeats⟩

/-- To repeat what can only be empty adds nothing after the first time. -/
lemma matches_rep_of_emptyOnly {p : Pattern} (h : p.emptyOnly = true) {least : Nat}
    {extra : Option Nat} {greedy : Bool} {i j : Nat} :
    (rep p least extra greedy).Matches text i j ↔
      if 0 < least then p.Matches text i j
      else (i = j ∨ extra ≠ some 0 ∧ p.Matches text i j) := by
  have hrepeats : ∀ n, Repeats (p.Matches text) (n + 1) i j ↔ p.Matches text i j := fun n =>
    repeats_succ_of_eq fun i j hmatches => eq_of_emptyOnly h hmatches
  split_ifs with hleast
  · constructor
    · rintro ⟨n, hn, -, hp⟩
      obtain ⟨n, rfl⟩ := Nat.exists_eq_add_of_lt (hleast.trans_le hn)
      exact (hrepeats _).1 (by simpa using hp)
    · intro hp
      obtain ⟨n, rfl⟩ := Nat.exists_eq_add_of_lt hleast
      exact ⟨_, Nat.le_refl _, fun m _ => Nat.le_add_right _ _, by simpa using (hrepeats n).2 hp⟩
  · obtain rfl : least = 0 := by omega
    constructor
    · rintro ⟨n, -, hmost, hp⟩
      cases n with
      | zero => exact Or.inl hp
      | succ n =>
          refine Or.inr ⟨?_, (hrepeats n).1 hp⟩
          rintro rfl
          have := hmost 0 rfl
          omega
    · rintro (rfl | ⟨hextra, hp⟩)
      · exact ⟨0, Nat.le_refl _, fun m _ => Nat.zero_le _, rfl⟩
      · refine ⟨1, Nat.zero_le _, fun m hm => ?_, repeats_one.2 hp⟩
        have : m ≠ 0 := by
          rintro rfl
          exact hextra hm
        omega

/-- **Repetitions.**  They match as often as was asked for, one match after the other. -/
theorem matches_repetition {p : Pattern} {least : Nat} {extra : Option Nat} {greedy : Bool}
    {i j : Nat} :
    (repetition p least extra greedy).Matches text i j ↔
      (rep p least extra greedy).Matches text i j := by
  unfold repetition
  split_ifs with honce hempty
  · rw [matches_rep_of_emptyOnly honce.1, if_pos honce.2]
  · obtain rfl : least = 0 := by
      by_contra hleast
      exact honce ⟨hempty, by omega⟩
    rw [matches_rep_of_emptyOnly hempty]
    cases extra with
    | none => simp [matches_rep_of_emptyOnly hempty]
    | some m =>
        cases m with
        | zero => simp [Matches]
        | succ m => simp [matches_rep_of_emptyOnly hempty]
  · split
    · change Repeats (p.Matches text) 0 i j ↔ _
      exact matches_rep_exactly.symm
    · exact (matches_rep_exactly.trans repeats_one).symm
    · rfl

/-! ## What the reader puts together -/

lemma matches_joinParts {parts : List Part} {i j : Nat} :
    (joinParts parts).pattern.Matches text i j ↔
      MatchInTurn text (parts.map (·.pattern)) i j := by
  unfold joinParts
  split
  · exact matches_sequence
  · exact matches_sequence

lemma matches_joinBranches {alternatives : List Part} {i j : Nat} :
    (joinBranches alternatives).pattern.Matches text i j ↔
      ∃ part ∈ alternatives, part.pattern.Matches text i j := by
  unfold joinBranches
  split
  · simp
  · rw [matches_alternation]
    simp

lemma matches_repeatLast {flags : Flags} {least : Nat} {extra : Option Nat} {lazy : Bool}
    {part : Part} {parts parts' : List Part}
    (h : repeatLast flags least extra lazy (part :: parts) = some parts') :
    ∃ repeated, parts' = repeated :: parts ∧ ∀ i j, repeated.pattern.Matches text i j ↔
      (rep part.pattern least extra (lazy == flags.swapGreed)).Matches text i j := by
  simp only [repeatLast] at h
  split_ifs at h
  obtain rfl := Option.some.inj h
  exact ⟨_, rfl, fun i j => matches_repetition⟩

end VersionBump.Pattern
