import Mathlib.Tactic.TFAE
import VersionBump.Proofs.Replacement.Marking

/-!
# Replacement as taking a text apart

What the two patterns of marked versions do is said here without positions and without a search.  A
text is taken apart at an opening and a closing mark with no line break between them
(`Marking.Splits`).  Among all the ways to do so, `Marking.SplitsFirst` is the one with the shortest
beginning and, for that beginning, the shortest part between the marks.

* **`Marking.replaceFirst_parts`**: the replacement takes the text apart in this first way and puts
  the version between the marks, or leaves a text alone that cannot be taken apart.
* **`Marking.safe_tfae`**: the versions that are found again are exactly the safe ones.  That no
  other version is found again shows in a single text, an opening mark with the closing mark right
  after it.
-/

namespace VersionBump.Marking

open Text

/-! ## Taking a text apart -/

/-- **A text taken apart** at two marks with no line break between them. -/
structure Splits (m : Marking) (text before part after : String) : Prop where
  eq_append : text = before ++ m.opening ++ part ++ m.closing ++ after
  unbroken : '\n' ∉ part.toList

/-- **The first way to take a text apart**: with the shortest beginning, and for that beginning with
the shortest part. -/
structure SplitsFirst (m : Marking) (text before part after : String) : Prop
    extends Splits m text before part after where
  earliest : ∀ before' part' after', m.Splits text before' part' after' →
    before.length ≤ before'.length
  shortest : ∀ part' after', m.Splits text before part' after' → part.length ≤ part'.length

variable {m : Marking} {text before part after : String}

lemma Splits.markedAt (h : m.Splits text before part after) :
    MarkedAt m.opening.toList m.closing.toList text.toList before.length part.length := by
  have hmarked := @markedAt_append m.opening.toList m.closing.toList before.toList part.toList
    after.toList h.unbroken
  rw [h.eq_append]
  simpa only [String.toList_append, String.length_toList] using hmarked

/-- Every marked part takes the text apart, and its position says where. -/
lemma exists_splits_of_markedAt {start length : Nat}
    (h : MarkedAt m.opening.toList m.closing.toList text.toList start length) :
    ∃ before part after, m.Splits text before part after ∧ before.length = start ∧
      part.length = length := by
  obtain ⟨before, part, after, heq, hunbroken, hstart, hlength⟩ :=
    h.exists_append m.startsFresh_opening.ne_nil
  refine ⟨String.ofList before, String.ofList part, String.ofList after, ⟨?_, ?_⟩, ?_, ?_⟩
  · apply String.toList_inj.1
    simpa only [String.toList_append, String.toList_ofList] using heq
  · rwa [String.toList_ofList]
  · rwa [String.length_ofList]
  · rwa [String.length_ofList]

/-- The beginning is determined by its length. -/
lemma Splits.before_unique {before' part' after' : String} (h : m.Splits text before part after)
    (h' : m.Splits text before' part' after') (hlength : before'.length = before.length) :
    before' = before := by
  have happend := h'.eq_append.symm.trans h.eq_append
  rw [← String.toList_inj] at happend ⊢
  simp only [String.toList_append, List.append_assoc] at happend
  exact (List.append_inj happend (by simpa only [String.length_toList] using hlength)).1

/-- The first way to take a text apart is at the part that is marked first. -/
lemma SplitsFirst.first (h : m.SplitsFirst text before part after) :
    m.First text.toList before.length part.length := by
  have hmarked := h.toSplits.markedAt
  refine ⟨hmarked, ?_, ?_⟩
  · intro i hi n hearlier
    obtain ⟨before', part', after', hsplits, rfl, -⟩ := exists_splits_of_markedAt hearlier
    have hle := h.earliest before' part' after' hsplits
    omega
  · intro n hn hcloses
    -- a closing mark inside the part would end a shorter part after the same beginning
    have hshorter : MarkedAt m.opening.toList m.closing.toList text.toList before.length n :=
      ⟨hmarked.opens, fun k hk => hmarked.unbroken k (by omega), hcloses⟩
    obtain ⟨before', part', after', hsplits, hbefore, rfl⟩ := exists_splits_of_markedAt hshorter
    rw [h.toSplits.before_unique hsplits hbefore] at hsplits
    have hle := h.shortest part' after' hsplits
    omega

/-- A text that can be taken apart can be taken apart in a first way. -/
lemma Splits.exists_first (h : m.Splits text before part after) :
    ∃ before part after, m.SplitsFirst text before part after := by
  obtain ⟨start, length, hfirst⟩ := h.markedAt.exists_first
  obtain ⟨before, part, after, hsplits, rfl, rfl⟩ := exists_splits_of_markedAt hfirst.toMarkedAt
  refine ⟨before, part, after, hsplits, ?_, ?_⟩
  · intro before' part' after' hsplits'
    by_contra hlt
    exact hfirst.earliest before'.length (by omega) part'.length hsplits'.markedAt
  · intro part' after' hsplits'
    by_contra hlt
    exact hfirst.shortest part'.length (by omega) hsplits'.markedAt.closes

/-! ## What the replacement is -/

/-- Where no way to take the text apart exists, nothing is replaced. -/
lemma replaceFirst_of_no_splits (h : ∀ before part after, ¬ m.Splits text before part after)
    (version : String) : replaceFirst m.pattern text version = (text, 0) := by
  refine replaceFirst_of_none (fun i n hmarked => ?_) version
  obtain ⟨before, part, after, hsplits, -⟩ := exists_splits_of_markedAt hmarked
  exact h before part after hsplits

/-- The version takes the place of the part. -/
lemma SplitsFirst.replaceFirst_eq (h : m.SplitsFirst text before part after) (version : String) :
    replaceFirst m.pattern text version
      = (before ++ m.opening ++ version ++ m.closing ++ after, 1) := by
  have hstop : before.length + m.opening.toList.length + part.length
      = (before.toList ++ m.opening.toList ++ part.toList).length := by
    simp only [List.length_append, String.length_toList]
  have hstart : before.length + m.opening.toList.length
      = (before.toList ++ m.opening.toList).length := by
    simp only [List.length_append, String.length_toList]
  rw [replaceFirst_of_first h.first version, Prod.mk.injEq]
  refine ⟨?_, rfl⟩
  rw [← String.toList_inj, String.toList_ofList, h.eq_append]
  simp only [splice, markedSpan, String.toList_append]
  rw [hstop, List.append_assoc _ m.closing.toList, List.drop_left, hstart,
    List.append_assoc _ part.toList, List.take_left]
  simp only [List.append_assoc]

/-- **What the patterns mean.**  The pattern of a marking, as it is written, takes a text apart in
the first way and puts the version in place of the part; a text that cannot be taken apart stays as
it is. -/
theorem replaceFirst_parts (m : Marking) (text : String) :
    Pattern.read? m.source = some m.pattern ∧
      ((¬ ∃ before part after, m.Splits text before part after) ∧
          (∀ version, replaceFirst m.pattern text version = (text, 0)) ∨
        ∃ before part after, m.SplitsFirst text before part after ∧
          ∀ version, replaceFirst m.pattern text version
            = (before ++ m.opening ++ version ++ m.closing ++ after, 1)) := by
  refine ⟨m.read?_source, ?_⟩
  by_cases h : ∃ before part after, m.Splits text before part after
  · obtain ⟨_, _, _, hsplits⟩ := h
    obtain ⟨before, part, after, hfirst⟩ := hsplits.exists_first
    exact Or.inr ⟨before, part, after, hfirst, hfirst.replaceFirst_eq⟩
  · refine Or.inl ⟨h, replaceFirst_of_no_splits fun before part after hsplits => ?_⟩
    exact h ⟨before, part, after, hsplits⟩

/-! ## Versions that are found again -/

/-- Between marks with nothing between them there is room for any version. -/
lemma splitsFirst_empty (m : Marking) : m.SplitsFirst (m.opening ++ m.closing) "" "" "" where
  eq_append := by simp
  unbroken := by simp
  earliest := by simp
  shortest := by simp

/-- A version that is found between the marks it was put between is safe: a closing mark in it would
end the part before its end. -/
lemma safe_of_splitsFirst {version : String}
    (h : m.SplitsFirst (m.opening ++ version ++ m.closing) "" version "") : m.Safe version := by
  refine ⟨h.unbroken, ?_⟩
  rintro ⟨shorter, rest, hversion⟩
  have hversion' : String.ofList shorter ++ m.closing ++ String.ofList rest = version := by
    rw [← String.toList_inj]
    simpa only [String.toList_append, String.toList_ofList] using hversion
  have hsplits : m.Splits (m.opening ++ version ++ m.closing) "" (String.ofList shorter)
      (String.ofList rest ++ m.closing) := by
    refine ⟨?_, fun hmem => h.unbroken ?_⟩
    · rw [← hversion']
      simp [String.append_assoc]
    · rw [← hversion, List.append_assoc]
      exact List.mem_append_left _ (by simpa using hmem)
  have hle := h.shortest _ _ hsplits
  have hpos : 0 < m.closing.toList.length := List.length_pos_iff.2 m.startsFresh_closing.ne_nil
  rw [← hversion', String.length_append, String.length_append, ← @String.length_toList m.closing]
    at hle
  omega

/-- A version that takes its own place between two marks is safe.  Any other part would leave some
of the version outside the marks, and the new text would be longer. -/
lemma safe_of_idempotent {version : String}
    (h : replaceFirst m.pattern (m.opening ++ version ++ m.closing) version
      = (m.opening ++ version ++ m.closing, 1)) : m.Safe version := by
  by_cases hsplits : ∃ before part after,
      m.Splits (m.opening ++ version ++ m.closing) before part after
  · obtain ⟨_, _, _, hsplits⟩ := hsplits
    obtain ⟨before, part, after, hfirst⟩ := hsplits.exists_first
    rw [hfirst.replaceFirst_eq version, Prod.mk.injEq] at h
    have hlength := congrArg String.length h.1
    simp only [String.length_append] at hlength
    obtain rfl : before = "" := String.length_eq_zero_iff.1 (by omega)
    obtain rfl : after = "" := String.length_eq_zero_iff.1 (by omega)
    have hpart : part = version := by
      have happend := hfirst.eq_append
      simp only [String.empty_append, String.append_empty, String.append_assoc,
        String.append_right_inj, String.append_left_inj] at happend
      exact happend.symm
    rw [hpart] at hfirst
    exact safe_of_splitsFirst hfirst
  · have hnone : ∀ before part after,
        ¬ m.Splits (m.opening ++ version ++ m.closing) before part after :=
      fun before part after h' => hsplits ⟨before, part, after, h'⟩
    rw [replaceFirst_of_no_splits hnone] at h
    simp at h

/-- **Exactly the safe versions are found again.**  For the pattern of a marking, as it is written,
a version without line break and without the closing mark is the same as a version that a second
replacement leaves as it is, whatever the text, and the same as a version that leaves no trace
when another one takes its place. -/
theorem safe_tfae (m : Marking) (version : String) :
    Pattern.read? m.source = some m.pattern ∧
      List.TFAE [
        '\n' ∉ version.toList ∧ ¬ m.closing.toList <:+: version.toList,
        ∀ text, replaceFirst m.pattern (replaceFirst m.pattern text version).1 version
          = replaceFirst m.pattern text version,
        ∀ text version', replaceFirst m.pattern (replaceFirst m.pattern text version).1 version'
          = replaceFirst m.pattern text version'] := by
  refine ⟨m.read?_source, ?_⟩
  tfae_have 1 → 3 := fun hsafe => Safe.overwritten hsafe
  tfae_have 3 → 2 := fun hforgets text => hforgets text version
  tfae_have 2 → 1 := by
    intro hidempotent
    have honce := m.splitsFirst_empty.replaceFirst_eq version
    simp only [String.empty_append, String.append_empty] at honce
    have htwice := hidempotent (m.opening ++ m.closing)
    rw [honce] at htwice
    exact safe_of_idempotent htwice
  tfae_finish

end VersionBump.Marking
