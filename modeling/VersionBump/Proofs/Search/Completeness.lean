import Mathlib.Data.Nat.Find
import VersionBump.Proofs.Search.Code
import VersionBump.Proofs.Search.Exploration

/-!
# The search finds a match wherever there is one

The search leaves out every place where it has been before.  Nothing is lost by that, for any
pattern and any text.

* `explore_runs`: what is found was reached by a run from the stack.
* `explore_exhausted`: if nothing is found, the table is closed: every place that was marked leads
  only to marked places, and none of these is the end.
* `explore_finds`: so a start from which the end can be reached leads to a match, if the places that
  were marked before it cannot be finished.
* **`Pattern.search_spec`**: the search gives the earliest match that the pattern can have, and
  gives none only if the pattern has none.
-/

namespace VersionBump

variable {program : Program} {text : Array Char}

/-! ## What is found -/

/-- **What is found was reached.** -/
lemma explore_runs {stack : List Thread} {visited visited' : Array Bool} {u : Thread}
    (h : explore program text stack visited = (some u, visited')) :
    u.inst = program.size ∧ ∃ t ∈ stack, ∃ n, Runs program text n t u := by
  fun_induction explore program text stack visited with
  | case1 visited => simp at h
  | case2 visited t rest hend =>
      simp only [Prod.mk.injEq, Option.some.injEq] at h
      obtain ⟨rfl, -⟩ := h
      exact ⟨hend, t, by simp, 0, rfl⟩
  | case3 visited t rest hend cell hcell hv ih =>
      obtain ⟨hu, s, hs, hrun⟩ := ih h
      exact ⟨hu, s, by simp [hs], hrun⟩
  | case4 visited t rest hend cell hcell hv ih =>
      obtain ⟨hu, s, hs, n, hrun⟩ := ih h
      rcases List.mem_append.1 hs with hs | hs
      · exact ⟨hu, t, by simp, n + 1, s, hs, hrun⟩
      · exact ⟨hu, s, by simp [hs], n, hrun⟩
  | case5 visited t rest hend cell hcell ih =>
      obtain ⟨hu, s, hs, hrun⟩ := ih h
      exact ⟨hu, s, by simp [hs], hrun⟩

/-! ## What was tried in vain -/

/-- A thread is before the end, at a marked place. -/
def Tried (program : Program) (visited : Array Bool) (t : Thread) : Prop :=
  t.inst < program.size ∧ Visited program visited t.inst t.pos

/-- **Closed tables.**  What a table marks beyond an older one leads only to what it marks. -/
def Closed (program : Program) (text : Array Char) (old new : Array Bool) : Prop :=
  ∀ t, Tried program new t → Tried program old t ∨ ∀ u ∈ t.next program text, Tried program new u

/-- A place that is marked stays marked when another one is. -/
lemma visited_of_set {visited : Array Bool} {cell inst pos : Nat} (hcell : cell < visited.size)
    (h : Visited program visited inst pos) :
    Visited program (visited.set cell true hcell) inst pos := by
  rw [Visited, Array.getElem?_set]
  split_ifs
  · rfl
  · exact h

lemma visited_set_self {visited : Array Bool} {inst pos : Nat}
    (hcell : pos * program.size + inst < visited.size) :
    Visited program (visited.set (pos * program.size + inst) true hcell) inst pos := by
  rw [Visited, Array.getElem?_set_self]

/-- The threads at one place go on to the same places. -/
lemma forall_tried_next_congr {visited : Array Bool} {t t' : Thread} (hplace : t.place = t'.place)
    (h : ∀ u ∈ t.next program text, Tried program visited u) :
    ∀ u ∈ t'.next program text, Tried program visited u := by
  intro u hu
  have hmem : u.place ∈ (t.next program text).map Thread.place := by
    rw [Thread.next_place_congr program text hplace]
    exact List.mem_map_of_mem hu
  obtain ⟨s, hs, hsame⟩ := List.mem_map.1 hmem
  simp only [Thread.place, Prod.mk.injEq] at hsame
  have htried := h s hs
  rwa [Tried, hsame.1, hsame.2] at htried

/-- **A search in vain** has tried all its threads and everything they lead to. -/
lemma explore_exhausted (hbounded : program.Bounded) {stack : List Thread}
    {visited visited' : Array Bool} (h : explore program text stack visited = (none, visited'))
    (hstack : ∀ t ∈ stack, t.inst ≤ program.size ∧ t.pos ≤ text.size)
    (hsize : visited.size = program.size * (text.size + 1)) :
    (∀ t ∈ stack, Tried program visited' t) ∧
      (∀ t, Tried program visited t → Tried program visited' t) ∧
      Closed program text visited visited' := by
  fun_induction explore program text stack visited with
  | case1 visited =>
      simp only [Prod.mk.injEq, true_and] at h
      subst h
      exact ⟨by simp, fun t ht => ht, fun t ht => Or.inl ht⟩
  | case2 visited t rest hend => simp at h
  | case3 visited t rest hend cell hcell hv ih =>
      obtain ⟨hrest, hmono, hclosed⟩ := ih h (fun s hs => hstack s (by simp [hs])) hsize
      have hlt : t.inst < program.size := by
        have := (hstack t (by simp)).1
        omega
      have ht : Tried program visited t := ⟨hlt, Array.getElem?_eq_some_iff.2 ⟨hcell, hv⟩⟩
      refine ⟨fun s hs => ?_, hmono, hclosed⟩
      rcases List.mem_cons.1 hs with rfl | hs
      · exact hmono s ht
      · exact hrest s hs
  | case4 visited t rest hend cell hcell hv ih =>
      obtain ⟨hinst, hpos⟩ := hstack t (by simp)
      have hlt : t.inst < program.size := by omega
      obtain ⟨hall, hmono, hclosed⟩ := ih h (by
        intro s hs
        rcases List.mem_append.1 hs with hs | hs
        · exact ⟨hbounded.next_inst_le hs, Thread.next_pos_le hpos hs⟩
        · exact hstack s (by simp [hs])) (by rw [Array.size_set, hsize])
      have ht : Tried program visited' t := hmono t ⟨hlt, visited_set_self hcell⟩
      refine ⟨fun s hs => ?_, fun s hs => hmono s ⟨hs.1, visited_of_set hcell hs.2⟩,
        fun s hs => ?_⟩
      · rcases List.mem_cons.1 hs with rfl | hs
        · exact ht
        · exact hall s (List.mem_append_right _ hs)
      · rcases hclosed s hs with hold | hnext
        · rcases visited_set hcell hlt hold.1 hold.2 with ⟨hsameInst, hsamePos⟩ | hold'
          · -- the place that was marked last: all it leads to was put on the stack
            have hplace : t.place = s.place := by
              rw [Thread.place, Thread.place, hsameInst, hsamePos]
            exact Or.inr (forall_tried_next_congr hplace fun u hu =>
              hall u (List.mem_append_left _ hu))
          · exact Or.inl ⟨hold.1, hold'⟩
        · exact Or.inr hnext
  | case5 visited t rest hend cell hcell ih =>
      obtain ⟨hinst, hpos⟩ := hstack t (by simp)
      have hlt : t.inst < program.size := by omega
      exact absurd (hsize ▸ cell_lt hlt hpos) hcell

/-- A closed table marks nothing that can be finished, if the older one did not: each step towards
the end stays inside the table. -/
lemma Closed.barren {old new : Array Bool} (hclosed : Closed program text old new)
    (hbarren : Barren program text old) : Barren program text new := by
  rintro inst pos hinst hv ⟨n, hn⟩
  induction n generalizing inst pos with
  | zero =>
      have hend : inst = program.size := hn
      omega
  | succ n ih =>
      rcases hclosed ⟨inst, pos, ⟨pos, none⟩⟩ ⟨hinst, hv⟩ with hold | hnext
      · exact hbarren inst pos hinst hold.2 ⟨n + 1, hn⟩
      · obtain ⟨u, hu, hfin⟩ := (finishesIn_succ_iff ⟨pos, none⟩).1 hn
        obtain ⟨hlt, hvisited⟩ := hnext u hu
        exact ih u.inst u.pos hlt hvisited hfin

/-- **Nothing is missed.**  A thread from which the end can be reached leads to a match, if the
places that were marked before cannot be finished. -/
lemma explore_finds (hbounded : program.Bounded) {t : Thread}
    (hfinishes : Finishes program text t.inst t.pos) (hinst : t.inst ≤ program.size)
    (hpos : t.pos ≤ text.size) {visited : Array Bool}
    (hsize : visited.size = program.size * (text.size + 1))
    (hbarren : Barren program text visited) :
    ∃ u visited', explore program text [t] visited = (some u, visited') := by
  cases hexplore : explore program text [t] visited with
  | mk result visited' =>
      cases result with
      | some u => exact ⟨u, visited', rfl⟩
      | none =>
          obtain ⟨htried, -, hclosed⟩ := explore_exhausted hbounded hexplore
            (by simpa using ⟨hinst, hpos⟩) hsize
          obtain ⟨hlt, hvisited⟩ := htried t (by simp)
          exact absurd hfinishes (hclosed.barren hbarren t.inst t.pos hlt hvisited)

/-! ## The search -/

namespace Pattern

/-- **What the search gives.**  Either there is no match at all and none is given, or the one that
is given can be matched, with the trace that is given with it, and no match starts before it. -/
theorem search_spec (tracked : String) (p : Pattern) (text : Array Char) :
    (p.search tracked text = none ∧ ∀ i ≤ text.size, ∀ j, ¬ p.Matches text i j) ∨
      ∃ start stop trace, p.search tracked text = some ⟨⟨start, stop⟩, trace.span⟩ ∧
        start ≤ text.size ∧ (∀ i < start, ∀ j, ¬ p.Matches text i j) ∧
        p.Traverses tracked text ⟨start, ⟨start, none⟩⟩ ⟨stop, trace⟩ := by
  by_cases hsome : ∃ i, i ≤ text.size ∧ Finishes (p.program tracked) text 0 i
  · classical
    obtain ⟨hstart, hfinishes⟩ := Nat.find_spec hsome
    set start := Nat.find hsome
    have hbefore : ∀ i < start, ¬ Finishes (p.program tracked) text 0 i := fun i hi hfin =>
      Nat.find_min hsome hi ⟨by omega, hfin⟩
    obtain ⟨visited, hsize, hbarren, hsearch⟩ := search_at hstart hbefore
    obtain ⟨u, visited', hexplore⟩ := @explore_finds _ text (p.bounded_program tracked)
      ⟨0, start, ⟨start, none⟩⟩ hfinishes (Nat.zero_le _) hstart visited hsize hbarren
    obtain ⟨hend, t, ht, n, hrun⟩ := explore_runs hexplore
    rw [List.mem_singleton.1 ht] at hrun
    -- the run passes through the whole code, and from its end nowhere
    have hcode : CodeAt (p.program tracked) 0 (p.code tracked 0) := CodeAt.toArray _
    obtain ⟨d, m, -, htraverses, hrest⟩ := (leads_code hcode).sound n
      ⟨start, ⟨start, none⟩⟩ u hend hrun
    have hstop : d.thread (0 + p.codeSize) = u := by
      cases m with
      | zero => exact hrest
      | succ m =>
          obtain ⟨s, hs, -⟩ := hrest
          rw [next_of_end (by rw [Cursor.thread, Nat.zero_add, size_program])] at hs
          simp at hs
    refine Or.inr ⟨start, d.pos, d.trace, ?_, hstart, fun i hi j hmatch => ?_, htraverses⟩
    · rw [hsearch u visited' hexplore, ← hstop]
      rfl
    · exact hbefore i hi (finishes_iff.2 ⟨j, hmatch⟩)
  · have hnone : ∀ i ≤ text.size, ¬ Finishes (p.program tracked) text 0 i := fun i hi hfin =>
      hsome ⟨i, hi, hfin⟩
    refine Or.inl ⟨search_eq_none hnone, fun i hi j hmatch => ?_⟩
    exact hnone i hi (finishes_iff.2 ⟨j, hmatch⟩)

end Pattern

end VersionBump
