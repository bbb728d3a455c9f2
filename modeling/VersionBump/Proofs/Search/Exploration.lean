import VersionBump.Proofs.Search.Finishing

/-!
# The search follows the preferred run

The search goes depth-first through the branches of a program and leaves out every place where it
has been before.  This file says which match it comes to, without mention of visited places.

* `explore_append`: a stack is explored one part after the other.
* `explore_barren`: from places that cannot be finished nothing is found, and nothing is marked as
  visited but such places.
* `PreferredRun program text n t u`: the run of `n` steps from thread `t` that takes at each step
  the first branch from which the end can be reached, and comes to the end as thread `u`.
* **`explore_preferred`**: that run is what the search finds.
* `Pattern.search_eq_none` and `Pattern.search_eq_some`: the same for the search from one start
  after the other, where the starts that lead nowhere leave the table as good as new (`Barren`).

The argument for `explore_preferred` is a count.  From one place there is only one number of steps
that a preferred run can take (`PreferredRun.length_unique`), so it never comes to a place twice,
and a place that was visited on the way has more steps before it than what is left of the run.
-/

namespace VersionBump

variable {program : Program} {text : Array Char}

/-! ## Visited places -/

/-- A place is marked in the table of visited places. -/
def Visited (program : Program) (visited : Array Bool) (inst pos : Nat) : Prop :=
  visited[pos * program.size + inst]? = some true

/-- The places of a table, as far as they are marked, cannot be finished. -/
def Barren (program : Program) (text : Array Char) (visited : Array Bool) : Prop :=
  ∀ inst pos, inst < program.size → Visited program visited inst pos →
    ¬ Finishes program text inst pos

/-- Two places have different cells. -/
lemma cell_injective {size inst inst' pos pos' : Nat} (h : inst < size) (h' : inst' < size)
    (heq : pos * size + inst = pos' * size + inst') : inst = inst' ∧ pos = pos' := by
  have hpos : pos = pos' := by
    have hdiv := congrArg (· / size) heq
    simp only [Nat.mul_comm _ size, Nat.mul_add_div (Nat.zero_lt_of_lt h), Nat.div_eq_of_lt h,
      Nat.div_eq_of_lt h', Nat.add_zero] at hdiv
    exact hdiv
  subst hpos
  exact ⟨Nat.add_left_cancel heq, rfl⟩

/-- Marking a place marks no other. -/
lemma visited_set {visited : Array Bool} {inst inst' pos pos' : Nat}
    (hcell : pos * program.size + inst < visited.size) (h : inst < program.size)
    (h' : inst' < program.size)
    (hv : Visited program (visited.set (pos * program.size + inst) true hcell) inst' pos') :
    (inst' = inst ∧ pos' = pos) ∨ Visited program visited inst' pos' := by
  rw [Visited, Array.getElem?_set] at hv
  split_ifs at hv with hsame
  · obtain ⟨rfl, rfl⟩ := cell_injective h h' hsame
    exact Or.inl ⟨rfl, rfl⟩
  · exact Or.inr hv

/-! ## Stacks -/

/-- **A stack in two parts.**  The second is explored only if the first gives nothing, and then with
the places that the first has marked. -/
lemma explore_append (first second : List Thread) (visited : Array Bool) :
    explore program text (first ++ second) visited =
      match explore program text first visited with
      | (some t, visited) => (some t, visited)
      | (none, visited) => explore program text second visited := by
  fun_induction explore program text first visited with
  | case1 visited => rfl
  | case2 visited t rest hend =>
      rw [List.cons_append, explore, if_pos hend]
  | case3 visited t rest hend cell hcell hv ih =>
      rw [List.cons_append, explore, if_neg hend]
      simp only [cell, dif_pos hcell, dif_pos hv, ih]
  | case4 visited t rest hend cell hcell hv ih =>
      rw [List.cons_append, explore, if_neg hend]
      simp only [cell, dif_pos hcell, dif_neg hv, ← List.append_assoc, ih]
  | case5 visited t rest hend cell hcell ih =>
      rw [List.cons_append, explore, if_neg hend]
      simp only [cell, dif_neg hcell, ih]

/-- **Barren places.**  From threads that cannot be finished nothing is found, and no place is
marked that can be finished. -/
lemma explore_barren (hbounded : program.Bounded) (stack : List Thread) (visited : Array Bool)
    (hstack : ∀ t ∈ stack, t.inst ≤ program.size ∧ ¬ Finishes program text t.inst t.pos) :
    ∃ visited', explore program text stack visited = (none, visited') ∧
      visited'.size = visited.size ∧
      ∀ inst pos, inst < program.size → Visited program visited' inst pos →
        Visited program visited inst pos ∨ ¬ Finishes program text inst pos := by
  fun_induction explore program text stack visited with
  | case1 visited => exact ⟨visited, rfl, rfl, fun _ _ _ hv => Or.inl hv⟩
  | case2 visited t rest hend =>
      exact absurd (hend ▸ finishes_end t.pos) (hstack t (by simp)).2
  | case3 visited t rest hend cell hcell hv ih =>
      exact ih fun u hu => hstack u (by simp [hu])
  | case4 visited t rest hend cell hcell hv ih =>
      obtain ⟨hle, hbarren⟩ := hstack t (by simp)
      have hlt : t.inst < program.size := by omega
      obtain ⟨visited', hexplore, hsize, hmarked⟩ := ih (by
        intro u hu
        rcases List.mem_append.1 hu with hu | hu
        · exact ⟨hbounded.next_inst_le hu, not_finishes_next hbarren hu⟩
        · exact hstack u (by simp [hu]))
      refine ⟨visited', hexplore, by simpa using hsize, fun inst pos hinst hv' => ?_⟩
      rcases hmarked inst pos hinst hv' with hv' | hno
      · rcases visited_set hcell hlt hinst hv' with ⟨rfl, rfl⟩ | hv'
        · exact Or.inr hbarren
        · exact Or.inl hv'
      · exact Or.inr hno
  | case5 visited t rest hend cell hcell ih =>
      exact ih fun u hu => hstack u (by simp [hu])

/-! ## Preferred runs -/

/-- **The preferred run.**  At each step the first branch from which the end can be reached is
taken; the branches before it cannot be finished. -/
inductive PreferredRun (program : Program) (text : Array Char) : Nat → Thread → Thread → Prop
  | done {t : Thread} (h : t.inst = program.size) : PreferredRun program text 0 t t
  | step {n : Nat} {t next u : Thread} {before after : List Thread}
      (hnext : t.next program text = before ++ next :: after)
      (hbefore : ∀ b ∈ before, ¬ Finishes program text b.inst b.pos)
      (hrest : PreferredRun program text n next u) : PreferredRun program text (n + 1) t u

lemma PreferredRun.finishes {n : Nat} {t u : Thread} (h : PreferredRun program text n t u) :
    Finishes program text t.inst t.pos := by
  induction h with
  | done h => exact h ▸ finishes_end _
  | step hnext _ _ ih => exact finishes_of_next (by rw [hnext]; simp) ih

/-- A thread at the end does not go on. -/
lemma next_of_end {t : Thread} (h : t.inst = program.size) : t.next program text = [] := by
  simp [Thread.next, h]

/-- What a thread does next is decided by its place. -/
lemma finishes_congr {t t' : Thread} (h : t.place = t'.place) :
    Finishes program text t.inst t.pos ↔ Finishes program text t'.inst t'.pos := by
  simp only [Thread.place, Prod.mk.injEq] at h
  rw [h.1, h.2]

/-- Threads at one place prefer the same place: the first from which the end can be reached. -/
lemma preferred_place {before after before' after' : List Thread} {next next' : Thread}
    (hplaces : (before ++ next :: after).map Thread.place
      = (before' ++ next' :: after').map Thread.place)
    (hbefore : ∀ b ∈ before, ¬ Finishes program text b.inst b.pos)
    (hbefore' : ∀ b ∈ before', ¬ Finishes program text b.inst b.pos)
    (hnext : Finishes program text next.inst next.pos)
    (hnext' : Finishes program text next'.inst next'.pos) : next.place = next'.place := by
  induction before generalizing before' with
  | nil =>
      cases before' with
      | nil =>
          simp only [List.nil_append, List.map_cons, List.cons.injEq] at hplaces
          exact hplaces.1
      | cons b before' =>
          simp only [List.nil_append, List.cons_append, List.map_cons, List.cons.injEq] at hplaces
          exact absurd ((finishes_congr hplaces.1).1 hnext) (hbefore' b (by simp))
  | cons b before ih =>
      cases before' with
      | nil =>
          simp only [List.nil_append, List.cons_append, List.map_cons, List.cons.injEq] at hplaces
          exact absurd ((finishes_congr hplaces.1).2 hnext') (hbefore b (by simp))
      | cons b' before' =>
          simp only [List.cons_append, List.map_cons, List.cons.injEq] at hplaces
          exact ih hplaces.2 (fun c hc => hbefore c (by simp [hc]))
            (fun c hc => hbefore' c (by simp [hc]))

/-- **From one place, one length.** -/
lemma PreferredRun.length_unique {n n' : Nat} {t t' u u' : Thread}
    (h : PreferredRun program text n t u) (h' : PreferredRun program text n' t' u')
    (hplace : t.place = t'.place) : n = n' := by
  have hnext_eq := Thread.next_place_congr program text hplace
  induction h generalizing n' t' with
  | done hend =>
      cases h' with
      | done _ => rfl
      | step hnext' _ _ =>
          rw [next_of_end hend, hnext'] at hnext_eq
          simp at hnext_eq
  | step hnext hbefore hrest ih =>
      cases h' with
      | done hend' =>
          rw [hnext, next_of_end hend'] at hnext_eq
          simp at hnext_eq
      | step hnext' hbefore' hrest' =>
          rw [hnext, hnext'] at hnext_eq
          have hsame := preferred_place hnext_eq hbefore hbefore' hrest.finishes hrest'.finishes
          rw [ih hrest' hsame (Thread.next_place_congr program text hsame)]

/-- **Few steps left.**  The marked places from which the end can be reached have more than `n`
steps of a preferred run before them. -/
def Ahead (program : Program) (text : Array Char) (n : Nat) (visited : Array Bool) : Prop :=
  ∀ inst pos, inst < program.size → Visited program visited inst pos →
    Finishes program text inst pos →
      ∃ m trace u, n < m ∧ PreferredRun program text m ⟨inst, pos, trace⟩ u

/-- The cell of a place inside the program and the text lies in the table. -/
lemma cell_lt {size inst pos length : Nat} (hinst : inst < size) (hpos : pos ≤ length) :
    pos * size + inst < size * (length + 1) := by
  calc pos * size + inst < pos * size + size := by omega
    _ = (pos + 1) * size := (Nat.succ_mul _ _).symm
    _ ≤ (length + 1) * size := Nat.mul_le_mul_right _ (by omega)
    _ = size * (length + 1) := Nat.mul_comm _ _

/-- **The preferred run is found.**  It is followed step by step: what is marked on the way has more
steps before it than are left, so the run never comes to a marked place. -/
theorem explore_preferred (hbounded : program.Bounded) {n : Nat} {t u : Thread}
    (h : PreferredRun program text n t u) (hinst : t.inst ≤ program.size)
    (hpos : t.pos ≤ text.size) {visited : Array Bool}
    (hsize : visited.size = program.size * (text.size + 1))
    (hahead : Ahead program text n visited) :
    ∃ visited', explore program text [t] visited = (some u, visited') := by
  induction h generalizing visited with
  | done hend => exact ⟨visited, by rw [explore, if_pos hend]⟩
  | @step n t next u before after hnext hbefore hrest ih =>
      have hrun : PreferredRun program text (n + 1) t u := .step hnext hbefore hrest
      have hlt : t.inst < program.size := by
        rcases Nat.lt_or_eq_of_le hinst with hlt | hend
        · exact hlt
        · rw [next_of_end hend] at hnext
          simp at hnext
      have hcell : t.pos * program.size + t.inst < visited.size := by
        rw [hsize]
        exact cell_lt hlt hpos
      have hunvisited : ¬ visited[t.pos * program.size + t.inst] = true := by
        intro hv
        obtain ⟨m, trace, u', hm, hrun'⟩ := hahead t.inst t.pos hlt
          (Array.getElem?_eq_some_iff.2 ⟨hcell, hv⟩) hrun.finishes
        have := hrun.length_unique hrun' rfl
        omega
      have hmem : ∀ b ∈ before ++ next :: after, b ∈ t.next program text := by
        rw [hnext]
        exact fun b hb => hb
      obtain ⟨visited', hexplore, hsize', hmarked⟩ := explore_barren hbounded before
        (visited.set _ true hcell)
        fun b hb => ⟨hbounded.next_inst_le (hmem b (by simp [hb])), hbefore b hb⟩
      have hahead' : Ahead program text n visited' := by
        intro inst pos hi hv hfin
        rcases hmarked inst pos hi hv with hv | hno
        · rcases visited_set hcell hlt hi hv with ⟨rfl, rfl⟩ | hv
          · exact ⟨n + 1, t.trace, u, Nat.lt_succ_self n, hrun⟩
          · obtain ⟨m, trace, u', hm, hrun'⟩ := hahead inst pos hi hv hfin
            exact ⟨m, trace, u', by omega, hrun'⟩
        · exact absurd hfin hno
      obtain ⟨visited'', hfound⟩ := ih (hbounded.next_inst_le (hmem next (by simp)))
        (Thread.next_pos_le hpos (hmem next (by simp))) (by rw [hsize', Array.size_set, hsize])
        hahead'
      refine ⟨visited'', ?_⟩
      rw [explore, if_neg (by omega)]
      simp only [dif_pos hcell, dif_neg hunvisited, List.append_nil, hnext]
      rw [explore_append, hexplore]
      simp only
      rw [← List.singleton_append, explore_append, hfound]

/-! ## Starts -/

/-- Starts from which the end cannot be reached are passed over, and what they mark cannot be
finished either. -/
lemma searchFrom_barren (hbounded : program.Bounded) (starts rest : List Nat)
    (hstarts : ∀ i ∈ starts, ¬ Finishes program text 0 i) {visited : Array Bool}
    (hbarren : Barren program text visited) :
    ∃ visited', searchFrom program text (starts ++ rest) visited
        = searchFrom program text rest visited' ∧
      visited'.size = visited.size ∧ Barren program text visited' := by
  induction starts generalizing visited with
  | nil => exact ⟨visited, rfl, rfl, hbarren⟩
  | cons start starts ih =>
      obtain ⟨visited₁, hexplore, hsize₁, hmarked⟩ := explore_barren hbounded
        [⟨0, start, ⟨start, none⟩⟩] visited
        (by simpa using hstarts start (by simp))
      have hbarren₁ : Barren program text visited₁ := by
        intro inst pos hi hv
        rcases hmarked inst pos hi hv with hv | hno
        · exact hbarren inst pos hi hv
        · exact hno
      obtain ⟨visited', hsearch, hsize, hbarren'⟩ :=
        ih (fun i hi => hstarts i (by simp [hi])) hbarren₁
      refine ⟨visited', ?_, hsize.trans hsize₁, hbarren'⟩
      rw [List.cons_append, searchFrom, hexplore, ← hsearch]

/-- Nothing is marked in a new table. -/
lemma barren_replicate (size : Nat) : Barren program text (Array.replicate size false) := by
  intro inst pos _ hv
  rw [Visited, Array.getElem?_replicate] at hv
  split_ifs at hv
  simp at hv

namespace Pattern

/-- **No match** where the end can be reached from no start. -/
theorem search_eq_none {tracked : String} {p : Pattern}
    (h : ∀ i ≤ text.size, ¬ Finishes (p.program tracked) text 0 i) :
    p.search tracked text = none := by
  obtain ⟨visited', hsearch, -, -⟩ := searchFrom_barren (p.bounded_program tracked)
    (List.range (text.size + 1)) [] (fun i hi => h i (by simpa [Nat.lt_succ_iff] using hi))
    (barren_replicate ((p.program tracked).size * (text.size + 1)))
  rw [List.append_nil] at hsearch
  rw [search, hsearch, searchFrom]

/-- **The first start.**  The search comes to a start with a table that is as good as new, if no
earlier one can be finished, and what is found from there is the match. -/
lemma search_at {tracked : String} {p : Pattern} {start : Nat} (hstart : start ≤ text.size)
    (hbefore : ∀ i < start, ¬ Finishes (p.program tracked) text 0 i) :
    ∃ visited : Array Bool, visited.size = (p.program tracked).size * (text.size + 1) ∧
      Barren (p.program tracked) text visited ∧
      ∀ u visited', explore (p.program tracked) text [⟨0, start, ⟨start, none⟩⟩] visited
          = (some u, visited') →
        p.search tracked text = some ⟨⟨start, u.pos⟩, u.trace.span⟩ := by
  have hsplit : List.range (text.size + 1)
      = List.range start ++ start :: (List.range (text.size - start)).map (start + 1 + ·) := by
    rw [show text.size + 1 = start + (1 + (text.size - start)) by omega, List.range_add,
      List.range_add]
    simp [Function.comp_def, Nat.add_assoc]
  obtain ⟨visited, hsearch, hsize, hbarren⟩ := searchFrom_barren (p.bounded_program tracked)
    (List.range start) (start :: (List.range (text.size - start)).map (start + 1 + ·))
    (fun i hi => hbefore i (List.mem_range.1 hi))
    (barren_replicate ((p.program tracked).size * (text.size + 1)))
  refine ⟨visited, by rw [hsize, Array.size_replicate], hbarren, fun u visited' hfound => ?_⟩
  rw [search, hsplit, hsearch, searchFrom, hfound]

/-- **The match** is that of the preferred run from the first start from which the end can be
reached. -/
theorem search_eq_some {tracked : String} {p : Pattern} {start n : Nat} {u : Thread}
    (hstart : start ≤ text.size)
    (hbefore : ∀ i < start, ¬ Finishes (p.program tracked) text 0 i)
    (hrun : PreferredRun (p.program tracked) text n ⟨0, start, ⟨start, none⟩⟩ u) :
    p.search tracked text = some ⟨⟨start, u.pos⟩, u.trace.span⟩ := by
  obtain ⟨visited, hsize, hbarren, hsearch⟩ := search_at hstart hbefore
  obtain ⟨visited', hfound⟩ := explore_preferred (p.bounded_program tracked) hrun
    (Nat.zero_le _) hstart hsize
    (fun inst pos hi hv hfin => absurd hfin (hbarren inst pos hi hv))
  exact hsearch u visited' hfound

end Pattern

end VersionBump
