import Mathlib.Tactic.Common
import VersionBump.Program.Search

/-!
# Places from which a program can be finished

A thread is at a place: an instruction and a position of the text.  What it remembers of the tracked
group decides nothing, so whether the end of the program can be reached is a property of the place.

* `FinishesIn program text n inst pos`: the end can be reached in `n` steps.  The number is carried
  along because loops are taken apart by induction on it.
* `Finishes`: it can be reached at all.
* `Program.Bounded`: no instruction leads beyond the end.  The code of every pattern is bounded
  (`Pattern.bounded_program`), so threads stay inside the table of visited places.
-/

namespace VersionBump

/-! ## Steps and traces -/

/-- The place of a thread. -/
def Thread.place (t : Thread) : Nat × Nat := (t.inst, t.pos)

/-- **The trace decides nothing.**  Threads at one place go on to the same places. -/
lemma Thread.next_place_congr (program : Program) (text : Array Char) {t t' : Thread}
    (h : t.place = t'.place) :
    (t.next program text).map Thread.place = (t'.next program text).map Thread.place := by
  obtain ⟨inst, pos, trace⟩ := t
  obtain ⟨inst', pos', trace'⟩ := t'
  simp only [Thread.place, Prod.mk.injEq] at h
  obtain ⟨rfl, rfl⟩ := h
  simp only [Thread.next]
  cases program[inst]? with
  | none => rfl
  | some i =>
      cases i with
      | read set =>
          simp only
          split
          · split_ifs <;> rfl
          · rfl
      | check a =>
          simp only
          split_ifs <;> rfl
      | fork a b => rfl
      | jump a => rfl
      | enter tracked => rfl
      | leave tracked => rfl

/-! ## Reaching the end -/

/-- The end of the program can be reached from a place in the given number of steps. -/
def FinishesIn (program : Program) (text : Array Char) : Nat → Nat → Nat → Prop
  | 0, inst, _ => inst = program.size
  | n + 1, inst, pos =>
    ∃ trace, ∃ u ∈ Thread.next program text ⟨inst, pos, trace⟩,
      FinishesIn program text n u.inst u.pos

/-- The end of the program can be reached from a place. -/
def Finishes (program : Program) (text : Array Char) (inst pos : Nat) : Prop :=
  ∃ n, FinishesIn program text n inst pos

variable {program : Program} {text : Array Char}

lemma finishes_end (pos : Nat) : Finishes program text program.size pos := ⟨0, rfl⟩

lemma finishes_of_next {t u : Thread} (hu : u ∈ t.next program text)
    (h : Finishes program text u.inst u.pos) : Finishes program text t.inst t.pos := by
  obtain ⟨n, hn⟩ := h
  exact ⟨n + 1, t.trace, u, hu, hn⟩

/-- A step towards the end can be taken whatever the thread remembers. -/
lemma finishesIn_succ_iff {n inst pos : Nat} (trace : Trace) :
    FinishesIn program text (n + 1) inst pos ↔
      ∃ u ∈ Thread.next program text ⟨inst, pos, trace⟩,
        FinishesIn program text n u.inst u.pos := by
  constructor
  · rintro ⟨trace', u, hu, hfin⟩
    have hplaces := Thread.next_place_congr program text
      (show Thread.place ⟨inst, pos, trace⟩ = Thread.place ⟨inst, pos, trace'⟩ from rfl)
    have hmem : u.place ∈ (Thread.next program text ⟨inst, pos, trace⟩).map Thread.place := by
      rw [hplaces]
      exact List.mem_map_of_mem hu
    obtain ⟨u', hu', hplace⟩ := List.mem_map.1 hmem
    simp only [Thread.place, Prod.mk.injEq] at hplace
    refine ⟨u', hu', ?_⟩
    rwa [hplace.1, hplace.2]
  · rintro ⟨u, hu, hfin⟩
    exact ⟨trace, u, hu, hfin⟩

/-- Nothing can be reached from a place that the next places do not reach. -/
lemma not_finishes_next {t u : Thread} (h : ¬ Finishes program text t.inst t.pos)
    (hu : u ∈ t.next program text) : ¬ Finishes program text u.inst u.pos :=
  fun hfin => h (finishes_of_next hu hfin)

/-! ## Bounded programs -/

/-- The positions that an instruction leads to, other than the next one. -/
def Inst.targets : Inst → List Nat
  | .fork a b => [a, b]
  | .jump a => [a]
  | _ => []

/-- **What a step can do.**  It goes to the next instruction or to a target of the one at hand, and
it stays where it is in the text or reads one character. -/
lemma Thread.mem_next {t u : Thread} (hu : u ∈ t.next program text) :
    ∃ i, program[t.inst]? = some i ∧ (u.inst = t.inst + 1 ∨ u.inst ∈ i.targets) ∧
      (u.pos = t.pos ∨ u.pos = t.pos + 1 ∧ t.pos < text.size) := by
  simp only [Thread.next] at hu
  cases hi : program[t.inst]? with
  | none => simp [hi] at hu
  | some i =>
      rw [hi] at hu
      refine ⟨i, rfl, ?_⟩
      cases i with
      | read set =>
          simp only at hu
          split at hu
          · next c hc =>
              obtain ⟨hlt, -⟩ := Array.getElem?_eq_some_iff.1 hc
              split_ifs at hu
              · rw [List.mem_singleton.1 hu]
                exact ⟨Or.inl rfl, Or.inr ⟨rfl, hlt⟩⟩
              · simp at hu
          · simp at hu
      | check a =>
          simp only at hu
          split_ifs at hu
          · rw [List.mem_singleton.1 hu]
            exact ⟨Or.inl rfl, Or.inl rfl⟩
          · simp at hu
      | fork a b =>
          simp only [List.mem_cons, List.not_mem_nil, or_false] at hu
          rcases hu with rfl | rfl
          · exact ⟨Or.inr (by simp [Inst.targets]), Or.inl rfl⟩
          · exact ⟨Or.inr (by simp [Inst.targets]), Or.inl rfl⟩
      | jump a =>
          rw [List.mem_singleton.1 hu]
          exact ⟨Or.inr (by simp [Inst.targets]), Or.inl rfl⟩
      | enter tracked =>
          rw [List.mem_singleton.1 hu]
          exact ⟨Or.inl rfl, Or.inl rfl⟩
      | leave tracked =>
          rw [List.mem_singleton.1 hu]
          exact ⟨Or.inl rfl, Or.inl rfl⟩

/-- A step never leaves the text. -/
lemma Thread.next_pos_le {t u : Thread} (hpos : t.pos ≤ text.size)
    (hu : u ∈ t.next program text) : u.pos ≤ text.size := by
  obtain ⟨i, -, -, hu | ⟨hu, hlt⟩⟩ := Thread.mem_next hu <;> omega

/-- **Bounded programs.**  Every instruction leads to an instruction or to the end. -/
def Program.Bounded (program : Program) : Prop :=
  ∀ i ∈ program, ∀ a ∈ i.targets, a ≤ program.size

lemma Program.Bounded.next_inst_le (hbounded : program.Bounded) {t u : Thread}
    (hu : u ∈ t.next program text) : u.inst ≤ program.size := by
  obtain ⟨i, hi, hinst, -⟩ := Thread.mem_next hu
  obtain ⟨hlt, hget⟩ := Array.getElem?_eq_some_iff.1 hi
  rcases hinst with hinst | hinst
  · omega
  · exact hbounded i (hget ▸ Array.getElem_mem hlt) _ hinst

namespace Inst

lemma mem_targets_again {a inner outer : Nat} {greedy : Bool}
    (h : a ∈ (again greedy inner outer).targets) : a = inner ∨ a = outer := by
  cases greedy
  · simpa [again, targets, or_comm] using h
  · simpa [again, targets] using h

/-- Copies of code that stays within its own bounds stay within theirs. -/
lemma targets_copies_le {code : Nat → List Inst} {size : Nat}
    (hcode : ∀ start, ∀ i ∈ code start, ∀ a ∈ i.targets, a ≤ start + size) (n start : Nat) :
    ∀ i ∈ copies code size n start, ∀ a ∈ i.targets, a ≤ start + n * size := by
  induction n generalizing start with
  | zero => intro i hi; simp [copies] at hi
  | succ n ih =>
      intro i hi a ha
      rw [Nat.succ_mul]
      rcases List.mem_append.1 hi with hi | hi
      · have := hcode start i hi a ha
        omega
      · have := ih (start + size) i hi a ha
        omega

/-- So do repetitions inside each other, which all lead to one exit. -/
lemma targets_optional_le {code : Nat → List Inst} {size : Nat}
    (hcode : ∀ start, ∀ i ∈ code start, ∀ a ∈ i.targets, a ≤ start + size) (greedy : Bool)
    {exit n start : Nat} (hexit : start + n * (size + 1) ≤ exit) :
    ∀ i ∈ optional code size greedy exit n start, ∀ a ∈ i.targets, a ≤ exit := by
  induction n generalizing start with
  | zero => intro i hi; simp [optional] at hi
  | succ n ih =>
      intro i hi a ha
      rw [Nat.succ_mul] at hexit
      rcases List.mem_cons.1 hi with rfl | hi
      · rcases mem_targets_again ha with rfl | rfl <;> omega
      · rcases List.mem_append.1 hi with hi | hi
        · have := hcode (start + 1) i hi a ha
          omega
        · exact ih (by omega) i hi a ha

end Inst

namespace Pattern

/-- **Code leads nowhere but into itself and to the position after it.** -/
lemma targets_code_le (tracked : String) (p : Pattern) (start : Nat) :
    ∀ i ∈ p.code tracked start, ∀ a ∈ i.targets, a ≤ start + p.codeSize := by
  fun_induction codeSize p generalizing start with
  | case1 => intro i hi; simp [code] at hi
  | case2 set =>
      intro i hi a ha
      rw [List.mem_singleton.1 hi] at ha
      simp [Inst.targets] at ha
  | case3 assertion =>
      intro i hi a ha
      rw [List.mem_singleton.1 hi] at ha
      simp [Inst.targets] at ha
  | case4 p q ihp ihq =>
      intro i hi a ha
      rcases List.mem_append.1 hi with hi | hi
      · have := ihp start i hi a ha
        omega
      · have := ihq _ i hi a ha
        omega
  | case5 p q ihp ihq =>
      intro i hi a ha
      simp only [code, List.mem_cons, List.mem_append] at hi
      rcases hi with rfl | hi | rfl | hi
      · simp only [Inst.targets, List.mem_cons, List.not_mem_nil, or_false] at ha
        omega
      · have := ihp _ i hi a ha
        omega
      · simp only [Inst.targets, List.mem_singleton] at ha
        omega
      · have := ihq _ i hi a ha
        omega
  | case6 p least extra greedy ih =>
      intro i hi a ha
      simp only [code, List.mem_append] at hi
      rcases hi with hi | hi
      · have := Inst.targets_copies_le ih least start i hi a ha
        omega
      · have := Inst.targets_optional_le ih greedy (Nat.le_refl _) i hi a ha
        omega
  | case7 p greedy ih =>
      intro i hi a ha
      simp only [code, List.mem_cons, List.mem_append, List.not_mem_nil, or_false] at hi
      rcases hi with rfl | hi | rfl
      · rcases Inst.mem_targets_again ha with rfl | rfl <;> omega
      · have := ih _ i hi a ha
        omega
      · split_ifs at ha
        · simp only [Inst.targets, List.mem_singleton] at ha
          omega
        · rcases Inst.mem_targets_again ha with rfl | rfl <;> omega
  | case8 p least greedy ih =>
      intro i hi a ha
      simp only [code, List.mem_append, List.mem_singleton] at hi
      rw [Nat.succ_mul]
      rcases hi with hi | rfl
      · have := Inst.targets_copies_le ih (least + 1) start i hi a ha
        rw [Nat.succ_mul] at this
        omega
      · rcases Inst.mem_targets_again ha with rfl | rfl <;> omega
  | case9 name p ih =>
      intro i hi a ha
      simp only [code, List.mem_cons, List.mem_append, List.not_mem_nil, or_false] at hi
      rcases hi with rfl | hi | rfl
      · simp [Inst.targets] at ha
      · have := ih _ i hi a ha
        omega
      · simp [Inst.targets] at ha

lemma size_program (tracked : String) (p : Pattern) : (p.program tracked).size = p.codeSize := by
  rw [program, List.size_toArray, length_code]

theorem bounded_program (tracked : String) (p : Pattern) : (p.program tracked).Bounded := by
  intro i hi a ha
  rw [size_program]
  have := p.targets_code_le tracked 0 i (by simpa [program] using hi) a ha
  omega

end Pattern

end VersionBump
