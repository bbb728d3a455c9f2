import VersionBump.Proofs.Search.Code
import VersionBump.Proofs.Search.Completeness

/-!
# Groups do not change what is found

The instructions that note where a group starts and ends take a place of their own in a program and
in the table of visited places.  This file shows that they have no influence on the search: without
the groups, the same part of the text is found.

* `Program.erased`: a program without these marks.  `Program.rank` tells where an instruction of the
  program stands in it.
* `Pattern.program_ungrouped`: the program of a pattern without groups is that of the pattern,
  erased.
* `Mirrors`: how the tables of the two searches are related.
* `explore_erased`: the two searches go the same way.
* **`Pattern.search_ungrouped`**: they find the same part of the text.

At a mark, the search of the whole program takes a step and the other one none, so their tables
cannot be compared there: the mark may be visited before the instruction after it is.  But nothing
comes in between, since a mark leads to one place only and the thread that has passed it is the next
one.  A second thread that comes to the mark finds the instruction after it visited.
-/

namespace VersionBump

variable {program : Program} {text : Array Char}

/-! ## Programs without marks -/

/-- An instruction that only notes where a group starts or ends. -/
def Inst.isMark : Inst → Bool
  | .enter _ | .leave _ => true
  | _ => false

/-- An instruction with other targets. -/
def Inst.retarget (f : Nat → Nat) : Inst → Inst
  | .fork a b => .fork (f a) (f b)
  | .jump a => .jump (f a)
  | i => i

namespace Program

/-- The number of instructions before a position, marks aside. -/
def rank (program : Program) (k : Nat) : Nat :=
  (program.toList.take k).countP fun i => !i.isMark

/-- Code of a program as it stands in the erased program. -/
def strip (program : Program) (code : List Inst) : List Inst :=
  (code.filter fun i => !i.isMark).map (Inst.retarget program.rank)

/-- **The program without its marks.** -/
def erased (program : Program) : Program :=
  (program.strip program.toList).toArray

lemma lt_size {k : Nat} {i : Inst} (hi : program[k]? = some i) : k < program.size :=
  (Array.getElem?_eq_some_iff.1 hi).1

lemma rank_zero : program.rank 0 = 0 := rfl

/-- A mark does not count. -/
lemma rank_succ_of_mark {k : Nat} {i : Inst} (hi : program[k]? = some i) (hmark : i.isMark = true) :
    program.rank (k + 1) = program.rank k := by
  rw [← Array.getElem?_toList] at hi
  rw [rank, rank, List.take_add_one, hi, List.countP_append]
  simp [hmark]

lemma rank_succ_of_plain {k : Nat} {i : Inst} (hi : program[k]? = some i)
    (hplain : i.isMark = false) : program.rank (k + 1) = program.rank k + 1 := by
  rw [← Array.getElem?_toList] at hi
  rw [rank, rank, List.take_add_one, hi, List.countP_append]
  simp [hplain]

lemma rank_mono (program : Program) {k l : Nat} (h : k ≤ l) : program.rank k ≤ program.rank l :=
  (List.take_sublist_take_left h).countP_le

/-- Instructions other than marks have different ranks. -/
lemma rank_injective {k l : Nat} {i j : Inst} (hi : program[k]? = some i)
    (hj : program[l]? = some j) (hplain : i.isMark = false) (hplain' : j.isMark = false)
    (h : program.rank k = program.rank l) : k = l := by
  have hk := rank_succ_of_plain hi hplain
  have hl := rank_succ_of_plain hj hplain'
  rcases Nat.lt_trichotomy k l with hlt | heq | hlt
  · have := program.rank_mono (show k + 1 ≤ l from hlt)
    omega
  · exact heq
  · have := program.rank_mono (show l + 1 ≤ k from hlt)
    omega

/-! ### Code without its marks -/

lemma strip_append (code code' : List Inst) :
    program.strip (code ++ code') = program.strip code ++ program.strip code' := by
  rw [strip, strip, strip, List.filter_append, List.map_append]

lemma strip_cons_of_mark {i : Inst} (hmark : i.isMark = true) (code : List Inst) :
    program.strip (i :: code) = program.strip code := by
  rw [strip, strip, List.filter_cons_of_neg (by simp [hmark])]

lemma strip_cons_of_plain {i : Inst} (hplain : i.isMark = false) (code : List Inst) :
    program.strip (i :: code) = i.retarget program.rank :: program.strip code := by
  rw [strip, strip, List.filter_cons_of_pos (by simp [hplain]), List.map_cons]

lemma length_strip (code : List Inst) :
    (program.strip code).length = code.countP fun i => !i.isMark := by
  rw [strip, List.length_map, List.countP_eq_length_filter]

lemma size_erased : program.erased.size = program.rank program.size := by
  rw [erased, List.size_toArray, length_strip, rank, ← Array.length_toList, List.take_length]

/-- **An instruction in the erased program.** -/
lemma getElem?_erased {k : Nat} {i : Inst} (hi : program[k]? = some i)
    (hplain : i.isMark = false) :
    program.erased[program.rank k]? = some (i.retarget program.rank) := by
  obtain ⟨hlt, hget⟩ := List.getElem?_eq_some_iff.1 (Array.getElem?_toList ▸ hi)
  have hsplit : program.strip program.toList = program.strip (program.toList.take k)
      ++ i.retarget program.rank :: program.strip (program.toList.drop (k + 1)) := by
    rw [← strip_cons_of_plain hplain, ← strip_append, ← hget, List.getElem_cons_drop,
      List.take_append_drop]
  have hrank : program.rank k = (program.strip (program.toList.take k)).length := by
    rw [length_strip, rank]
  rw [erased, List.getElem?_toArray, hsplit, hrank, List.getElem?_append_right (Nat.le_refl _),
    Nat.sub_self, List.getElem?_cons_zero]

lemma rank_lt_size_erased {k : Nat} {i : Inst} (hi : program[k]? = some i)
    (hplain : i.isMark = false) : program.rank k < program.erased.size :=
  lt_size (getElem?_erased hi hplain)

/-- The rank after some code. -/
lemma rank_add_length {start : Nat} {code : List Inst} (h : CodeAt program start code) :
    program.rank (start + code.length) = program.rank start + (program.strip code).length := by
  induction code generalizing start with
  | nil => rfl
  | cons i code ih =>
      have hrest := ih h.tail
      rw [List.length_cons, Nat.add_comm code.length, ← Nat.add_assoc, hrest]
      cases hmark : i.isMark with
      | true => rw [rank_succ_of_mark h.head hmark, strip_cons_of_mark hmark]
      | false =>
          rw [rank_succ_of_plain h.head hmark, strip_cons_of_plain hmark, List.length_cons]
          omega

end Program

/-! ## The code of a pattern without groups -/

namespace Inst

@[simp]
lemma isMark_again (greedy : Bool) (inner outer : Nat) :
    (again greedy inner outer).isMark = false := by
  cases greedy <;> rfl

@[simp]
lemma retarget_again (f : Nat → Nat) (greedy : Bool) (inner outer : Nat) :
    (again greedy inner outer).retarget f = again greedy (f inner) (f outer) := by
  cases greedy <;> rfl

end Inst

namespace Program

/-- Code that is erased to other code, wherever it stands in the program. -/
structure Erases (program : Program) (code : Nat → List Inst) (size : Nat)
    (code' : Nat → List Inst) (size' : Nat) : Prop where
  length_eq : ∀ start, (code start).length = size
  length_eq' : ∀ start, (code' start).length = size'
  strip_eq : ∀ start, CodeAt program start (code start) →
    program.strip (code start) = code' (program.rank start)

namespace Erases

variable {code code' : Nat → List Inst} {size size' start : Nat}

lemma rank_add (h : program.Erases code size code' size')
    (hcode : CodeAt program start (code start)) :
    program.rank (start + size) = program.rank start + size' := by
  rw [← h.length_eq start, rank_add_length hcode, h.strip_eq start hcode, h.length_eq']

lemma copies (h : program.Erases code size code' size') (n : Nat) :
    program.Erases (Inst.copies code size n) (n * size) (Inst.copies code' size' n)
      (n * size') where
  length_eq := Inst.length_copies h.length_eq n
  length_eq' := Inst.length_copies h.length_eq' n
  strip_eq start hcode := by
    induction n generalizing start with
    | zero => rfl
    | succ n ih =>
        rw [Inst.copies, Inst.copies, strip_append, h.strip_eq start hcode.left,
          ih _ (hcode.right (h.length_eq start)), h.rank_add hcode.left]

lemma optional (h : program.Erases code size code' size') {greedy : Bool} {exit n : Nat}
    (hcode : CodeAt program start (Inst.optional code size greedy exit n start)) :
    program.strip (Inst.optional code size greedy exit n start)
      = Inst.optional code' size' greedy (program.rank exit) n (program.rank start) := by
  induction n generalizing start with
  | zero => rfl
  | succ n ih =>
      have hbody := hcode.tail.left
      rw [Inst.optional, Inst.optional, strip_cons_of_plain (Inst.isMark_again ..),
        Inst.retarget_again, strip_append, h.strip_eq _ hbody,
        ih (hcode.tail.right (h.length_eq (start + 1))), h.rank_add hbody,
        rank_succ_of_plain hcode.head (Inst.isMark_again ..)]

end Erases

end Program

namespace Pattern

/-- The pattern without its groups: what they contain takes their place. -/
def ungrouped : Pattern → Pattern
  | .empty => .empty
  | .char set => .char set
  | .look a => .look a
  | .cat p q => .cat p.ungrouped q.ungrouped
  | .alt p q => .alt p.ungrouped q.ungrouped
  | .rep p least extra greedy => .rep p.ungrouped least extra greedy
  | .group _ p => p.ungrouped

lemma minLength_ungrouped (p : Pattern) : p.ungrouped.minLength = p.minLength := by
  induction p with
  | empty => rfl
  | char set => rfl
  | look a => rfl
  | cat p q ihp ihq => rw [ungrouped, minLength, ihp, ihq, minLength]
  | alt p q ihp ihq => rw [ungrouped, minLength, ihp, ihq, minLength]
  | rep p least extra greedy ih => rw [ungrouped, minLength, ih, minLength]
  | group name p ih => rw [ungrouped, ih, minLength]

lemma consumes_ungrouped (p : Pattern) : p.ungrouped.consumes = p.consumes := by
  rw [consumes, consumes, minLength_ungrouped]

open Program

/-- The lengths are those of the layouts. -/
lemma erases_of_strip {tracked tracked' : String} {p : Pattern}
    (h : ∀ {start}, CodeAt program start (p.code tracked start) →
      program.strip (p.code tracked start) = p.ungrouped.code tracked' (program.rank start)) :
    program.Erases (p.code tracked) p.codeSize (p.ungrouped.code tracked')
      p.ungrouped.codeSize where
  length_eq := p.length_code tracked
  length_eq' := p.ungrouped.length_code tracked'
  strip_eq _ := h

/-- **Code without its marks** is the code of the pattern without groups. -/
lemma strip_code {tracked : String} (tracked' : String) {p : Pattern} {start : Nat}
    (h : CodeAt program start (p.code tracked start)) :
    program.strip (p.code tracked start) = p.ungrouped.code tracked' (program.rank start) := by
  fun_induction codeSize p generalizing start with
  | case1 => rfl
  | case2 set => rfl
  | case3 assertion => rfl
  | case4 p q ihp ihq =>
      have hright := h.right (p.length_code tracked start)
      rw [code, strip_append, ihp h.left, ihq hright, (erases_of_strip ihp).rank_add h.left]
      rfl
  | case5 p q ihp ihq =>
      have hrest := h.tail.right (p.length_code tracked (start + 1))
      have hsecond : start + 1 + p.codeSize + 1 = start + p.codeSize + 2 := by omega
      have hq := hsecond ▸ hrest.tail
      have hstart := rank_succ_of_plain h.head rfl
      have hjump := (erases_of_strip ihp).rank_add h.tail.left
      have hother := rank_succ_of_plain hrest.head rfl
      have hexit := (erases_of_strip ihq).rank_add hq
      rw [hsecond, hjump, hstart] at hother
      rw [code, strip_cons_of_plain rfl, strip_append, strip_cons_of_plain rfl, ihp h.tail.left,
        ihq hq, Inst.retarget, Inst.retarget, hstart, hexit, hother,
        show program.rank start + 1 + p.ungrouped.codeSize + 1
          = program.rank start + p.ungrouped.codeSize + 2 by omega]
      rfl
  | case6 p least extra greedy ih =>
      have hcopies := (erases_of_strip ih).copies least
      have hoptional := h.right (hcopies.length_eq start)
      have hstrip := (erases_of_strip ih).optional hoptional
      have hexit := rank_add_length hoptional
      rw [hstrip, Inst.length_optional (p.length_code tracked),
        Inst.length_optional (p.ungrouped.length_code tracked')] at hexit
      rw [code, strip_append, hcopies.strip_eq start h.left, hstrip, hexit,
        hcopies.rank_add h.left]
      rfl
  | case7 p greedy ih =>
      -- which instruction comes last depends on the length of what is repeated, groups aside
      have hback := h.tail.right (p.length_code tracked (start + 1))
      have hstart := rank_succ_of_plain h.head (Inst.isMark_again ..)
      have hlast := (erases_of_strip ih).rank_add h.tail.left
      have hplain : (if p.consumes then Inst.jump start
          else Inst.again greedy (start + 1) (start + p.codeSize + 2)).isMark = false := by
        split_ifs
        · rfl
        · exact Inst.isMark_again ..
      have hexit := rank_succ_of_plain hback.head hplain
      rw [hlast, hstart, show start + 1 + p.codeSize + 1 = start + p.codeSize + 2 by omega,
        show program.rank start + 1 + p.ungrouped.codeSize + 1
          = program.rank start + p.ungrouped.codeSize + 2 by omega] at hexit
      rw [code, strip_cons_of_plain (Inst.isMark_again ..), strip_append, ih h.tail.left,
        strip_cons_of_plain hplain, apply_ite (Inst.retarget program.rank), Inst.retarget_again,
        hstart, hexit, ungrouped, code, consumes_ungrouped]
      rfl
  | case8 p least greedy ih =>
      have hcopies := (erases_of_strip ih).copies (least + 1)
      have hlast := h.left
      rw [Inst.copies_succ] at hlast
      have hagain := h.right (hcopies.length_eq start)
      have hexit := rank_succ_of_plain hagain.head (Inst.isMark_again ..)
      rw [hcopies.rank_add h.left, Nat.succ_mul, Nat.succ_mul, ← Nat.add_assoc,
        ← Nat.add_assoc] at hexit
      rw [code, strip_append, hcopies.strip_eq start h.left,
        strip_cons_of_plain (Inst.isMark_again ..), Inst.retarget_again, hexit,
        ((erases_of_strip ih).copies least).rank_add hlast.left]
      rfl
  | case9 name p ih =>
      have hbody := h.tail.left
      rw [code, strip_cons_of_mark rfl, strip_append, strip_cons_of_mark rfl, ih hbody,
        rank_succ_of_mark h.head rfl]
      exact List.append_nil _

/-- **The program of a pattern without groups.** -/
lemma program_ungrouped (tracked tracked' : String) (p : Pattern) :
    p.ungrouped.program tracked' = (p.program tracked).erased := by
  have hstrip := strip_code tracked' (CodeAt.toArray (p.code tracked 0))
  rw [erased, program, program, hstrip, rank_zero]

end Pattern

/-! ## Two searches side by side -/

/-- **A step in both programs.**  Except at marks, threads at the same place go on to the same
places. -/
lemma next_erased {t t' : Thread} {i : Inst} (hi : program[t.inst]? = some i)
    (hplain : i.isMark = false) (hinst : t'.inst = program.rank t.inst) (hpos : t'.pos = t.pos) :
    (t'.next program.erased text).map Thread.place
      = (t.next program text).map fun u => (program.rank u.inst, u.pos) := by
  have hnext := Program.rank_succ_of_plain hi hplain
  have herased := Program.getElem?_erased hi hplain
  rw [← hinst] at herased
  simp only [Thread.next, hi, herased]
  cases i with
  | read set =>
      simp only [Inst.retarget, hpos]
      cases text[t.pos]? with
      | none => rfl
      | some c =>
          simp only
          split_ifs
          · simp [Thread.place, hinst, hnext]
          · rfl
  | check a =>
      simp only [Inst.retarget, hpos]
      split_ifs
      · simp [Thread.place, hinst, hnext]
      · rfl
  | fork a b => simp [Inst.retarget, Thread.place, hpos]
  | jump a => simp [Inst.retarget, Thread.place, hpos]
  | enter tracked => cases hplain
  | leave tracked => cases hplain

/-- At a mark a thread goes on to the next instruction and stays where it is in the text. -/
lemma next_of_mark {t : Thread} {i : Inst} (hi : program[t.inst]? = some i)
    (hmark : i.isMark = true) :
    ∃ trace, t.next program text = [⟨t.inst + 1, t.pos, trace⟩] := by
  cases i with
  | enter tracked => exact ⟨_, by simp only [Thread.next, hi]; rfl⟩
  | leave tracked => exact ⟨_, by simp only [Thread.next, hi]; rfl⟩
  | read set => cases hmark
  | check a => cases hmark
  | fork a b => cases hmark
  | jump a => cases hmark

/-- Marking a place marks it, and no other. -/
lemma visited_set_iff {visited : Array Bool} {inst inst' pos pos' : Nat}
    (hcell : pos * program.size + inst < visited.size) (h : inst < program.size)
    (h' : inst' < program.size) :
    Visited program (visited.set (pos * program.size + inst) true hcell) inst' pos' ↔
      inst' = inst ∧ pos' = pos ∨ Visited program visited inst' pos' := by
  constructor
  · exact visited_set hcell h h'
  · rintro (⟨rfl, rfl⟩ | hv)
    · exact visited_set_self hcell
    · exact visited_of_set hcell hv

lemma explore_of_visited {t : Thread} {rest : List Thread} {visited : Array Bool}
    (hinst : t.inst < program.size) (hv : Visited program visited t.inst t.pos) :
    explore program text (t :: rest) visited = explore program text rest visited := by
  obtain ⟨hcell, hv⟩ := Array.getElem?_eq_some_iff.1 hv
  rw [explore, if_neg (by omega)]
  simp only [dif_pos hcell, dif_pos hv]

lemma explore_of_unvisited {t : Thread} {rest : List Thread} {visited : Array Bool}
    (hinst : t.inst < program.size) (hcell : t.pos * program.size + t.inst < visited.size)
    (hv : ¬ Visited program visited t.inst t.pos) :
    explore program text (t :: rest) visited
      = explore program text (t.next program text ++ rest)
          (visited.set (t.pos * program.size + t.inst) true hcell) := by
  have hv' : ¬ visited[t.pos * program.size + t.inst] = true := fun h =>
    hv (Array.getElem?_eq_some_iff.2 ⟨hcell, h⟩)
  rw [explore, if_neg (by omega)]
  simp only [dif_pos hcell, dif_neg hv']

/-- **How two tables are related**, where the search of the whole program goes on with the thread
`next`, if there is one.  Instructions other than marks are visited in both or in neither.  A mark
that is visited comes before an instruction that is, or `next` is on the way from one to the
other. -/
structure Mirrors (program : Program) (text : Array Char) (visited visited' : Array Bool)
    (next : Option Thread) : Prop where
  size_eq : visited.size = program.size * (text.size + 1)
  size_eq' : visited'.size = program.erased.size * (text.size + 1)
  plain : ∀ {k i}, program[k]? = some i → i.isMark = false → ∀ {pos},
    Visited program visited k pos ↔ Visited program.erased visited' (program.rank k) pos
  mark : ∀ {k i}, program[k]? = some i → i.isMark = true → ∀ {pos},
    Visited program visited k pos →
      program.rank k < program.erased.size ∧
          Visited program.erased visited' (program.rank k) pos ∨
        ∃ t ∈ next, k < t.inst ∧ program.rank k = program.rank t.inst ∧ pos = t.pos

namespace Mirrors

open Program

variable {visited visited' : Array Bool} {next : Option Thread} {t : Thread} {i : Inst}

/-- Where the next thread has been before, the other search has been too. -/
lemma visited_head (h : Mirrors program text visited visited' (some t))
    (hi : program[t.inst]? = some i) (hv : Visited program visited t.inst t.pos) :
    program.rank t.inst < program.erased.size ∧
      Visited program.erased visited' (program.rank t.inst) t.pos := by
  cases hmark : i.isMark with
  | false => exact ⟨rank_lt_size_erased hi hmark, (h.plain hi hmark).1 hv⟩
  | true =>
      rcases h.mark hi hmark hv with htried | ⟨s, hs, hlt, -⟩
      · exact htried
      · obtain rfl := Option.mem_some_iff.1 hs
        exact absurd hlt (Nat.lt_irrefl _)

/-- Without a thread on its way, the search can go on anywhere. -/
lemma of_none (h : Mirrors program text visited visited' none) :
    Mirrors program text visited visited' next where
  size_eq := h.size_eq
  size_eq' := h.size_eq'
  plain := h.plain
  mark hi hmark _ hv := by
    rcases h.mark hi hmark hv with htried | ⟨s, hs, -⟩
    · exact Or.inl htried
    · cases hs

/-- A thread that comes to a place where the search has been before is given up. -/
lemma drop (h : Mirrors program text visited visited' (some t))
    (hinst : program.rank t.inst < program.erased.size)
    (hv : Visited program.erased visited' (program.rank t.inst) t.pos) :
    Mirrors program text visited visited' none where
  size_eq := h.size_eq
  size_eq' := h.size_eq'
  plain := h.plain
  mark hi hmark _ hvisited := by
    rcases h.mark hi hmark hvisited with htried | ⟨s, hs, -, hrank, rfl⟩
    · exact Or.inl htried
    · obtain rfl := Option.mem_some_iff.1 hs
      rw [hrank]
      exact Or.inl ⟨hinst, hv⟩

/-- A thread passes a mark. -/
lemma pass (h : Mirrors program text visited visited' (some t))
    (hi : program[t.inst]? = some i) (hmark : i.isMark = true) (trace : Trace)
    (hcell : t.pos * program.size + t.inst < visited.size) :
    Mirrors program text (visited.set (t.pos * program.size + t.inst) true hcell) visited'
      (some ⟨t.inst + 1, t.pos, trace⟩) where
  size_eq := by rw [Array.size_set, h.size_eq]
  size_eq' := h.size_eq'
  plain := by
    intro k j hj hplain pos
    have hne : k ≠ t.inst := by
      rintro rfl
      rw [hi, Option.some.injEq] at hj
      rw [← hj, hmark] at hplain
      cases hplain
    rw [visited_set_iff hcell (lt_size hi) (lt_size hj), h.plain hj hplain]
    simp [hne]
  mark := by
    intro k j hj hmark' pos hv
    have hrank := rank_succ_of_mark hi hmark
    rcases visited_set hcell (lt_size hi) (lt_size hj) hv with ⟨rfl, rfl⟩ | hv
    · exact Or.inr ⟨_, rfl, Nat.lt_succ_self _, hrank.symm, rfl⟩
    · rcases h.mark hj hmark' hv with htried | ⟨s, hs, hlt, hsame, rfl⟩
      · exact Or.inl htried
      · obtain rfl := Option.mem_some_iff.1 hs
        exact Or.inr ⟨_, rfl, Nat.lt_succ_of_lt hlt, hsame.trans hrank.symm, rfl⟩

/-- A thread executes an instruction that stands in both programs. -/
lemma visit (h : Mirrors program text visited visited' (some t))
    (hi : program[t.inst]? = some i) (hplain : i.isMark = false)
    (hcell : t.pos * program.size + t.inst < visited.size)
    (hcell' : t.pos * program.erased.size + program.rank t.inst < visited'.size) :
    Mirrors program text (visited.set (t.pos * program.size + t.inst) true hcell)
      (visited'.set (t.pos * program.erased.size + program.rank t.inst) true hcell') none where
  size_eq := by rw [Array.size_set, h.size_eq]
  size_eq' := by rw [Array.size_set, h.size_eq']
  plain := by
    intro k j hj hplain' pos
    have hsame : program.rank k = program.rank t.inst ↔ k = t.inst :=
      ⟨rank_injective hj hi hplain' hplain, fun heq => heq ▸ rfl⟩
    rw [visited_set_iff hcell (lt_size hi) (lt_size hj),
      visited_set_iff hcell' (rank_lt_size_erased hi hplain) (rank_lt_size_erased hj hplain'),
      h.plain hj hplain', hsame]
  mark := by
    intro k j hj hmark pos hv
    rcases visited_set hcell (lt_size hi) (lt_size hj) hv with ⟨rfl, rfl⟩ | hv
    · rw [hi, Option.some.injEq] at hj
      rw [← hj, hplain] at hmark
      cases hmark
    · rcases h.mark hj hmark hv with ⟨hlt, hv'⟩ | ⟨s, hs, -, hrank, rfl⟩
      · exact Or.inl ⟨hlt, visited_of_set hcell' hv'⟩
      · obtain rfl := Option.mem_some_iff.1 hs
        rw [hrank]
        exact Or.inl ⟨rank_lt_size_erased hi hplain, visited_set_self hcell'⟩

end Mirrors

/-- **How two outcomes are related.**  Both searches come to the end at the same position, or none
does and their tables can be used for a further search. -/
structure Agrees (program : Program) (text : Array Char)
    (outcome outcome' : Option Thread × Array Bool) : Prop where
  pos_eq : outcome'.1.map Thread.pos = outcome.1.map Thread.pos
  mirrors : outcome.1 = none → Mirrors program text outcome.2 outcome'.2 none

/-- **Two searches side by side.**  They go the same way; at a mark, the search of the erased
program waits. -/
theorem explore_erased (hbounded : program.Bounded) {stack : List Thread} {visited : Array Bool}
    (hstack : ∀ t ∈ stack, t.inst ≤ program.size ∧ t.pos ≤ text.size) :
    ∀ {stack' visited'}, Mirrors program text visited visited' stack.head? →
      stack'.map Thread.place = stack.map (fun t => (program.rank t.inst, t.pos)) →
        Agrees program text (explore program text stack visited)
          (explore program.erased text stack' visited') := by
  fun_induction explore program text stack visited with
  | case1 visited =>
      intro stack' visited' hmirrors hplaces
      obtain rfl : stack' = [] := List.map_eq_nil_iff.1 hplaces
      rw [explore]
      exact ⟨rfl, fun _ => hmirrors⟩
  | case2 visited t rest hend =>
      intro stack' visited' hmirrors hplaces
      obtain ⟨t', rest', rfl, hplace, -⟩ := List.map_eq_cons_iff.1 hplaces
      simp only [Thread.place, Prod.mk.injEq] at hplace
      rw [explore, if_pos (by rw [hplace.1, hend, Program.size_erased])]
      exact ⟨congrArg some hplace.2, by simp⟩
  | case3 visited t rest hend cell hcell hv ih =>
      intro stack' visited' hmirrors hplaces
      obtain ⟨t', rest', rfl, hplace, hrest⟩ := List.map_eq_cons_iff.1 hplaces
      simp only [Thread.place, Prod.mk.injEq] at hplace
      have hlt : t.inst < program.size := by
        have := (hstack t (by simp)).1
        omega
      obtain ⟨hlt', hv'⟩ := hmirrors.visited_head (Array.getElem?_eq_getElem hlt)
        (Array.getElem?_eq_some_iff.2 ⟨hcell, hv⟩)
      rw [explore_of_visited (by rwa [hplace.1]) (by rwa [hplace.1, hplace.2])]
      exact ih (fun s hs => hstack s (by simp [hs])) (hmirrors.drop hlt' hv').of_none hrest
  | case4 visited t rest hend cell hcell hv ih =>
      intro stack' visited' hmirrors hplaces
      obtain ⟨t', rest', rfl, hplace, hrest⟩ := List.map_eq_cons_iff.1 hplaces
      obtain ⟨hinst, hpos⟩ := hstack t (by simp)
      have hlt : t.inst < program.size := by omega
      have hi := Array.getElem?_eq_getElem hlt
      have hstack' : ∀ s ∈ t.next program text ++ rest,
          s.inst ≤ program.size ∧ s.pos ≤ text.size := by
        intro s hs
        rcases List.mem_append.1 hs with hs | hs
        · exact ⟨hbounded.next_inst_le hs, Thread.next_pos_le hpos hs⟩
        · exact hstack s (by simp [hs])
      cases hmark : program[t.inst].isMark with
      | true =>
          obtain ⟨trace, hnext⟩ := @next_of_mark _ text _ _ hi hmark
          rw [hnext] at ih hstack' ⊢
          refine ih hstack' (hmirrors.pass hi hmark trace hcell) ?_
          rw [List.map_cons, hplace, hrest, List.singleton_append, List.map_cons,
            Program.rank_succ_of_mark hi hmark]
      | false =>
          obtain ⟨inst', pos', trace'⟩ := t'
          simp only [Thread.place, Prod.mk.injEq] at hplace
          obtain ⟨rfl, rfl⟩ := hplace
          have hlt' := Program.rank_lt_size_erased hi hmark
          have hcell' : t.pos * program.erased.size + program.rank t.inst < visited'.size :=
            hmirrors.size_eq' ▸ cell_lt hlt' hpos
          have hunvisited : ¬ Visited program.erased visited' (program.rank t.inst) t.pos :=
            fun hvisited =>
              hv (Array.getElem?_eq_some_iff.1 ((hmirrors.plain hi hmark).2 hvisited)).2
          rw [explore_of_unvisited hlt' hcell' hunvisited]
          refine ih hstack' (hmirrors.visit hi hmark hcell hcell').of_none ?_
          rw [List.map_append, List.map_append, hrest,
            @next_erased _ text t ⟨program.rank t.inst, t.pos, trace'⟩ _ hi hmark rfl rfl]
  | case5 visited t rest hend cell hcell ih =>
      intro stack' visited' hmirrors hplaces
      obtain ⟨hinst, hpos⟩ := hstack t (by simp)
      have hlt : t.inst < program.size := by omega
      exact absurd (hmirrors.size_eq ▸ cell_lt hlt hpos) hcell

/-- The tables before the first search. -/
lemma mirrors_replicate : Mirrors program text
    (Array.replicate (program.size * (text.size + 1)) false)
    (Array.replicate (program.erased.size * (text.size + 1)) false) none where
  size_eq := Array.size_replicate
  size_eq' := Array.size_replicate
  plain := by
    intro k i _ _ pos
    rw [Visited, Visited, Array.getElem?_replicate, Array.getElem?_replicate]
    split_ifs <;> simp
  mark := by
    intro k i _ _ pos hv
    rw [Visited, Array.getElem?_replicate] at hv
    split_ifs at hv
    simp at hv

lemma searchFrom_erased (hbounded : program.Bounded) {starts : List Nat}
    (hstarts : ∀ start ∈ starts, start ≤ text.size) {visited visited' : Array Bool}
    (hmirrors : Mirrors program text visited visited' none) :
    (searchFrom program.erased text starts visited').map Match.span
      = (searchFrom program text starts visited).map Match.span := by
  induction starts generalizing visited visited' with
  | nil => rfl
  | cons start starts ih =>
      have hagrees : Agrees program text
          (explore program text [⟨0, start, ⟨start, none⟩⟩] visited)
          (explore program.erased text [⟨0, start, ⟨start, none⟩⟩] visited') :=
        explore_erased hbounded (by simpa using hstarts start (by simp)) hmirrors.of_none rfl
      rw [searchFrom, searchFrom]
      generalize explore program text _ visited = outcome at hagrees
      generalize explore program.erased text _ visited' = outcome' at hagrees
      obtain ⟨result, table⟩ := outcome
      obtain ⟨result', table'⟩ := outcome'
      cases result with
      | none =>
          obtain rfl : result' = none := Option.map_eq_none_iff.1 hagrees.pos_eq
          exact ih (fun i hi => hstarts i (by simp [hi])) (hagrees.mirrors rfl)
      | some u =>
          obtain ⟨u', rfl, hpos⟩ := Option.map_eq_some_iff.1 hagrees.pos_eq
          simp only [Option.map_some, hpos]

/-- **Groups do not change what is found.** -/
theorem Pattern.search_ungrouped (tracked tracked' : String) (p : Pattern) (text : Array Char) :
    (p.ungrouped.search tracked' text).map Match.span
      = (p.search tracked text).map Match.span := by
  rw [search, search, program_ungrouped tracked tracked']
  exact searchFrom_erased (p.bounded_program tracked)
    (fun start h => Nat.le_of_lt_succ (List.mem_range.1 h)) mirrors_replicate

end VersionBump
