import VersionBump.Pattern.Matches
import VersionBump.Proofs.Search.Finishing

/-!
# The code of a pattern runs as the pattern matches

A thread without its instruction is a `Cursor`: a position of the text and what is remembered of the
tracked group.  `Leads program text R start stop` says that the code between two positions of a
program does to cursors what a relation says: a run from `start` to the end of the program passes
`stop` after a step of `R`, and every step of `R` can be taken.  Code is put together from smaller
code, and `Leads` with it:

* one instruction: `Leads.read`, `Leads.check`, `Leads.jump`, `Leads.enter`, `Leads.leave`;
* one part after another: `Leads.trans`, `Leads.copies`;
* a choice: `Leads.fork`, `Leads.again`, and repetitions inside each other, `Leads.optional`;
* a loop: `Leads.loop`, by induction on the number of steps to the end.

`Pattern.leads_code` follows the layout of a pattern with these and comes to `Pattern.Traverses`,
which is `Pattern.Matches` with the traces carried along.  So the end of a pattern's program can be
reached from a start exactly if the pattern has a match there (`Pattern.finishes_iff`).
-/

namespace VersionBump

variable {program : Program} {text : Array Char}

/-! ## Repeated steps -/

section Repeats

variable {α : Type} {R : α → α → Prop} {a b : α}

lemma repeats_add {m n : Nat} :
    Repeats R (m + n) a b ↔ ∃ c, Repeats R m a c ∧ Repeats R n c b := by
  induction m generalizing a with
  | zero => simp [Repeats]
  | succ m ih =>
      rw [Nat.succ_add]
      simp only [Repeats, ih]
      constructor
      · rintro ⟨d, hR, c, hm, hn⟩
        exact ⟨c, ⟨d, hR, hm⟩, hn⟩
      · rintro ⟨c, ⟨d, hR, hm⟩, hn⟩
        exact ⟨d, hR, c, hm, hn⟩

/-- Any number of steps: one and any number of further ones, or none. -/
lemma exists_repeats_iff :
    ((∃ c, R a c ∧ ∃ n, Repeats R n c b) ∨ a = b) ↔ ∃ n, Repeats R n a b := by
  constructor
  · rintro (⟨c, hR, n, hrep⟩ | rfl)
    · exact ⟨n + 1, c, hR, hrep⟩
    · exact ⟨0, rfl⟩
  · rintro ⟨n, hrep⟩
    cases n with
    | zero => exact Or.inr hrep
    | succ n =>
        obtain ⟨c, hR, hrep⟩ := hrep
        exact Or.inl ⟨c, hR, n, hrep⟩

/-- A number of steps and some further ones are that many steps at least. -/
lemma repeats_then_iff {bound : Nat → Prop} {least : Nat} :
    (∃ c, Repeats R least a c ∧ ∃ n, bound n ∧ Repeats R n c b) ↔
      ∃ n, least ≤ n ∧ bound (n - least) ∧ Repeats R n a b := by
  constructor
  · rintro ⟨c, hleast, n, hbound, hrep⟩
    refine ⟨least + n, Nat.le_add_right _ _, ?_, repeats_add.2 ⟨c, hleast, hrep⟩⟩
    rwa [Nat.add_sub_cancel_left]
  · rintro ⟨n, hleast, hbound, hrep⟩
    rw [show n = least + (n - least) by omega] at hrep
    obtain ⟨c, hfirst, hrep⟩ := repeats_add.1 hrep
    exact ⟨c, hfirst, n - least, hbound, hrep⟩

/-- What every step does to a view of the states, repeated steps do to it. -/
lemma Repeats.map {β : Type} {S : β → β → Prop} (f : α → β)
    (hstep : ∀ a b, R a b → S (f a) (f b)) {n : Nat} (h : Repeats R n a b) :
    Repeats S n (f a) (f b) := by
  induction n generalizing a with
  | zero => exact congrArg f h
  | succ n ih =>
      obtain ⟨c, hR, hrep⟩ := h
      exact ⟨f c, hstep a c hR, ih hrep⟩

/-- Where every step on a view of the states comes from a step on the states, repeated steps do. -/
lemma Repeats.lift {β : Type} {S : β → β → Prop} (f : β → α)
    (hstep : ∀ c b, R (f c) b → ∃ d, S c d ∧ f d = b) {n : Nat} {c : β}
    (h : Repeats R n (f c) b) : ∃ d, Repeats S n c d ∧ f d = b := by
  induction n generalizing c with
  | zero => exact ⟨c, rfl, h⟩
  | succ n ih =>
      obtain ⟨_, hR, hrep⟩ := h
      obtain ⟨e, hS, rfl⟩ := hstep _ _ hR
      obtain ⟨d, hrest, hd⟩ := ih hrep
      exact ⟨d, ⟨e, hS, hrest⟩, hd⟩

/-- What every step keeps, repeated steps keep. -/
lemma Repeats.invariant {P : α → Prop} (hstep : ∀ a b, R a b → P a → P b) {n : Nat}
    (h : Repeats R n a b) (ha : P a) : P b := by
  induction n generalizing a with
  | zero => exact h ▸ ha
  | succ n ih =>
      obtain ⟨c, hR, hrep⟩ := h
      exact ih hrep (hstep a c hR ha)

end Repeats

/-! ## Runs -/

/-- The given number of steps leads from one thread to another. -/
def Runs (program : Program) (text : Array Char) (n : Nat) (t u : Thread) : Prop :=
  Repeats (fun t u => u ∈ t.next program text) n t u

/-- A run to the end takes a step from every instruction before the end. -/
lemma Runs.step {n : Nat} {t u : Thread} {i : Inst} (h : Runs program text n t u)
    (hi : program[t.inst]? = some i) (hend : u.inst = program.size) :
    ∃ m, n = m + 1 ∧ ∃ s ∈ t.next program text, Runs program text m s u := by
  cases n with
  | zero =>
      have heq : t = u := h
      simp [heq, hend] at hi
  | succ m => exact ⟨m, rfl, h⟩

/-- **Runs are what finishes.**  Whether the end can be reached from a place shows in the runs of
any thread there. -/
lemma finishesIn_iff_runs {n inst pos : Nat} (trace : Trace) :
    FinishesIn program text n inst pos ↔
      ∃ u, u.inst = program.size ∧ Runs program text n ⟨inst, pos, trace⟩ u := by
  induction n generalizing inst pos trace with
  | zero =>
      constructor
      · intro h
        exact ⟨⟨inst, pos, trace⟩, h, rfl⟩
      · rintro ⟨u, hend, rfl⟩
        exact hend
  | succ n ih =>
      rw [finishesIn_succ_iff trace]
      constructor
      · rintro ⟨s, hs, hfin⟩
        obtain ⟨u, hend, hrun⟩ := (ih s.trace).1 hfin
        exact ⟨u, hend, s, hs, hrun⟩
      · rintro ⟨u, hend, s, hs, hrun⟩
        exact ⟨s, hs, (ih s.trace).2 ⟨u, hend, hrun⟩⟩

/-! ## Cursors -/

/-- A thread without its instruction. -/
structure Cursor where
  pos : Nat
  trace : Trace

/-- The thread that is to execute the given instruction. -/
def Cursor.thread (c : Cursor) (inst : Nat) : Thread := ⟨inst, c.pos, c.trace⟩

/-- A group starts here; its place is kept if `tracked`. -/
def Cursor.enter (tracked : Bool) (c : Cursor) : Cursor :=
  ⟨c.pos, if tracked then ⟨c.pos, c.trace.span⟩ else c.trace⟩

/-- A group ends here. -/
def Cursor.leave (tracked : Bool) (c : Cursor) : Cursor :=
  ⟨c.pos, if tracked then ⟨c.trace.entered, some ⟨c.trace.entered, c.pos⟩⟩ else c.trace⟩

/-! ## Code inside a program -/

/-- The instructions stand in the program from a position on. -/
def CodeAt (program : Program) (start : Nat) (code : List Inst) : Prop :=
  ∀ k i, code[k]? = some i → program[start + k]? = some i

namespace CodeAt

variable {start : Nat} {i : Inst} {code code' : List Inst}

lemma head (h : CodeAt program start (i :: code)) : program[start]? = some i :=
  h 0 i rfl

lemma tail (h : CodeAt program start (i :: code)) : CodeAt program (start + 1) code := by
  intro k i' hk
  rw [Nat.add_assoc, Nat.add_comm 1 k]
  exact h (k + 1) i' hk

lemma left (h : CodeAt program start (code ++ code')) : CodeAt program start code := by
  intro k i' hk
  exact h k i' (List.getElem?_append_left (List.getElem?_eq_some_iff.1 hk).1 ▸ hk)

lemma right {size : Nat} (h : CodeAt program start (code ++ code')) (hsize : code.length = size) :
    CodeAt program (start + size) code' := by
  intro k i' hk
  rw [Nat.add_assoc]
  refine h (size + k) i' ?_
  rw [List.getElem?_append_right (by omega), hsize, Nat.add_sub_cancel_left, hk]

/-- The whole program, from its start on. -/
lemma toArray (code : List Inst) : CodeAt code.toArray 0 code := by
  intro k i hk
  rw [Nat.zero_add, List.getElem?_toArray, hk]

end CodeAt

/-! ## Code that does what a relation says -/

/-- **What code does.**  A run from `start` to the end of the program passes `stop` after a step of
`R`, with no more steps left than it had, and every step of `R` can be taken. -/
structure Leads (program : Program) (text : Array Char) (R : Cursor → Cursor → Prop)
    (start stop : Nat) : Prop where
  sound : ∀ n c u, u.inst = program.size → Runs program text n (c.thread start) u →
    ∃ d m, m ≤ n ∧ R c d ∧ Runs program text m (d.thread stop) u
  complete : ∀ c d, R c d → ∃ n, Runs program text n (c.thread start) (d.thread stop)

namespace Leads

variable {R S : Cursor → Cursor → Prop} {a b b' c : Nat}

/-- Another name for the same relation. -/
lemma congr (h : Leads program text R a b) (hRS : ∀ c d, R c d ↔ S c d) :
    Leads program text S a b where
  sound n c u hend hrun := by
    obtain ⟨d, m, hm, hR, hrest⟩ := h.sound n c u hend hrun
    exact ⟨d, m, hm, (hRS c d).1 hR, hrest⟩
  complete c d hS := h.complete c d ((hRS c d).2 hS)

lemma refl (a : Nat) : Leads program text (fun c d => c = d) a a where
  sound n c u _ hrun := ⟨c, n, Nat.le_refl n, rfl, hrun⟩
  complete := by
    rintro c d rfl
    exact ⟨0, rfl⟩

lemma trans (h : Leads program text R a b) (h' : Leads program text S b c) :
    Leads program text (fun x y => ∃ z, R x z ∧ S z y) a c where
  sound n x u hend hrun := by
    obtain ⟨z, m, hm, hR, hrest⟩ := h.sound n x u hend hrun
    obtain ⟨y, l, hl, hS, hrest⟩ := h'.sound m z u hend hrest
    exact ⟨y, l, Nat.le_trans hl hm, ⟨z, hR, hS⟩, hrest⟩
  complete := by
    rintro x y ⟨z, hR, hS⟩
    obtain ⟨m, hfirst⟩ := h.complete x z hR
    obtain ⟨n, hsecond⟩ := h'.complete z y hS
    exact ⟨m + n, repeats_add.2 ⟨_, hfirst, hsecond⟩⟩

/-! ### One instruction -/

/-- An instruction that leads to one position only. -/
lemma of_next {i : Inst} (next : Cursor → List Cursor) (hi : program[a]? = some i)
    (hnext : ∀ c, (c.thread a).next program text = (next c).map (·.thread b)) :
    Leads program text (fun c d => d ∈ next c) a b where
  sound n c u hend hrun := by
    obtain ⟨m, rfl, s, hs, hrest⟩ := hrun.step hi hend
    rw [hnext] at hs
    obtain ⟨d, hd, rfl⟩ := List.mem_map.1 hs
    exact ⟨d, m, Nat.le_succ m, hd, hrest⟩
  complete c d hd := by
    have hmem : d.thread b ∈ (c.thread a).next program text := by
      rw [hnext]
      exact List.mem_map_of_mem hd
    exact ⟨1, d.thread b, hmem, rfl⟩

lemma read {set : CharSet} (hi : program[a]? = some (.read set)) :
    Leads program text
      (fun c d => (∃ x, text[c.pos]? = some x ∧ set.contains x = true) ∧ d = ⟨c.pos + 1, c.trace⟩)
      a (a + 1) := by
  refine (of_next (fun c => if text[c.pos]?.any set.contains then [⟨c.pos + 1, c.trace⟩] else [])
    hi fun c => ?_).congr fun c d => ?_
  · simp only [Thread.next, Cursor.thread, hi]
    cases text[c.pos]? with
    | none => rfl
    | some x =>
        simp only [Option.any_some]
        split_ifs <;> rfl
  · cases text[c.pos]? with
    | none => simp
    | some x => simp

lemma check {assertion : Assertion} (hi : program[a]? = some (.check assertion)) :
    Leads program text (fun c d => c = d ∧ assertion.holds text c.pos = true) a (a + 1) := by
  refine (of_next (fun c => if assertion.holds text c.pos then [c] else []) hi
    fun c => ?_).congr fun c d => ?_
  · by_cases hholds : assertion.holds text c.pos = true
    · simp [Thread.next, Cursor.thread, hi, hholds]
    · simp [Thread.next, Cursor.thread, hi, hholds]
  · by_cases hholds : assertion.holds text c.pos = true
    · simp [hholds, eq_comm]
    · simp [hholds]

lemma jump (hi : program[a]? = some (.jump b)) : Leads program text (fun c d => c = d) a b := by
  refine (of_next (fun c => [c]) hi fun c => ?_).congr fun c d => ?_
  · simp only [Thread.next, Cursor.thread, hi, List.map_cons, List.map_nil]
  · simp [eq_comm]

lemma enter {tracked : Bool} (hi : program[a]? = some (.enter tracked)) :
    Leads program text (fun c d => d = c.enter tracked) a (a + 1) := by
  refine (of_next (fun c => [c.enter tracked]) hi fun c => ?_).congr fun c d => ?_
  · simp only [Thread.next, Cursor.thread, Cursor.enter, hi, List.map_cons, List.map_nil]
  · simp

lemma leave {tracked : Bool} (hi : program[a]? = some (.leave tracked)) :
    Leads program text (fun c d => d = c.leave tracked) a (a + 1) := by
  refine (of_next (fun c => [c.leave tracked]) hi fun c => ?_).congr fun c d => ?_
  · simp only [Thread.next, Cursor.thread, Cursor.leave, hi, List.map_cons, List.map_nil]
  · simp

/-! ### Choices and repetitions -/

/-- The branches of a fork. -/
lemma next_fork (hi : program[a]? = some (.fork b b')) (x : Cursor) :
    (x.thread a).next program text = [x.thread b, x.thread b'] := by
  simp only [Thread.next, Cursor.thread, hi]

lemma fork (hi : program[a]? = some (.fork b b')) (h : Leads program text R b c)
    (h' : Leads program text S b' c) : Leads program text (fun x y => R x y ∨ S x y) a c where
  sound n x u hend hrun := by
    obtain ⟨m, rfl, s, hs, hrest⟩ := hrun.step hi hend
    simp only [next_fork hi, List.mem_cons, List.not_mem_nil, or_false] at hs
    rcases hs with rfl | rfl
    · obtain ⟨y, l, hl, hR, hy⟩ := h.sound m x u hend hrest
      exact ⟨y, l, Nat.le_succ_of_le hl, Or.inl hR, hy⟩
    · obtain ⟨y, l, hl, hS, hy⟩ := h'.sound m x u hend hrest
      exact ⟨y, l, Nat.le_succ_of_le hl, Or.inr hS, hy⟩
  complete := by
    rintro x y (hR | hS)
    · obtain ⟨n, hrun⟩ := h.complete x y hR
      exact ⟨n + 1, x.thread b, by simp [next_fork hi], hrun⟩
    · obtain ⟨n, hrun⟩ := h'.complete x y hS
      exact ⟨n + 1, x.thread b', by simp [next_fork hi], hrun⟩

/-- One more repetition or none: the order of preference does not matter for what is possible. -/
lemma again {greedy : Bool} (hi : program[a]? = some (Inst.again greedy b c))
    (h : Leads program text R b c) : Leads program text (fun x y => R x y ∨ x = y) a c := by
  cases greedy with
  | false => exact (fork hi (refl c) h).congr fun x y => or_comm
  | true => exact fork hi h (refl c)

/-- The branches at the edge of a repetition. -/
lemma mem_next_again {greedy : Bool} (hi : program[a]? = some (Inst.again greedy b c))
    (x : Cursor) (s : Thread) :
    s ∈ (x.thread a).next program text ↔ s = x.thread b ∨ s = x.thread c := by
  cases greedy with
  | false =>
      simp only [next_fork hi, List.mem_cons, List.not_mem_nil, or_false]
      exact or_comm
  | true => simp only [next_fork hi, List.mem_cons, List.not_mem_nil, or_false]

/-- **Loops.**  A fork that leads into a body, from where the way leads back to the fork, or out. -/
lemma loop {greedy : Bool} (hi : program[a]? = some (Inst.again greedy b c))
    (h : Leads program text R b a) :
    Leads program text (fun x y => ∃ n, Repeats R n x y) a c where
  sound n := by
    -- the fork itself takes a step, so the next time around there are fewer left
    induction n using Nat.strongRecOn with
    | ind n ih =>
        intro x u hend hrun
        obtain ⟨m, rfl, s, hs, hrest⟩ := hrun.step hi hend
        rcases (mem_next_again hi x s).1 hs with rfl | rfl
        · obtain ⟨z, l, hl, hR, hz⟩ := h.sound m x u hend hrest
          obtain ⟨y, l', hl', ⟨times, hrep⟩, hy⟩ := ih l (by omega) z u hend hz
          exact ⟨y, l', by omega, ⟨times + 1, z, hR, hrep⟩, hy⟩
        · exact ⟨x, m, Nat.le_succ m, ⟨0, rfl⟩, hrest⟩
  complete := by
    rintro x y ⟨n, hrep⟩
    induction n generalizing x with
    | zero =>
        obtain rfl : x = y := hrep
        exact ⟨1, x.thread c, (mem_next_again hi x _).2 (Or.inr rfl), rfl⟩
    | succ n ih =>
        obtain ⟨z, hR, hrep⟩ := hrep
        obtain ⟨m, hbody⟩ := h.complete x z hR
        obtain ⟨l, hrest⟩ := ih z hrep
        exact ⟨m + l + 1, x.thread b, (mem_next_again hi x _).2 (Or.inl rfl),
          repeats_add.2 ⟨_, hbody, hrest⟩⟩

variable {code : Nat → List Inst} {size : Nat}

lemma copies (hcode : ∀ start, CodeAt program start (code start) →
      Leads program text R start (start + size))
    (hsize : ∀ start, (code start).length = size) {n start : Nat}
    (h : CodeAt program start (Inst.copies code size n start)) :
    Leads program text (Repeats R n) start (start + n * size) := by
  induction n generalizing start with
  | zero => simpa [Repeats] using refl start
  | succ n ih =>
      have hrest := ih (h.right (hsize start))
      rw [Nat.add_assoc, Nat.add_comm size, ← Nat.succ_mul] at hrest
      exact (hcode start h.left).trans hrest

lemma optional (hcode : ∀ start, CodeAt program start (code start) →
      Leads program text R start (start + size))
    (hsize : ∀ start, (code start).length = size) {greedy : Bool} {exit n start : Nat}
    (hexit : exit = start + n * (size + 1))
    (h : CodeAt program start (Inst.optional code size greedy exit n start)) :
    Leads program text (fun x y => ∃ k ≤ n, Repeats R k x y) start exit := by
  induction n generalizing start with
  | zero =>
      rw [Nat.zero_mul, Nat.add_zero] at hexit
      subst hexit
      exact (refl exit).congr fun x y => by simp [Repeats]
  | succ n ih =>
      have hrest := ih (by rw [hexit, Nat.succ_mul]; omega) (h.tail.right (hsize (start + 1)))
      refine (again h.head ((hcode _ h.tail.left).trans hrest)).congr fun x y => ?_
      constructor
      · rintro (⟨z, hR, k, hk, hrep⟩ | rfl)
        · exact ⟨k + 1, by omega, z, hR, hrep⟩
        · exact ⟨0, by omega, rfl⟩
      · rintro ⟨k, hk, hrep⟩
        cases k with
        | zero => exact Or.inr hrep
        | succ k =>
            obtain ⟨z, hR, hrep⟩ := hrep
            exact Or.inl ⟨z, hR, k, by omega, hrep⟩

end Leads

/-! ## The code of a pattern -/

/-- The last copy stands after the others. -/
lemma Inst.copies_succ (code : Nat → List Inst) (size n start : Nat) :
    copies code size (n + 1) start = copies code size n start ++ code (start + n * size) := by
  induction n generalizing start with
  | zero => simp [copies]
  | succ n ih =>
      rw [copies, ih, copies, List.append_assoc]
      congr 3
      rw [Nat.succ_mul]
      omega

namespace Pattern

/-- **Matching with a trace.**  Whether a pattern can lead from one cursor to another.  This is
`Matches`, except that the groups with the name `tracked` leave their trace. -/
def Traverses (tracked : String) (text : Array Char) : Pattern → Cursor → Cursor → Prop
  | .empty, c, d => c = d
  | .char set, c, d =>
    (∃ x, text[c.pos]? = some x ∧ set.contains x = true) ∧ d = ⟨c.pos + 1, c.trace⟩
  | .look a, c, d => c = d ∧ a.holds text c.pos = true
  | .cat p q, c, d => ∃ e, p.Traverses tracked text c e ∧ q.Traverses tracked text e d
  | .alt p q, c, d => p.Traverses tracked text c d ∨ q.Traverses tracked text c d
  | .rep p least extra _, c, d =>
    ∃ n, least ≤ n ∧ (∀ m, extra = some m → n ≤ least + m) ∧
      Repeats (p.Traverses tracked text) n c d
  | .group name p, c, d =>
    ∃ e, p.Traverses tracked text (c.enter (name == some tracked)) e ∧
      d = e.leave (name == some tracked)

/-- **The code of a pattern does what the pattern matches**, and traces the tracked groups. -/
theorem leads_code {tracked : String} {p : Pattern} {start : Nat}
    (h : CodeAt program start (p.code tracked start)) :
    Leads program text (p.Traverses tracked text) start (start + p.codeSize) := by
  fun_induction codeSize p generalizing start with
  | case1 => exact Leads.refl start
  | case2 set => exact Leads.read h.head
  | case3 assertion => exact Leads.check h.head
  | case4 p q ihp ihq =>
      rw [← Nat.add_assoc]
      exact (ihp h.left).trans (ihq (h.right (p.length_code tracked start)))
  | case5 p q ihp ihq =>
      have hrest := h.tail.right (p.length_code tracked (start + 1))
      have hsecond : start + 1 + p.codeSize + 1 = start + p.codeSize + 2 := by omega
      have hstop : start + p.codeSize + 2 + q.codeSize = start + (p.codeSize + q.codeSize + 2) := by
        omega
      have hp := ((ihp h.tail.left).trans (Leads.jump hrest.head)).congr fun c d => exists_eq_right
      have hq := ihq (hsecond ▸ hrest.tail)
      rw [hstop] at hp hq
      exact Leads.fork h.head hp hq
  | case6 p least extra greedy ih =>
      have hcopies := Leads.copies (fun _ => ih) (p.length_code tracked) h.left
      have hoptional := Leads.optional (fun _ => ih) (p.length_code tracked) rfl
        (h.right (Inst.length_copies (p.length_code tracked) least start))
      rw [← Nat.add_assoc]
      refine (hcopies.trans hoptional).congr fun c d => repeats_then_iff.trans ?_
      simp only [Traverses, Option.some.injEq, forall_eq', Nat.sub_le_iff_le_add,
        Nat.add_comm extra]
  | case7 p greedy ih =>
      have hbody := ih h.tail.left
      have hback := (h.tail.right (p.length_code tracked (start + 1))).head
      by_cases hconsumes : p.consumes = true
      · rw [if_pos hconsumes] at hback
        have hloop := Leads.loop h.head
          ((hbody.trans (Leads.jump hback)).congr fun c d => exists_eq_right)
        exact hloop.congr fun c d => by simp [Traverses]
      · rw [if_neg hconsumes] at hback
        refine (Leads.again h.head (hbody.trans (Leads.loop hback hbody))).congr fun c d =>
          exists_repeats_iff.trans ?_
        simp [Traverses]
  | case8 p least greedy ih =>
      have hcopies := Leads.copies (fun _ => ih) (p.length_code tracked) h.left
      have hlast : CodeAt program (start + least * p.codeSize)
          (p.code tracked (start + least * p.codeSize)) := by
        have hcode := h.left
        rw [Inst.copies_succ] at hcode
        exact hcode.right (Inst.length_copies (p.length_code tracked) least start)
      have hagain := (h.right (Inst.length_copies (p.length_code tracked) (least + 1) start)).head
      have htop : start + (least + 1) * p.codeSize = start + least * p.codeSize + p.codeSize := by
        rw [Nat.succ_mul, Nat.add_assoc]
      rw [htop] at hcopies hagain
      rw [← Nat.add_assoc, htop]
      have hloop := (Leads.loop hagain (ih hlast)).congr
        (S := fun c d => ∃ n, True ∧ Repeats (p.Traverses tracked text) n c d) fun c d => by simp
      refine (hcopies.trans hloop).congr fun c d => repeats_then_iff.trans ?_
      simp [Traverses]
  | case9 name p ih =>
      have hbody := ih h.tail.left
      have hleave := (h.tail.right (p.length_code tracked (start + 1))).head
      have hall := (Leads.enter h.head).trans (hbody.trans (Leads.leave hleave))
      rw [show start + 1 + p.codeSize + 1 = start + (p.codeSize + 2) by omega] at hall
      exact hall.congr fun c d => by simp [Traverses]

/-! ## Traces aside -/

variable {tracked : String}

/-- What can be traversed can be matched. -/
lemma Traverses.matches {p : Pattern} {c d : Cursor} (h : p.Traverses tracked text c d) :
    p.Matches text c.pos d.pos := by
  induction p generalizing c d with
  | empty => exact congrArg Cursor.pos h
  | char set =>
      obtain ⟨hread, rfl⟩ := h
      exact ⟨rfl, hread⟩
  | look assertion =>
      obtain ⟨rfl, hholds⟩ := h
      exact ⟨rfl, hholds⟩
  | cat p q ihp ihq =>
      obtain ⟨e, hp, hq⟩ := h
      exact ⟨e.pos, ihp hp, ihq hq⟩
  | alt p q ihp ihq =>
      rcases h with hp | hq
      · exact Or.inl (ihp hp)
      · exact Or.inr (ihq hq)
  | rep p least extra greedy ih =>
      obtain ⟨n, hleast, hextra, hrep⟩ := h
      exact ⟨n, hleast, hextra, hrep.map Cursor.pos fun _ _ => ih⟩
  | group name p ih =>
      obtain ⟨e, hp, rfl⟩ := h
      exact (ih hp :)

/-- What can be matched can be traversed, from any trace. -/
lemma Matches.traverses {p : Pattern} {i j : Nat} (h : p.Matches text i j) (trace : Trace) :
    ∃ trace', p.Traverses tracked text ⟨i, trace⟩ ⟨j, trace'⟩ := by
  induction p generalizing i j trace with
  | empty =>
      obtain rfl : i = j := h
      exact ⟨trace, rfl⟩
  | char set =>
      obtain ⟨rfl, hread⟩ := h
      exact ⟨trace, hread, rfl⟩
  | look assertion =>
      obtain ⟨rfl, hholds⟩ := h
      exact ⟨trace, rfl, hholds⟩
  | cat p q ihp ihq =>
      obtain ⟨k, hp, hq⟩ := h
      obtain ⟨trace₁, hp⟩ := ihp hp trace
      obtain ⟨trace₂, hq⟩ := ihq hq trace₁
      exact ⟨trace₂, ⟨k, trace₁⟩, hp, hq⟩
  | alt p q ihp ihq =>
      rcases h with hp | hq
      · obtain ⟨trace', hp⟩ := ihp hp trace
        exact ⟨trace', Or.inl hp⟩
      · obtain ⟨trace', hq⟩ := ihq hq trace
        exact ⟨trace', Or.inr hq⟩
  | rep p least extra greedy ih =>
      obtain ⟨n, hleast, hextra, hrep⟩ := h
      obtain ⟨⟨_, trace'⟩, hsteps, rfl⟩ := hrep.lift (c := ⟨i, trace⟩) Cursor.pos fun c k hp => by
        obtain ⟨trace', hp⟩ := ih hp c.trace
        exact ⟨⟨k, trace'⟩, hp, rfl⟩
      exact ⟨trace', n, hleast, hextra, hsteps⟩
  | group name p ih =>
      obtain ⟨trace', hp⟩ := ih h (Cursor.enter (name == some tracked) ⟨i, trace⟩).trace
      exact ⟨_, ⟨j, trace'⟩, hp, rfl⟩

/-- **Where code leads.**  The end of the program can be reached through the code of a pattern
exactly if the pattern has a match after which it can be reached from the position after the
code. -/
theorem finishes_code_iff {p : Pattern} {start i : Nat}
    (h : CodeAt program start (p.code tracked start)) :
    Finishes program text start i ↔
      ∃ j, p.Matches text i j ∧ Finishes program text (start + p.codeSize) j := by
  have hleads : Leads program text (p.Traverses tracked text) start (start + p.codeSize) :=
    leads_code h
  constructor
  · rintro ⟨n, hn⟩
    obtain ⟨u, hend, hrun⟩ := (finishesIn_iff_runs ⟨i, none⟩).1 hn
    obtain ⟨d, m, -, htraverses, hrest⟩ := hleads.sound n ⟨i, ⟨i, none⟩⟩ u hend hrun
    exact ⟨d.pos, htraverses.matches, m, (finishesIn_iff_runs d.trace).2 ⟨u, hend, hrest⟩⟩
  · rintro ⟨j, hmatch, n, hn⟩
    obtain ⟨trace, htraverses⟩ := @Matches.traverses _ tracked _ _ _ hmatch ⟨i, none⟩
    obtain ⟨m, hcode⟩ := hleads.complete _ _ htraverses
    obtain ⟨u, hend, hrest⟩ := (finishesIn_iff_runs trace).1 hn
    exact ⟨m + n, (finishesIn_iff_runs ⟨i, none⟩).2 ⟨u, hend, repeats_add.2 ⟨_, hcode, hrest⟩⟩⟩

/-- **The program of a pattern** comes to its end from a start exactly if the pattern has a match
there. -/
theorem finishes_iff {p : Pattern} {i : Nat} :
    Finishes (p.program tracked) text 0 i ↔ ∃ j, p.Matches text i j := by
  have hcode : CodeAt (p.program tracked) 0 (p.code tracked 0) := CodeAt.toArray _
  rw [finishes_code_iff hcode, Nat.zero_add, ← size_program tracked p]
  simp only [finishes_end, and_true]

end Pattern

end VersionBump
