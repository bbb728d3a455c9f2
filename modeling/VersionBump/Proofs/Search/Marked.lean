import VersionBump.Proofs.Pattern.CanonicalForm
import VersionBump.Proofs.Search.Code
import VersionBump.Proofs.Search.Exploration
import VersionBump.Proofs.Text.Marked
import VersionBump.Target

/-!
# Finding the first marked part

The pattern `Pattern.between opening closing` finds the first marked part of a text, in the sense of
`Text.FirstMarked`.  Two things are shown about it.

* What it can match: `matches_between`, from which it follows where it has no match at all.
* What it prefers: the program is laid out instruction by instruction (`code_between`), and the run
  that takes the fewest characters between the marks is followed through it.  On the way it passes
  the exit of the loop once for each character, and leaves there only where the closing mark stands.

Together with the facts about the search this gives `search_between_eq_some` and
`search_between_eq_none`.
-/

namespace VersionBump

open Text

namespace Pattern

/-- The dot reads all but the line break. -/
lemma contains_dotSet {c : Char} : (dotSet {}).contains c = true ↔ c ≠ '\n' := by
  change (CharSet.singleton '\n').complement.contains c = true ↔ c ≠ '\n'
  rw [CharSet.contains_complement, Bool.not_eq_true', Bool.eq_false_iff, ne_eq,
    CharSet.contains_singleton]

/-! ## Sequences of parts -/

lemma code_ofItems_cons (tracked : String) (p : Pattern) (ps : List Pattern) (start : Nat) :
    (ofItems (p :: ps)).code tracked start
      = p.code tracked start ++ (ofItems ps).code tracked (start + p.codeSize) := by
  cases ps with
  | nil => simp [ofItems, code]
  | cons q ps => rfl

/-- The instructions that read a word. -/
def reads (word : String) : List Inst :=
  word.toList.map fun c => .read (.singleton c)

lemma code_literal_append (tracked : String) (word : String) (ps : List Pattern) (start : Nat) :
    (ofItems (literal word ++ ps)).code tracked start
      = reads word ++ (ofItems ps).code tracked (start + word.toList.length) := by
  simp only [literal, reads]
  induction word.toList generalizing start with
  | nil => rfl
  | cons c cs ih =>
      simp only [List.map_cons, List.cons_append, List.length_cons]
      rw [code_ofItems_cons, ih]
      simp only [code, codeSize, List.singleton_append, Nat.add_assoc, Nat.add_comm 1]

lemma code_literal (tracked : String) (word : String) (start : Nat) :
    (ofItems (literal word)).code tracked start = reads word := by
  have h := code_literal_append tracked word [] start
  rwa [List.append_nil, ofItems, code, List.append_nil] at h

/-- A literal has no parts of its own. -/
lemma flatMap_items_literal (word : String) : (literal word).flatMap items = literal word := by
  simp only [literal]
  induction word.toList with
  | nil => rfl
  | cons c cs ih => rw [List.map_cons, List.flatMap_cons, ih]; rfl

/-- The pattern is in canonical form as written. -/
lemma between_eq_ofItems (opening closing : String) :
    between opening closing = ofItems (literal opening ++
      .group (some markerGroup) (.rep (.char (dotSet {})) 0 none false) :: literal closing) := by
  rw [between, sequence, List.flatMap_append, List.flatMap_cons, flatMap_items_literal,
    flatMap_items_literal]
  rfl

/-! ## What the pattern can match -/

/-- A literal matches where its word stands. -/
lemma matchInTurn_literal {text : List Char} {word : String} {i j : Nat} :
    MatchInTurn text.toArray (literal word) i j ↔
      OccursAt word.toList text i ∧ j = i + word.toList.length := by
  simp only [literal]
  induction word.toList generalizing i with
  | nil => simp [MatchInTurn, OccursAt, eq_comm]
  | cons c cs ih =>
      rw [List.map_cons, occursAt_cons, List.length_cons,
        show i + (cs.length + 1) = i + 1 + cs.length by omega]
      simp only [MatchInTurn, Matches, List.getElem?_toArray, CharSet.contains_singleton, ih]
      constructor
      · rintro ⟨k, ⟨rfl, d, hd, rfl⟩, hword, hj⟩
        exact ⟨⟨hd, hword⟩, hj⟩
      · rintro ⟨⟨hc, hword⟩, hj⟩
        exact ⟨i + 1, ⟨rfl, c, hc, rfl⟩, hword, hj⟩

lemma matches_dot {text : List Char} {i j : Nat} :
    (char (dotSet {})).Matches text.toArray i j ↔
      j = i + 1 ∧ ∃ c, text[i]? = some c ∧ c ≠ '\n' := by
  simp only [Matches, List.getElem?_toArray, contains_dotSet]

/-- Dots read what is not broken into lines. -/
lemma repeats_dot {text : List Char} {n i j : Nat} :
    Repeats ((char (dotSet {})).Matches text.toArray) n i j ↔ Unbroken text i n ∧ j = i + n := by
  induction n generalizing i with
  | zero => simp [Repeats, Unbroken, eq_comm]
  | succ n ih =>
      simp only [Repeats, ih, matches_dot]
      constructor
      · rintro ⟨k, ⟨rfl, hfirst⟩, hrest, rfl⟩
        refine ⟨fun k hk => ?_, by omega⟩
        cases k with
        | zero => exact hfirst
        | succ k =>
            rw [Nat.add_comm k, ← Nat.add_assoc]
            exact hrest k (by omega)
      · rintro ⟨hunbroken, rfl⟩
        refine ⟨i + 1, ⟨rfl, hunbroken 0 (by omega)⟩, fun k hk => ?_, by omega⟩
        rw [Nat.add_assoc, Nat.add_comm 1]
        exact hunbroken (k + 1) (by omega)

/-- The part between the marks. -/
lemma matches_middle {text : List Char} {name : Option String} {i j : Nat} :
    (group name (.rep (.char (dotSet {})) 0 none false)).Matches text.toArray i j ↔
      ∃ n, Unbroken text i n ∧ j = i + n := by
  constructor
  · rintro ⟨n, -, -, hrep⟩
    exact ⟨n, repeats_dot.1 hrep⟩
  · rintro ⟨n, h⟩
    exact ⟨n, Nat.zero_le n, by simp, repeats_dot.2 h⟩

/-- **Possible matches.**  The pattern can match exactly a marked part with its marks. -/
lemma matches_between {text : List Char} {opening closing : String} {i j : Nat} :
    (between opening closing).Matches text.toArray i j ↔
      ∃ n, MarkedAt opening.toList closing.toList text i n ∧
        j = i + opening.toList.length + n + closing.toList.length := by
  rw [between, matches_sequence, matchInTurn_append]
  simp only [MatchInTurn, matches_middle, matchInTurn_literal]
  constructor
  · rintro ⟨_, ⟨hopens, rfl⟩, _, ⟨n, hunbroken, rfl⟩, hcloses, rfl⟩
    exact ⟨n, ⟨hopens, hunbroken, hcloses⟩, rfl⟩
  · rintro ⟨n, h, rfl⟩
    exact ⟨_, ⟨h.opens, rfl⟩, _, ⟨n, h.unbroken, rfl⟩, h.closes, rfl⟩

/-- **No match** where nothing is marked. -/
theorem search_between_eq_none {text : List Char} {opening closing : String}
    (h : ∀ i n, ¬ MarkedAt opening.toList closing.toList text i n) :
    (between opening closing).search markerGroup text.toArray = none := by
  apply search_eq_none
  intro i _
  rw [finishes_iff]
  rintro ⟨j, hmatch⟩
  obtain ⟨n, hmarked, -⟩ := matches_between.1 hmatch
  exact h i n hmarked

end Pattern

/-! ## Preferred runs, instruction by instruction -/

/-- A thread ends as another one by a preferred run. -/
def Prefers (program : Program) (text : Array Char) (t u : Thread) : Prop :=
  ∃ n, PreferredRun program text n t u

namespace Prefers

variable {program : Program} {text : List Char} {inst pos : Nat} {trace : Trace} {u : Thread}

lemma of_next {text : Array Char} {t next : Thread} (hnext : t.next program text = [next])
    (h : Prefers program text next u) : Prefers program text t u := by
  obtain ⟨n, hrun⟩ := h
  rw [← List.nil_append [next]] at hnext
  exact ⟨n + 1, .step hnext (by simp) hrun⟩

/-- The preferred branch of a fork. -/
lemma of_fork {text : Array Char} {a b : Nat} (hi : program[inst]? = some (.fork a b))
    (h : Prefers program text ⟨a, pos, trace⟩ u) : Prefers program text ⟨inst, pos, trace⟩ u := by
  obtain ⟨n, hrun⟩ := h
  have hnext : Thread.next program text ⟨inst, pos, trace⟩
      = [] ++ ⟨a, pos, trace⟩ :: [⟨b, pos, trace⟩] := by
    simp [Thread.next, hi]
  exact ⟨n + 1, .step hnext (by simp) hrun⟩

/-- The other branch, where the preferred one leads nowhere. -/
lemma of_fork_other {text : Array Char} {a b : Nat} (hi : program[inst]? = some (.fork a b))
    (hbarren : ¬ Finishes program text a pos)
    (h : Prefers program text ⟨b, pos, trace⟩ u) : Prefers program text ⟨inst, pos, trace⟩ u := by
  obtain ⟨n, hrun⟩ := h
  have hnext : Thread.next program text ⟨inst, pos, trace⟩
      = [⟨a, pos, trace⟩] ++ ⟨b, pos, trace⟩ :: [] := by
    simp [Thread.next, hi]
  exact ⟨n + 1, .step hnext (by simpa using hbarren) hrun⟩

lemma of_read {set : CharSet} {c : Char} (hi : program[inst]? = some (.read set))
    (hc : text[pos]? = some c) (hset : set.contains c = true)
    (h : Prefers program text.toArray ⟨inst + 1, pos + 1, trace⟩ u) :
    Prefers program text.toArray ⟨inst, pos, trace⟩ u :=
  h.of_next (by simp [Thread.next, hi, hc, hset])

/-- A word is read where it stands. -/
lemma of_word {word : List Char}
    (hcode : CodeAt program inst (word.map fun c => .read (.singleton c)))
    (hword : OccursAt word text pos)
    (h : Prefers program text.toArray ⟨inst + word.length, pos + word.length, trace⟩ u) :
    Prefers program text.toArray ⟨inst, pos, trace⟩ u := by
  induction word generalizing inst pos with
  | nil => exact h
  | cons c word ih =>
      obtain ⟨hc, hrest⟩ := occursAt_cons.1 hword
      refine of_read hcode.head hc (CharSet.contains_singleton.2 rfl) (ih hcode.tail hrest ?_)
      rw [List.length_cons, Nat.add_comm word.length, ← Nat.add_assoc, ← Nat.add_assoc] at h
      exact h

/-- **Lazy loops.**  Dots read on until the first position from which the exit leads on. -/
lemma of_dots {exit n : Nat} (hfork : program[inst]? = some (.fork exit (inst + 1)))
    (hread : program[inst + 1]? = some (.read (Pattern.dotSet {})))
    (hjump : program[inst + 2]? = some (.jump inst)) (hunbroken : Unbroken text pos n)
    (hbarren : ∀ k < n, ¬ Finishes program text.toArray exit (pos + k))
    (h : Prefers program text.toArray ⟨exit, pos + n, trace⟩ u) :
    Prefers program text.toArray ⟨inst, pos, trace⟩ u := by
  induction n generalizing pos with
  | zero => exact h.of_fork hfork
  | succ n ih =>
      obtain ⟨c, hc, hne⟩ := hunbroken 0 (by omega)
      have hback : Thread.next program text.toArray ⟨inst + 1 + 1, pos + 1, trace⟩
          = [⟨inst, pos + 1, trace⟩] := by
        simp [Thread.next, hjump]
      refine of_fork_other hfork (hbarren 0 (by omega))
        (of_read hread hc (Pattern.contains_dotSet.2 hne) (of_next hback (ih ?_ ?_ ?_)))
      · intro k hk
        rw [Nat.add_assoc, Nat.add_comm 1]
        exact hunbroken (k + 1) (by omega)
      · intro k hk
        rw [Nat.add_assoc, Nat.add_comm 1]
        exact hbarren (k + 1) (by omega)
      · rw [Nat.add_assoc, Nat.add_comm 1]
        exact h

end Prefers

namespace Pattern

/-- **The layout** of the pattern. -/
lemma code_between (opening closing : String) :
    (between opening closing).code markerGroup 0
      = reads opening ++
        .enter true :: .fork (opening.toList.length + 4) (opening.toList.length + 2) ::
          .read (dotSet {}) :: .jump (opening.toList.length + 1) :: .leave true ::
            reads closing := by
  have hconsumes : (char (dotSet {})).consumes = true := rfl
  rw [between_eq_ofItems, code_literal_append, code_ofItems_cons, code_literal]
  simp [code, codeSize, Inst.again, hconsumes]

/-- After the part, only the closing mark leads to the end. -/
lemma finishes_closing {program : Program} {text : List Char} {closing : String} {inst i : Nat}
    (hcode : CodeAt program inst (.leave true :: reads closing))
    (h : Finishes program text.toArray inst i) : OccursAt closing.toList text i := by
  have hclosing : CodeAt program (inst + 1)
      ((ofItems (literal closing)).code markerGroup (inst + 1)) := by
    rw [code_literal]
    exact hcode.tail
  obtain ⟨n, hn⟩ := h
  obtain ⟨u, hend, hrun⟩ := (finishesIn_iff_runs ⟨i, none⟩).1 hn
  obtain ⟨d, m, -, rfl, hrest⟩ := (Leads.leave hcode.head).sound n ⟨i, ⟨i, none⟩⟩ u hend hrun
  have hfin : Finishes program text.toArray (inst + 1) i :=
    ⟨m, (finishesIn_iff_runs _).2 ⟨u, hend, hrest⟩⟩
  obtain ⟨k, hmatch, -⟩ := (finishes_code_iff hclosing).1 hfin
  exact (matchInTurn_literal.1 (matches_ofItems.1 hmatch)).1

/-- The preferred run through the whole program. -/
lemma prefers_between {text : List Char} {opening closing : String} {start length : Nat}
    (h : FirstMarked opening.toList closing.toList text start length) (trace : Trace) :
    Prefers ((between opening closing).program markerGroup) text.toArray ⟨0, start, trace⟩
      ⟨((between opening closing).program markerGroup).size,
        start + opening.toList.length + length + closing.toList.length,
        ⟨start + opening.toList.length, some (markedSpan opening.toList start length)⟩⟩ := by
  have hcode := CodeAt.toArray ((between opening closing).code markerGroup 0)
  have hsize := size_program markerGroup (between opening closing)
  rw [← length_code markerGroup _ 0] at hsize
  rw [program] at hsize ⊢
  rw [code_between] at hcode hsize ⊢
  generalize List.toArray _ = program at hcode hsize ⊢
  have hrest := hcode.right (List.length_map _)
  rw [Nat.zero_add] at hrest
  have hloop := hrest.tail
  have hleave := hloop.tail.tail.tail
  set n := opening.toList.length
  set part := markedSpan opening.toList start length with hpart
  have henter : Thread.next program text.toArray ⟨n, start + n, trace⟩
      = [⟨n + 1, start + n, ⟨start + n, trace.span⟩⟩] := by
    simp [Thread.next, hrest.head]
  have hexit : Thread.next program text.toArray
      ⟨n + 4, start + n + length, ⟨start + n, trace.span⟩⟩
        = [⟨n + 5, start + n + length, ⟨start + n, some part⟩⟩] := by
    simp [Thread.next, hleave.head, hpart, markedSpan, n]
  have hend : program.size = n + 5 + closing.toList.length := by
    rw [hsize]
    simp [reads, n]
    omega
  -- from the end of the program back to its start
  have hdone : Prefers program text.toArray
      ⟨n + 5 + closing.toList.length, start + n + length + closing.toList.length,
        ⟨start + n, some part⟩⟩
      ⟨program.size, start + n + length + closing.toList.length, ⟨start + n, some part⟩⟩ := by
    rw [hend]
    exact ⟨0, .done hend.symm⟩
  have hclosing := (hdone.of_word hleave.tail h.closes).of_next hexit
  have hmiddle := hclosing.of_dots hloop.head hloop.tail.head hloop.tail.tail.head h.unbroken
    fun k hk hfin => h.shortest k hk (finishes_closing hleave hfin)
  refine Prefers.of_word hcode.left h.opens ?_
  rw [Nat.zero_add]
  exact hmiddle.of_next henter

/-- **The match** is the first marked part with its marks, and the part alone is tracked. -/
theorem search_between_eq_some {text : List Char} {opening closing : String} {start length : Nat}
    (hopening : opening.toList ≠ [])
    (h : FirstMarked opening.toList closing.toList text start length) :
    (between opening closing).search markerGroup text.toArray =
      some ⟨⟨start, start + opening.toList.length + length + closing.toList.length⟩,
        some (markedSpan opening.toList start length)⟩ := by
  obtain ⟨n, hrun⟩ := prefers_between h ⟨start, none⟩
  refine search_eq_some ?_ (fun i hi hfin => ?_) hrun
  · have hlength := h.opens.le_length hopening
    rw [List.size_toArray]
    omega
  · obtain ⟨j, hmatch⟩ := finishes_iff.1 hfin
    obtain ⟨n, hmarked, -⟩ := matches_between.1 hmatch
    exact h.earliest i hi n hmarked

end Pattern

end VersionBump
