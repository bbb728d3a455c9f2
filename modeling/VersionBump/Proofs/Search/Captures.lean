import VersionBump.Proofs.Pattern.GroupNames
import VersionBump.Proofs.Search.Code

/-!
# Where a group stands in a match

`Pattern.Matches` says where a pattern can match and forgets its groups.  `Pattern.Captures` says
also where a group stands after the match, by its name and without the means of the search: the
group stands where its body was matched last, and nowhere if it took no part.

* `Pattern.Traverses.captures`: what the code of a pattern traces is what the pattern captures, if
  no two groups have the same name.  A group inside another one of its name would move the place
  where the outer one was entered.
* **`Pattern.Captures.bounds`**: whatever was repeated, skipped or entered again on the way, the
  group stands inside the match.
-/

namespace VersionBump

/-- How far a match has come: the position, and where the tracked group stands, if it took part. -/
structure Stage where
  pos : Nat
  group : Option Span

/-- What a cursor says about the match. -/
def Cursor.stage (c : Cursor) : Stage := ⟨c.pos, c.trace.span⟩

/-! ## Stages -/

/-- A span lies between two positions. -/
def Span.Within (span : Span) (i j : Nat) : Prop :=
  i ≤ span.start ∧ span.start ≤ span.stop ∧ span.stop ≤ j

/-- **Going on.**  A later stage is further on in the text, and the group stands where it stood or
somewhere in between. -/
def Stage.Extends (a b : Stage) : Prop :=
  a.pos ≤ b.pos ∧ (b.group = a.group ∨ ∃ span, b.group = some span ∧ span.Within a.pos b.pos)

lemma Stage.Extends.refl (a : Stage) : a.Extends a := ⟨Nat.le_refl a.pos, Or.inl rfl⟩

lemma Stage.Extends.trans {a b c : Stage} (h : a.Extends b) (h' : b.Extends c) : a.Extends c := by
  obtain ⟨hab, hfirst⟩ := h
  obtain ⟨hbc, hsecond⟩ := h'
  refine ⟨Nat.le_trans hab hbc, ?_⟩
  rcases hsecond with hsame | ⟨span, hspan, hstart, horder, hstop⟩
  · rw [hsame]
    rcases hfirst with hsame | ⟨span, hspan, hstart, horder, hstop⟩
    · exact Or.inl hsame
    · exact Or.inr ⟨span, hspan, hstart, horder, Nat.le_trans hstop hbc⟩
  · exact Or.inr ⟨span, hspan, Nat.le_trans hab hstart, horder, hstop⟩

@[simp]
lemma Cursor.stage_enter (tracked : Bool) (c : Cursor) : (c.enter tracked).stage = c.stage := by
  cases tracked <;> rfl

namespace Pattern

variable {tracked : String} {text : Array Char} {p : Pattern}

/-- **Matching with a group.**  Whether a pattern can match from one stage to another.  A group with
the name `tracked` stands where its body was matched. -/
def Captures (tracked : String) (text : Array Char) : Pattern → Stage → Stage → Prop
  | .empty, a, b => a = b
  | .char set, a, b =>
    (∃ x, text[a.pos]? = some x ∧ set.contains x = true) ∧ b = ⟨a.pos + 1, a.group⟩
  | .look assertion, a, b => a = b ∧ assertion.holds text a.pos = true
  | .cat p q, a, b => ∃ c, p.Captures tracked text a c ∧ q.Captures tracked text c b
  | .alt p q, a, b => p.Captures tracked text a b ∨ q.Captures tracked text a b
  | .rep p least extra _, a, b =>
    ∃ n, least ≤ n ∧ (∀ m, extra = some m → n ≤ least + m) ∧
      Repeats (p.Captures tracked text) n a b
  | .group name p, a, b =>
    ∃ inner, p.Captures tracked text a ⟨b.pos, inner⟩ ∧
      b.group = if name = some tracked then some ⟨a.pos, b.pos⟩ else inner

/-! ## The trace -/

/-- A pattern without the tracked group leaves the trace as it is. -/
lemma Traverses.trace_eq {c d : Cursor} (h : p.Traverses tracked text c d)
    (hname : tracked ∉ p.groupNames) : d.trace = c.trace := by
  induction p generalizing c d with
  | empty => exact congrArg Cursor.trace (Eq.symm h)
  | char set =>
      obtain ⟨-, rfl⟩ := h
      rfl
  | look assertion =>
      obtain ⟨rfl, -⟩ := h
      rfl
  | cat p q ihp ihq =>
      obtain ⟨e, hp, hq⟩ := h
      simp only [groupNames, List.mem_append, not_or] at hname
      exact (ihq hq hname.2).trans (ihp hp hname.1)
  | alt p q ihp ihq =>
      simp only [groupNames, List.mem_append, not_or] at hname
      rcases h with hp | hq
      · exact ihp hp hname.1
      · exact ihq hq hname.2
  | rep p least extra greedy ih =>
      obtain ⟨n, -, -, hrep⟩ := h
      exact @Repeats.invariant _ _ c d (fun e => e.trace = c.trace)
        (fun e f hstep he => (ih hstep hname).trans he) n hrep rfl
  | group name p ih =>
      obtain ⟨e, hbody, rfl⟩ := h
      simp only [groupNames, List.mem_append, Option.mem_toList, not_or] at hname
      have hother : (name == some tracked) = false := by simpa using hname.1
      rw [hother] at hbody ⊢
      exact ih hbody hname.2

/-- **The trace is what the pattern captures.**  Inside the tracked group nothing changes the trace,
so when the group ends it is still known where it was entered. -/
lemma Traverses.captures {c d : Cursor} (h : p.Traverses tracked text c d)
    (hnames : p.groupNames.Nodup) : p.Captures tracked text c.stage d.stage := by
  induction p generalizing c d with
  | empty => exact congrArg Cursor.stage h
  | char set =>
      obtain ⟨hread, rfl⟩ := h
      exact ⟨hread, rfl⟩
  | look assertion =>
      obtain ⟨rfl, hholds⟩ := h
      exact ⟨rfl, hholds⟩
  | cat p q ihp ihq =>
      obtain ⟨e, hp, hq⟩ := h
      have hparts := List.nodup_append.1 hnames
      exact ⟨e.stage, ihp hp hparts.1, ihq hq hparts.2.1⟩
  | alt p q ihp ihq =>
      have hparts := List.nodup_append.1 hnames
      rcases h with hp | hq
      · exact Or.inl (ihp hp hparts.1)
      · exact Or.inr (ihq hq hparts.2.1)
  | rep p least extra greedy ih =>
      obtain ⟨n, hleast, hextra, hrep⟩ := h
      exact ⟨n, hleast, hextra, hrep.map Cursor.stage fun _ _ hstep => ih hstep hnames⟩
  | group name p ih =>
      obtain ⟨e, hbody, rfl⟩ := h
      have hparts := List.nodup_append.1 hnames
      have hinner := ih hbody hparts.2.1
      rw [Cursor.stage_enter] at hinner
      refine ⟨e.trace.span, hinner, ?_⟩
      by_cases htracked : name = some tracked
      · have hfree : tracked ∉ p.groupNames := fun hmem =>
          hparts.2.2 tracked (by simp [htracked]) tracked hmem rfl
        have hentered : e.trace.entered = c.pos := by
          rw [hbody.trace_eq hfree]
          simp [htracked, Cursor.enter]
        simp [htracked, Cursor.stage, Cursor.leave, hentered]
      · simp [htracked, Cursor.stage, Cursor.leave]

/-! ## Bounds -/

/-- **A match goes forward** and stays in the text. -/
lemma Matches.bounds {i j : Nat} (h : p.Matches text i j) :
    i ≤ j ∧ (i ≤ text.size → j ≤ text.size) := by
  induction p generalizing i j with
  | empty =>
      obtain rfl : i = j := h
      exact ⟨Nat.le_refl i, id⟩
  | char set =>
      obtain ⟨rfl, x, hx, -⟩ := h
      obtain ⟨hlt, -⟩ := Array.getElem?_eq_some_iff.1 hx
      exact ⟨Nat.le_succ i, fun _ => hlt⟩
  | look assertion =>
      obtain ⟨rfl, -⟩ := h
      exact ⟨Nat.le_refl i, id⟩
  | cat p q ihp ihq =>
      obtain ⟨k, hp, hq⟩ := h
      obtain ⟨hik, hk⟩ := ihp hp
      obtain ⟨hkj, hj⟩ := ihq hq
      exact ⟨Nat.le_trans hik hkj, hj ∘ hk⟩
  | alt p q ihp ihq =>
      rcases h with hp | hq
      · exact ihp hp
      · exact ihq hq
  | rep p least extra greedy ih =>
      obtain ⟨n, -, -, hrep⟩ := h
      refine @Repeats.invariant _ _ i j (fun k => i ≤ k ∧ (i ≤ text.size → k ≤ text.size))
        (fun k l hstep hk => ?_) n hrep ⟨Nat.le_refl i, id⟩
      obtain ⟨hkl, hl⟩ := ih hstep
      exact ⟨Nat.le_trans hk.1 hkl, hl ∘ hk.2⟩
  | group name p ih => exact ih h

/-- **The group stands inside the match**, or where it stood before. -/
lemma Captures.bounds {a b : Stage} (h : p.Captures tracked text a b) : a.Extends b := by
  induction p generalizing a b with
  | empty =>
      obtain rfl : a = b := h
      exact Stage.Extends.refl a
  | char set =>
      obtain ⟨-, rfl⟩ := h
      exact ⟨Nat.le_succ a.pos, Or.inl rfl⟩
  | look assertion =>
      obtain ⟨rfl, -⟩ := h
      exact Stage.Extends.refl a
  | cat p q ihp ihq =>
      obtain ⟨c, hp, hq⟩ := h
      exact (ihp hp).trans (ihq hq)
  | alt p q ihp ihq =>
      rcases h with hp | hq
      · exact ihp hp
      · exact ihq hq
  | rep p least extra greedy ih =>
      obtain ⟨n, -, -, hrep⟩ := h
      exact hrep.invariant (fun _ _ hstep hextends => hextends.trans (ih hstep))
        (Stage.Extends.refl a)
  | group name p ih =>
      obtain ⟨inner, hbody, hgroup⟩ := h
      obtain ⟨hle, hinner⟩ := ih hbody
      refine ⟨hle, ?_⟩
      rw [hgroup]
      split_ifs
      · exact Or.inr ⟨_, rfl, Nat.le_refl _, hle, Nat.le_refl _⟩
      · exact hinner

end Pattern

end VersionBump
