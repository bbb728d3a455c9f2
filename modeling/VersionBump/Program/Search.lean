import VersionBump.Program.Basic

/-!
# Search

The search for the first match of a pattern.  It follows a program through the text, trying the
preferred branch of each fork first, and gives up a branch that comes to an instruction and a
position where the search has been before: from there it has found nothing, or is about to look.
The positions of the text are tried as starts in ascending order, and what has been visited from
one start is not visited again from a later one, so that the work is bounded by the number of
instructions times the number of positions.

* `Thread.next`: where a run can go on from one instruction.
* `explore`: the depth-first search from a stack of open branches.
* `Pattern.search`: the first match in a text.
-/

namespace VersionBump

/-- The part of a text from position `start` up to position `stop`. -/
structure Span where
  start : Nat
  stop : Nat
deriving DecidableEq

/-- What a run remembers of the tracked group: where it was last entered, and where it last
stood. -/
structure Trace where
  entered : Nat
  span : Option Span

/-- A run of a program: the instruction to execute and the position in the text. -/
structure Thread where
  inst : Nat
  pos : Nat
  trace : Trace

/-- A match: its span and, if the tracked group took part in it, the span of that group. -/
structure Match where
  span : Span
  group : Option Span

/-- **One step.**  The threads with which a thread can go on, in order of preference. -/
def Thread.next (program : Program) (text : Array Char) (t : Thread) : List Thread :=
  match program[t.inst]? with
  | none => []
  | some (.read set) =>
    match text[t.pos]? with
    | some c => if set.contains c then [⟨t.inst + 1, t.pos + 1, t.trace⟩] else []
    | none => []
  | some (.check a) => if a.holds text t.pos then [⟨t.inst + 1, t.pos, t.trace⟩] else []
  | some (.fork a b) => [⟨a, t.pos, t.trace⟩, ⟨b, t.pos, t.trace⟩]
  | some (.jump a) => [⟨a, t.pos, t.trace⟩]
  | some (.enter tracked) =>
    [⟨t.inst + 1, t.pos, if tracked then ⟨t.pos, t.trace.span⟩ else t.trace⟩]
  | some (.leave tracked) =>
    [⟨t.inst + 1, t.pos,
      if tracked then ⟨t.trace.entered, some ⟨t.trace.entered, t.pos⟩⟩ else t.trace⟩]

/-- A thread goes on with at most two threads. -/
theorem Thread.length_next_le (program : Program) (text : Array Char) (t : Thread) :
    (t.next program text).length ≤ 2 := by
  unfold Thread.next
  repeat' split
  all_goals simp

/-- **Depth-first search.**  Follows the threads of the stack, the first one first, until one has
run through the whole program.  `visited` has a cell for each instruction at each position. -/
def explore (program : Program) (text : Array Char) (stack : List Thread) (visited : Array Bool) :
    Option Thread × Array Bool :=
  match stack with
  | [] => (none, visited)
  | t :: rest =>
    if t.inst = program.size then (some t, visited)
    else
      let cell := t.pos * program.size + t.inst
      if h : cell < visited.size then
        if hv : visited[cell] = true then explore program text rest visited
        else explore program text (t.next program text ++ rest) (visited.set cell true)
      else explore program text rest visited
termination_by 2 * visited.count false + stack.length
decreasing_by
  · simp
  · have hf : visited[cell] = false := by simpa using hv
    have hpos : 0 < visited.count false := Array.count_pos_iff.2 (hf ▸ Array.getElem_mem h)
    have hnext := t.length_next_le program text
    rw [Array.count_set h]
    simp only [hf, beq_self_eq_true, if_true, List.length_append, List.length_cons]
    simp
    omega
  · simp

/-- The first match that starts at one of the given positions. -/
def searchFrom (program : Program) (text : Array Char) :
    List Nat → Array Bool → Option Match
  | [], _ => none
  | start :: starts, visited =>
    match explore program text [⟨0, start, ⟨start, none⟩⟩] visited with
    | (some t, _) => some ⟨⟨start, t.pos⟩, t.trace.span⟩
    | (none, visited) => searchFrom program text starts visited

/-- **The first match.**  The earliest start wins, and among the matches from there the one that
the pattern prefers. -/
def Pattern.search (tracked : String) (p : Pattern) (text : Array Char) : Option Match :=
  let program := p.program tracked
  searchFrom program text (List.range (text.size + 1))
    (Array.replicate (program.size * (text.size + 1)) false)

end VersionBump
