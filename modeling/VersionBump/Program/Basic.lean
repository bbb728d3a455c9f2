import VersionBump.Pattern.Basic

/-!
# Programs

To search a text, a pattern is laid out as a program: a list of instructions, each at a position.
The code of a pattern starts at some position and falls through to the position after its last
instruction once the pattern has matched; a run that falls off the end of the whole program has
found a match.

* `Pattern.codeSize`: the number of instructions of a pattern.
* `Pattern.code`: its instructions, given the position of the first.

The layout of repetitions decides what is preferred where loops lie inside each other, because the
search comes to each instruction at most once at each position:

* `x*` is one fork, before the body, to which the body returns, if `x` always reads a character;
* otherwise `x*` is `(x+)?`, with a fork before the body and another one after it;
* `x{2,4}` is `xx(x(x)?)?`, and `x{2,}` is `xx+`.
-/

namespace VersionBump

/-- An instruction.  All but `fork` and `jump` go on with the next position. -/
inductive Inst where
  /-- Read one character of a set. -/
  | read (set : CharSet)
  /-- Go on only where an assertion holds. -/
  | check (assertion : Assertion)
  /-- Go on at either position; the first is tried first. -/
  | fork (preferred other : Nat)
  /-- Go on at another position. -/
  | jump (target : Nat)
  /-- A group starts; its place is kept if `tracked`. -/
  | enter (tracked : Bool)
  /-- A group ends. -/
  | leave (tracked : Bool)

/-- A program: the instruction at position `k` is the `k`-th. -/
abbrev Program := Array Inst

namespace Inst

/-- Go on at `inner`, where one more repetition starts, or at `outer`, after the repetitions. -/
def again (greedy : Bool) (inner outer : Nat) : Inst :=
  if greedy then .fork inner outer else .fork outer inner

/-- `n` copies of the code of a pattern with `size` instructions, the first at `start`. -/
def copies (code : Nat → List Inst) (size : Nat) : Nat → Nat → List Inst
  | 0, _ => []
  | n + 1, start => code start ++ copies code size n (start + size)

/-- Up to `n` repetitions, each inside the one before, from `start` on; `exit` is the position
after all of them. -/
def optional (code : Nat → List Inst) (size : Nat) (greedy : Bool) (exit : Nat) :
    Nat → Nat → List Inst
  | 0, _ => []
  | n + 1, start =>
    again greedy (start + 1) exit ::
      (code (start + 1) ++ optional code size greedy exit n (start + 1 + size))

theorem length_copies {code : Nat → List Inst} {size : Nat} (h : ∀ k, (code k).length = size)
    (n start : Nat) : (copies code size n start).length = n * size := by
  induction n generalizing start with
  | zero => simp [copies]
  | succ n ih => simp [copies, h, ih, Nat.succ_mul, Nat.add_comm]

theorem length_optional {code : Nat → List Inst} {size : Nat} (h : ∀ k, (code k).length = size)
    (greedy : Bool) (exit n start : Nat) :
    (optional code size greedy exit n start).length = n * (size + 1) := by
  induction n generalizing start with
  | zero => simp [optional]
  | succ n ih =>
    simp only [optional, List.length_cons, List.length_append, h, ih, Nat.succ_mul]
    omega

end Inst

namespace Pattern

/-- The number of instructions of a pattern. -/
def codeSize : Pattern → Nat
  | .empty => 0
  | .char _ => 1
  | .look _ => 1
  | .cat p q => p.codeSize + q.codeSize
  | .alt p q => p.codeSize + q.codeSize + 2
  | .rep p least (some extra) _ => least * p.codeSize + extra * (p.codeSize + 1)
  | .rep p 0 none _ => p.codeSize + 2
  | .rep p (least + 1) none _ => (least + 1) * p.codeSize + 1
  | .group _ p => p.codeSize + 2

/-- **The code of a pattern** whose first instruction stands at `start`.  Only groups with the
name `tracked` are tracked. -/
def code (tracked : String) : Pattern → Nat → List Inst
  | .empty, _ => []
  | .char set, _ => [.read set]
  | .look a, _ => [.check a]
  | .cat p q, start => p.code tracked start ++ q.code tracked (start + p.codeSize)
  | .alt p q, start =>
    let second := start + p.codeSize + 2
    .fork (start + 1) second ::
      (p.code tracked (start + 1) ++ .jump (second + q.codeSize) :: q.code tracked second)
  | .rep p least (some extra) greedy, start =>
    let options := start + least * p.codeSize
    Inst.copies (p.code tracked) p.codeSize least start ++
      Inst.optional (p.code tracked) p.codeSize greedy
        (options + extra * (p.codeSize + 1)) extra options
  | .rep p 0 none greedy, start =>
    let exit := start + p.codeSize + 2
    Inst.again greedy (start + 1) exit ::
      (p.code tracked (start + 1) ++
        [if p.consumes then .jump start else Inst.again greedy (start + 1) exit])
  | .rep p (least + 1) none greedy, start =>
    let last := start + least * p.codeSize
    Inst.copies (p.code tracked) p.codeSize (least + 1) start ++
      [Inst.again greedy last (last + p.codeSize + 1)]
  | .group name p, start =>
    .enter (name == some tracked) ::
      (p.code tracked (start + 1) ++ [.leave (name == some tracked)])

/-- **The size is right.**  The code of a pattern has as many instructions as `codeSize` says, so
it falls through to the position `start + p.codeSize`. -/
theorem length_code (tracked : String) (p : Pattern) (start : Nat) :
    (p.code tracked start).length = p.codeSize := by
  fun_induction codeSize p generalizing start with
  | case1 => rfl
  | case2 => rfl
  | case3 => rfl
  | case4 p q ihp ihq => simp [code, ihp, ihq]
  | case5 p q ihp ihq =>
    simp only [code, List.length_cons, List.length_append, ihp, ihq]
    omega
  | case6 p least extra greedy ih =>
    simp [code, Inst.length_copies ih, Inst.length_optional ih]
  | case7 p greedy ih => simp [code, ih]
  | case8 p least greedy ih => simp [code, Inst.length_copies ih]
  | case9 name p ih => simp [code, ih]

/-- The program that searches for a pattern and tracks the groups with the name `tracked`. -/
def program (tracked : String) (p : Pattern) : Program :=
  (p.code tracked 0).toArray

end Pattern

end VersionBump
