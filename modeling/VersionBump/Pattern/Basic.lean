import VersionBump.Pattern.Assertion

/-!
# Patterns

A pattern describes the places of a text where a version stands.  This file has the patterns
themselves, free of the ways to write them: letter case, line modes and the like are already
expressed by sets of characters and assertions.

Patterns are put together by `sequence`, `alternation` and `repetition`, which keep them in a
canonical form: sequences and alternatives lean to the right, empty parts of a sequence are dropped,
and alternatives that begin with the same elements share these.
-/

namespace VersionBump

/-- A pattern. -/
inductive Pattern where
  /-- The empty text. -/
  | empty
  /-- One character of a set. -/
  | char (set : CharSet)
  /-- The empty text, where an assertion holds. -/
  | look (assertion : Assertion)
  /-- One pattern after another. -/
  | cat (first second : Pattern)
  /-- One of two patterns; the first is preferred. -/
  | alt (first second : Pattern)
  /-- At least `least` repetitions and at most `extra` more (any number, without `extra`).  More
  are preferred if `greedy`, else fewer. -/
  | rep (body : Pattern) (least : Nat) (extra : Option Nat) (greedy : Bool)
  /-- A group, perhaps with a name by which its place can be asked for. -/
  | group (name : Option String) (body : Pattern)
deriving DecidableEq

namespace Pattern

/-- The pattern that matches nowhere. -/
def never : Pattern := .char .empty

/-! ## Sequences -/

/-- The parts of a sequence. -/
def items : Pattern → List Pattern
  | .empty => []
  | .cat p q => p.items ++ q.items
  | p => [p]

/-- The sequence of the given parts. -/
def ofItems : List Pattern → Pattern
  | [] => .empty
  | [p] => p
  | p :: ps => .cat p (ofItems ps)

/-- Patterns one after another, in canonical form. -/
def sequence (ps : List Pattern) : Pattern :=
  ofItems (ps.flatMap items)

/-! ## Alternatives -/

/-- The alternatives of a pattern, in order of preference. -/
def branches : Pattern → List Pattern
  | .alt p q => p.branches ++ q.branches
  | p => [p]

/-- The choice between the given alternatives. -/
def ofBranches : List Pattern → Pattern
  | [] => never
  | [p] => p
  | p :: ps => .alt p (ofBranches ps)

/-- The set of a pattern that reads one character. -/
def charSet? : Pattern → Option CharSet
  | .char set => some set
  | _ => none

/-- Alternatives that are one character each, or a class of characters each, are one set. -/
def choice (ps : List Pattern) : Pattern :=
  match ps.mapM charSet? with
  | some sets =>
    if sets.all CharSet.isSingleton || sets.all (!·.isSingleton) then .char (.unions sets)
    else ofBranches ps
  | none => ofBranches ps

/-- Whether a pattern has a group in it. -/
def hasGroup : Pattern → Bool
  | .cat p q | .alt p q => p.hasGroup || q.hasGroup
  | .rep p _ _ _ => p.hasGroup
  | .group _ _ => true
  | _ => false

/-- Whether a pattern is a literal character. -/
def isLiteral : Pattern → Bool
  | .char set => set.isSingleton
  | _ => false

/-- **The elements of a sequence**: its parts, where literal characters in a row are one element. -/
def elements (p : Pattern) : List (List Pattern) :=
  p.items.splitBy fun first second => first.isLiteral && second.isLiteral

/-- The elements with which two sequences both begin.  Groups are not shared: each is a place of its
own. -/
def sharedStart : List (List Pattern) → List (List Pattern) → List (List Pattern)
  | p :: ps, q :: qs => if p = q ∧ ∀ r ∈ p, r.hasGroup = false then p :: sharedStart ps qs else []
  | _, _ => []

/-- The elements with which all the sequences begin. -/
def sharedStarts : List (List (List Pattern)) → List (List Pattern)
  | [] => []
  | ps :: rest => rest.foldl sharedStart ps

/-- **Alternatives in canonical form.**  If each of several alternatives has several elements and
all begin with the same ones, these come first and the choice is between what follows them.  Equal
sets of characters are the same element, even if only one was written without the flag `u`. -/
def alternation (ps : List Pattern) : Pattern :=
  let ps := ps.flatMap branches
  let shared :=
    if 1 < ps.length ∧ ∀ p ∈ ps, 1 < p.elements.length then sharedStarts (ps.map elements) else []
  if shared.isEmpty then choice ps
  else
    let rests := ps.map fun p => ofItems (p.elements.drop shared.length).flatten
    sequence (shared.flatten ++ [choice (rests.flatMap branches)])

/-! ## Repetitions -/

/-- Whether a pattern can match nothing but the empty text. -/
def emptyOnly : Pattern → Bool
  | .empty | .look _ => true
  | .char _ => false
  | .cat p q | .alt p q => p.emptyOnly && q.emptyOnly
  | .rep p _ extra _ => p.emptyOnly && extra.isSome
  | .group _ p => p.emptyOnly

/-- **Repetitions in canonical form.**  To repeat what can only be empty adds nothing after the
first time; no repetition at all is the empty pattern, and exactly one is the pattern itself. -/
def repetition (p : Pattern) (least : Nat) (extra : Option Nat) (greedy : Bool) : Pattern :=
  if p.emptyOnly ∧ 0 < least then p
  else
    match least, if p.emptyOnly then some (min (extra.getD 1) 1) else extra with
    | 0, some 0 => .empty
    | 1, some 0 => p
    | _, extra => .rep p least extra greedy

/-- The length of the shortest text that a pattern could match, by its form alone: assertions are
taken to hold.  There is none if a part of the pattern reads a character of the empty set. -/
def minLength : Pattern → Option Nat
  | .empty | .look _ => some 0
  | .char set => if set = .empty then none else some 1
  | .cat p q =>
    match p.minLength, q.minLength with
    | some m, some n => some (m + n)
    | _, _ => none
  | .alt p q =>
    match p.minLength, q.minLength with
    | some m, some n => some (min m n)
    | _, _ => none
  | .rep p least _ _ => p.minLength.map (least * ·)
  | .group _ p => p.minLength

/-- Whether every match of a pattern is known to read a character. -/
def consumes (p : Pattern) : Bool :=
  p.minLength.any (0 < ·)

end Pattern

end VersionBump
