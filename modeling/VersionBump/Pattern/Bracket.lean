import VersionBump.Pattern.Escape

/-!
# Classes in brackets

A class in brackets lists characters, ranges, named classes and further classes, and may combine
such lists by intersection (`&&`), difference (`--`) and symmetric difference (`~~`), from left to
right.

Readers of parts that can be nested also give the depth of nesting, because patterns that nest too
deeply are refused: a class counts one, and so do a list of several parts and each operation.
-/

namespace VersionBump.Pattern

/-- A set of characters that was read, and how deeply its parts are nested. -/
structure NestedSet where
  set : CharSet
  depth : Nat

/-- The operations between the parts of a class. -/
inductive SetOp where
  | intersection
  | difference
  | symmetricDifference

/-- The set that an operation makes of two sets. -/
def SetOp.apply : SetOp → CharSet → CharSet → CharSet
  | .intersection, a, b => a.inter b
  | .difference, a, b => a.diff b
  | .symmetricDifference, a, b => a.symmDiff b

/-- The named classes of ASCII characters. -/
def asciiClass? (name : List Char) : Option CharSet :=
  let ranges := match String.ofList name with
    | "alnum" => [(0x30, 0x39), (0x41, 0x5A), (0x61, 0x7A)]
    | "alpha" => [(0x41, 0x5A), (0x61, 0x7A)]
    | "ascii" => [(0x00, 0x7F)]
    | "blank" => [(0x09, 0x09), (0x20, 0x20)]
    | "cntrl" => [(0x00, 0x1F), (0x7F, 0x7F)]
    | "digit" => [(0x30, 0x39)]
    | "graph" => [(0x21, 0x7E)]
    | "lower" => [(0x61, 0x7A)]
    | "print" => [(0x20, 0x7E)]
    | "punct" => [(0x21, 0x2F), (0x3A, 0x40), (0x5B, 0x60), (0x7B, 0x7E)]
    | "space" => [(0x09, 0x0D), (0x20, 0x20)]
    | "upper" => [(0x41, 0x5A)]
    | "word" => [(0x30, 0x39), (0x41, 0x5A), (0x5F, 0x5F), (0x61, 0x7A)]
    | "xdigit" => [(0x30, 0x39), (0x41, 0x46), (0x61, 0x66)]
    | _ => []
  if ranges.isEmpty then none else some (.ofRanges ranges)

/-- Reads a named class after its `[`: `:name:]`, or `:^name:]` for its negation.  Anything else
is no named class. -/
def readAsciiClass (cs : List Char) : Option (CharSet × Bool × List Char) :=
  match cs with
  | ':' :: cs =>
    let (negated, cs) := match cs with
      | '^' :: cs => (true, cs)
      | cs => (false, cs)
    match cs.dropWhile (· ≠ ':') with
    | ':' :: ']' :: rest => (asciiClass? (cs.takeWhile (· ≠ ':'))).map fun s => (s, negated, rest)
    | _ => none
  | _ => none

/-- Reads hyphens at the start of a class, which stand for themselves: how many there are. -/
def leadingHyphens (verbose : Bool) (cs : List Char) : Nat × List Char :=
  let (run, rest) := collectAll verbose (· == '-') cs
  (run.length, rest)

/-- Reads the start of a class after its `[`: whether it is negated, and the characters that stand
for themselves there (hyphens, or one closing bracket). -/
def readOpening (verbose : Bool) (cs : List Char) : Bool × List NestedSet × List Char :=
  let (negated, cs) := match skipBlanks verbose cs with
    | '^' :: cs => (true, cs)
    | cs => (false, cs)
  match leadingHyphens verbose (skipBlanks verbose cs) with
  | (0, ']' :: cs) => (negated, [⟨.singleton ']', 0⟩], cs)
  | (n, cs) => (negated, List.replicate n ⟨.singleton '-', 0⟩, cs)

/-- Reads one character or element of a class. -/
def readClassElement (verbose : Bool) : List Char → Option (Element × List Char)
  | [] => none
  | '\\' :: cs => readEscape verbose cs
  | c :: cs => some (.literal c false, cs)

/-- Reads an element or a range.  A hyphen makes a range unless it is the last character of the
class or the first of `--`. -/
def readRange (flags : Flags) (cs : List Char) : Option (NestedSet × List Char) := do
  let (first, cs) ← readClassElement flags.verbose cs
  match skipBlanks flags.verbose cs with
  | '-' :: rest =>
    let next := peekPast flags.verbose rest
    if next = some ']' ∨ next = some '-' then
      let set ← first.toSet? flags
      some (⟨set, 0⟩, '-' :: rest)
    else
      let (last, rest) ← readClassElement flags.verbose (skipBlanks flags.verbose rest)
      match first, last with
      | .literal a _, .literal b _ =>
        if a.toNat ≤ b.toNat ∧ (flags.unicode ∨ b.toNat < 128) then
          some (⟨.ofRange a b, 0⟩, rest)
        else none
      | _, _ => none
  | rest =>
    let set ← first.toSet? flags
    some (⟨set, 0⟩, rest)

/-- The set of a list of parts. -/
def unionParts (parts : List NestedSet) : NestedSet :=
  match parts with
  | [] => ⟨.empty, 0⟩
  | [part] => part
  | parts => ⟨.unions (parts.map (·.set)), 1 + (parts.map (·.depth)).foldl max 0⟩

/-- Applies the operation that is waiting for its second operand. -/
def applyPending (flags : Flags) (pending : Option (SetOp × NestedSet)) (part : NestedSet) :
    NestedSet :=
  match pending with
  | none => part
  | some (op, left) =>
    ⟨op.apply (foldSet flags left.set) (foldSet flags part.set), 1 + max left.depth part.depth⟩

/-- **The inside of a class**, up to and with its closing bracket.  `parts` are the parts read so
far, and `pending` is the operation whose second operand they are.  The fuel bounds the number of
parts, those of nested classes included; each takes a character. -/
def readClass (flags : Flags) :
    Nat → Option (SetOp × NestedSet) → List NestedSet → List Char → Option (NestedSet × List Char)
  | 0, _, _, _ => none
  | fuel + 1, pending, parts, cs =>
    let combine := fun (op : SetOp) (rest : List Char) =>
      readClass flags fuel (some (op, applyPending flags pending (unionParts parts))) [] rest
    match skipBlanks flags.verbose cs with
    | [] => none
    | ']' :: rest => some (applyPending flags pending (unionParts parts), rest)
    | '[' :: rest =>
      match readAsciiClass rest with
      | some (set, negated, rest) => do
        let set ← foldNegate? flags negated set
        readClass flags fuel pending (parts ++ [⟨set, 0⟩]) rest
      | none => do
        let (negated, own, rest) := readOpening flags.verbose rest
        let (inner, rest) ← readClass flags fuel none own rest
        let set ← foldNegate? flags negated inner.set
        readClass flags fuel pending (parts ++ [⟨set, inner.depth + 1⟩]) rest
    | '&' :: '&' :: rest => combine .intersection rest
    | '-' :: '-' :: rest => combine .difference rest
    | '~' :: '~' :: rest => combine .symmetricDifference rest
    | cs => do
      let (part, rest) ← readRange flags cs
      readClass flags fuel pending (parts ++ [part]) rest

/-- Reads a class after its opening bracket. -/
def readBracket (flags : Flags) (cs : List Char) : Option (NestedSet × List Char) := do
  let (negated, own, rest) := readOpening flags.verbose cs
  let (inner, rest) ← readClass flags (rest.length + 1) none own rest
  let set ← foldNegate? flags negated inner.set
  some (⟨set, inner.depth + 1⟩, rest)

end VersionBump.Pattern
