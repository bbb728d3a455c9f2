import VersionBump.Pattern.Bracket

/-!
# Reading a pattern

`Pattern.read?` gives the pattern that a text writes, if it writes one.  The reader goes once
through the text, keeps the flags in force, and builds the pattern as it goes.

A pattern is refused if it breaks the rules of writing, if two of its groups have the same name, or
if it nests more than `depthLimit` deep.
-/

namespace VersionBump.Pattern

/-- The deepest nesting that is accepted. -/
def depthLimit : Nat := 250

/-- A part of a pattern that was read. -/
structure Part where
  pattern : Pattern
  /-- How deeply its own parts are nested. -/
  depth : Nat
  /-- Whether it may be repeated; a change of flags may not. -/
  repeatable : Bool

/-- The parts of a sequence as one part. -/
def joinParts (parts : List Part) : Part :=
  match parts with
  | [part] => ⟨sequence [part.pattern], part.depth, true⟩
  | parts =>
    ⟨sequence (parts.map (·.pattern)),
      if parts.isEmpty then 0 else 1 + (parts.map (·.depth)).foldl max 0, true⟩

/-- The alternatives of a group as one part. -/
def joinBranches (alternatives : List Part) : Part :=
  match alternatives with
  | [part] => part
  | parts =>
    ⟨alternation (parts.map (·.pattern)), 1 + (parts.map (·.depth)).foldl max 0, true⟩

/-! ## Repetitions -/

/-- Repeats the last of the parts, which are in reverse order. -/
def repeatLast (flags : Flags) (least : Nat) (extra : Option Nat) (lazy : Bool) :
    List Part → Option (List Part)
  | [] => none
  | part :: parts =>
    if part.repeatable then
      some (⟨repetition part.pattern least extra (lazy == flags.swapGreed), part.depth + 1, true⟩
        :: parts)
    else none

/-- Reads the question mark that makes a repetition lazy. -/
def readLazy : List Char → Bool × List Char
  | '?' :: cs => (true, cs)
  | cs => (false, cs)

/-- Reads the bounds of a counted repetition after its opening brace: the least number of
repetitions and how many more there may be. -/
def readBounds (verbose : Bool) (cs : List Char) : Option (Nat × Option Nat × List Char) := do
  let (least, cs) ← readCount verbose (skipBlanks verbose cs)
  match cs with
  | '}' :: cs => some (least, some 0, cs)
  | ',' :: cs =>
    match skipBlanks verbose cs with
    | '}' :: cs => some (least, none, cs)
    | cs =>
      let (most, cs) ← readCount verbose cs
      match cs with
      | '}' :: cs => if least ≤ most then some (least, some (most - least), cs) else none
      | _ => none
  | _ => none

/-! ## Groups -/

/-- What an opening parenthesis starts. -/
inductive Opening where
  /-- A change of flags for the rest of the group around it. -/
  | flags (changes : List (Flag × Bool))
  /-- A group that is only there for precedence, with flags of its own. -/
  | plain (changes : List (Flag × Bool))
  /-- A group whose place is kept. -/
  | capture (name : Option String)

/-- Whether a text can be the name of a group: it starts with an underscore or an alphabetic
character, and goes on with such characters, digits, dots and square brackets. -/
def isGroupName : List Char → Bool
  | [] => false
  | c :: cs =>
    (c == '_' || Unicode.isAlphabetic c) &&
      cs.all fun c => c == '_' || c == '.' || c == '[' || c == ']' || Unicode.isAlphanumeric c

/-- Reads the name of a group up to its closing angle bracket. -/
def readGroupName (cs : List Char) : Option (Opening × List Char) :=
  let name := cs.takeWhile (· ≠ '>')
  match cs.dropWhile (· ≠ '>') with
  | '>' :: rest =>
    if isGroupName name then some (.capture (some (String.ofList name)), rest) else none
  | _ => none

/-- Reads what follows an opening parenthesis.  There is no looking ahead or behind. -/
def readOpeningGroup (verbose : Bool) (cs : List Char) : Option (Opening × List Char) :=
  match skipBlanks verbose cs with
  | '?' :: '=' :: _ => none
  | '?' :: '!' :: _ => none
  | '?' :: '<' :: '=' :: _ => none
  | '?' :: '<' :: '!' :: _ => none
  | '?' :: 'P' :: '<' :: cs => readGroupName cs
  | '?' :: '<' :: cs => readGroupName cs
  | '?' :: cs =>
    match readFlags [] false false cs with
    | none => none
    | some (changes, true, cs) => some (.plain changes, cs)
    | some (changes, false, cs) => if changes.isEmpty then none else some (.flags changes, cs)
  | cs => some (.capture none, cs)

/-! ## The reader -/

/-- What the reader has read of a group: the parts of the open alternative, last one first, the
finished alternatives, last one first, and the names of groups. -/
structure Progress where
  parts : List Part
  alternatives : List Part
  names : List String

/-- Adds a part. -/
def Progress.push (progress : Progress) (part : Part) : Progress :=
  { progress with parts := part :: progress.parts }

/-- Finishes the open alternative. -/
def Progress.close (progress : Progress) : Progress :=
  { progress with
    parts := [], alternatives := joinParts progress.parts.reverse :: progress.alternatives }

/-- Reads a single element outside brackets. -/
def readElement (verbose : Bool) : List Char → Option (Element × List Char)
  | [] => none
  | '\\' :: cs => readEscape verbose cs
  | '.' :: cs => some (.dot, cs)
  | '^' :: cs => some (.lineStart, cs)
  | '$' :: cs => some (.lineEnd, cs)
  | c :: cs => some (.literal c false, cs)

/-- **The inside of a group**, up to its closing parenthesis or the end of the text: the pattern,
the names of groups read so far, and the rest.  The fuel bounds the number of parts, those of inner
groups included; each takes a character. -/
def readGroup : Nat → Flags → Progress → List Char → Option (Part × List String × List Char)
  | 0, _, _, _ => none
  | fuel + 1, flags, progress, cs =>
    let finish := fun (rest : List Char) =>
      some (joinBranches progress.close.alternatives.reverse, progress.names, rest)
    let repeated := fun (least : Nat) (extra : Option Nat) (rest : List Char) => do
      let (lazy, rest) := readLazy rest
      let parts ← repeatLast flags least extra lazy progress.parts
      readGroup fuel flags { progress with parts } rest
    match skipBlanks flags.verbose cs with
    | [] => finish []
    | ')' :: rest => finish (')' :: rest)
    | '|' :: rest => readGroup fuel flags progress.close rest
    | '*' :: rest => repeated 0 none rest
    | '+' :: rest => repeated 1 none rest
    | '?' :: rest => repeated 0 (some 1) rest
    | '{' :: rest => do
      let (least, extra, rest) ← readBounds flags.verbose rest
      repeated least extra (skipBlanks flags.verbose rest)
    | '[' :: rest => do
      let (inner, rest) ← readBracket flags rest
      readGroup fuel flags (progress.push ⟨.char inner.set, inner.depth, true⟩) rest
    | '(' :: rest => do
      let (opening, rest) ← readOpeningGroup flags.verbose rest
      match opening with
      | .flags changes =>
        readGroup fuel (flags.setAll changes) (progress.push ⟨.empty, 0, false⟩) rest
      | .plain changes =>
        let (body, names, rest) ←
          readGroup fuel (flags.setAll changes) ⟨[], [], progress.names⟩ rest
        match rest with
        | ')' :: rest =>
          readGroup fuel flags
            ({ progress with names }.push ⟨body.pattern, body.depth + 1, true⟩) rest
        | _ => none
      | .capture name =>
        if name.any progress.names.contains then none
        else
          let (body, names, rest) ←
            readGroup fuel flags ⟨[], [], name.toList ++ progress.names⟩ rest
          match rest with
          | ')' :: rest =>
            readGroup fuel flags
              ({ progress with names }.push ⟨.group name body.pattern, body.depth + 1, true⟩) rest
          | _ => none
    | cs => do
      let (element, rest) ← readElement flags.verbose cs
      let pattern ← element.toPattern? flags
      readGroup fuel flags (progress.push ⟨pattern, 0, true⟩) rest

/-- The pattern that the characters of a text write.  How large a pattern may become is not limited:
a counted repetition is accepted with any counts, where the program refuses patterns that take too
much memory. -/
def ofChars? (cs : List Char) : Option Pattern :=
  match readGroup (cs.length + 1) {} ⟨[], [], []⟩ cs with
  | some (part, _, []) => if part.depth ≤ depthLimit then some part.pattern else none
  | _ => none

/-- **Reading.**  The pattern that a text writes, or `none` if it is no pattern. -/
def read? (source : String) : Option Pattern :=
  ofChars? source.toList

end VersionBump.Pattern
