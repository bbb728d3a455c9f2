import VersionBump.Pattern.Basic
import VersionBump.Pattern.Flags
import VersionBump.Pattern.Spacing

/-!
# Single elements of a pattern

A single element is a literal character, a class of characters written with a backslash, or an
assertion.  `readEscape` reads what follows a backslash; `Element.toPattern?` and `Element.toSet?`
say what an element means under the flags in force, outside and inside brackets.

Without the flag `u` classes are sets of ASCII characters.  A pattern that could then match half a
character has no meaning: a class that is not ASCII, a negated class, the dot, and a character from
`\x80` on written with two hexadecimal digits.
-/

namespace VersionBump.Pattern

/-- The classes with a letter of their own. -/
inductive Shorthand where
  /-- `\d` -/
  | digit
  /-- `\s` -/
  | space
  /-- `\w` -/
  | word

/-- A single element of a pattern, as written. -/
inductive Element where
  /-- A character; `octet` says that it was written with exactly two hexadecimal digits. -/
  | literal (c : Char) (octet : Bool)
  /-- `\d`, `\s` or `\w`, or the negation of one of them. -/
  | shorthand (kind : Shorthand) (negated : Bool)
  /-- `\p` with the name of a property, or its negation. -/
  | property (name : List Char) (negated : Bool)
  /-- `.` -/
  | dot
  /-- `^` -/
  | lineStart
  /-- `$` -/
  | lineEnd
  /-- `\A` -/
  | textStart
  /-- `\z` -/
  | textEnd
  /-- The edge of a word. -/
  | word (edge : WordEdge)

/-! ## Reading -/

/-- Whether a character other than a letter or digit stands for itself after a backslash. -/
def isEscapable (c : Char) : Bool :=
  decide (c.toNat < 128) && !c.isAlphanum && c ≠ '<' && c ≠ '>'

/-- Reads a code point in hexadecimal: exactly `digits` digits, or any number of them in braces. -/
def readHex (verbose : Bool) (digits : Nat) (cs : List Char) : Option (Element × List Char) :=
  match skipBlanks verbose cs with
  | '{' :: cs =>
    match collectAll verbose (· ≠ '}') cs with
    | (run, '}' :: rest) => (hexChar? run).map fun c => (.literal c false, rest)
    | _ => none
  | cs =>
    let (run, rest) := collect verbose false (fun c => (hexDigit? c).isSome) digits cs
    if run.length = digits then
      (hexChar? run).map fun c => (.literal c (digits == 2), rest)
    else none

/-- Reads the name of a property: one character, or any number of them in braces. -/
def readProperty (verbose negated : Bool) (cs : List Char) : Option (Element × List Char) :=
  match skipBlanks verbose cs with
  | [] => none
  | '{' :: cs =>
    match collectAll verbose (· ≠ '}') cs with
    | (name, '}' :: rest) => some (.property name negated, rest)
    | _ => none
  | c :: cs => if c = '\\' then none else some (.property [c] negated, cs)

/-- The word edges that have a name. -/
def namedEdge? (name : List Char) : Option WordEdge :=
  match String.ofList name with
  | "start" => some .start
  | "end" => some .stop
  | "start-half" => some .startHalf
  | "end-half" => some .stopHalf
  | _ => none

/-- Whether a character may stand in the name of a word edge. -/
def isEdgeChar (c : Char) : Bool := c.isAlpha || c == '-'

/-- Reads what follows `\b`: a name in braces says which edge is meant.  Braces that do not start
like a name are left for a repetition. -/
def readEdge (verbose : Bool) (cs : List Char) : Option (Element × List Char) :=
  match cs with
  | '{' :: inner =>
    match skipBlanks verbose inner with
    | [] => none
    | c :: _ =>
      if isEdgeChar c then
        match collectAll verbose isEdgeChar inner with
        | (name, '}' :: rest) => (namedEdge? name).map fun edge => (.word edge, rest)
        | _ => none
      else some (.word .boundary, cs)
  | _ => some (.word .boundary, cs)

/-- **Escapes.**  Reads what follows a backslash. -/
def readEscape (verbose : Bool) : List Char → Option (Element × List Char)
  | [] => none
  | 'x' :: cs => readHex verbose 2 cs
  | 'u' :: cs => readHex verbose 4 cs
  | 'U' :: cs => readHex verbose 8 cs
  | 'p' :: cs => readProperty verbose false cs
  | 'P' :: cs => readProperty verbose true cs
  | 'd' :: cs => some (.shorthand .digit false, cs)
  | 'D' :: cs => some (.shorthand .digit true, cs)
  | 's' :: cs => some (.shorthand .space false, cs)
  | 'S' :: cs => some (.shorthand .space true, cs)
  | 'w' :: cs => some (.shorthand .word false, cs)
  | 'W' :: cs => some (.shorthand .word true, cs)
  | 'a' :: cs => some (.literal '\x07' false, cs)
  | 'f' :: cs => some (.literal '\x0c' false, cs)
  | 't' :: cs => some (.literal '\t' false, cs)
  | 'n' :: cs => some (.literal '\n' false, cs)
  | 'r' :: cs => some (.literal '\r' false, cs)
  | 'v' :: cs => some (.literal '\x0b' false, cs)
  | 'A' :: cs => some (.textStart, cs)
  | 'z' :: cs => some (.textEnd, cs)
  | 'b' :: cs => readEdge verbose cs
  | 'B' :: cs => some (.word .interior, cs)
  | '<' :: cs => some (.word .start, cs)
  | '>' :: cs => some (.word .stop, cs)
  | c :: cs => if isEscapable c then some (.literal c false, cs) else none

/-! ## Meaning -/

/-- A set with the other case of its letters added, if case does not count. -/
def foldSet (flags : Flags) (set : CharSet) : CharSet :=
  if flags.ignoreCase then
    if flags.unicode then set.ignoringCase else set.ignoringAsciiCase
  else set

/-- A set with case folded and then, if asked for, negated.  Outside Unicode a negated set has no
meaning. -/
def foldNegate? (flags : Flags) (negated : Bool) (set : CharSet) : Option CharSet :=
  if negated then
    if flags.unicode then some (foldSet flags set).complement else none
  else some (foldSet flags set)

/-- The characters of a shorthand class. -/
def Shorthand.set (flags : Flags) : Shorthand → CharSet
  | .digit => if flags.unicode then Unicode.decimalDigits else .ofRanges [(0x30, 0x39)]
  | .space =>
    if flags.unicode then Unicode.whiteSpace else .ofRanges [(0x09, 0x0D), (0x20, 0x20)]
  | .word => if flags.unicode then Unicode.wordCharacters else Unicode.asciiWordCharacters

/-- The set of characters that an element adds to a bracketed class. -/
def Element.toSet? (flags : Flags) : Element → Option CharSet
  | .literal c _ =>
    if flags.unicode || decide (c.toNat < 128) then some (.singleton c) else none
  | .shorthand kind negated =>
    if negated then
      if flags.unicode then some (kind.set flags).complement else none
    else some (kind.set flags)
  | .property name negated =>
    if flags.unicode then
      (Unicode.propertySet? name).bind fun (set, outside) =>
        foldNegate? flags (negated != outside) set
    else none
  | _ => none

/-- What the dot reads: everything, or everything but line ends. -/
def dotSet (flags : Flags) : CharSet :=
  if flags.dotAll then .all
  else if flags.crlf then (CharSet.ofChars ['\n', '\r']).complement
  else (CharSet.singleton '\n').complement

/-- **The meaning of an element** under the flags in force. -/
def Element.toPattern? (flags : Flags) : Element → Option Pattern
  | .literal c octet =>
    if !flags.unicode && octet && decide (127 < c.toNat) then none
    else some (.char (foldSet flags (.singleton c)))
  | .dot => if flags.unicode then some (.char (dotSet flags)) else none
  | .lineStart =>
    some (.look (if flags.multiLine then .lineStart flags.crlf else .textStart))
  | .lineEnd => some (.look (if flags.multiLine then .lineEnd flags.crlf else .textEnd))
  | .textStart => some (.look .textStart)
  | .textEnd => some (.look .textEnd)
  | .word edge => some (.look (.word edge !flags.unicode))
  | element => (element.toSet? flags).map .char

end VersionBump.Pattern
