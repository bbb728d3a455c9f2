import VersionBump.Unicode.Property

/-!
# Assertions about a position

An assertion reads no character.  It holds or fails at a position of a text, by what stands next to
that position: the end of the text, a line break, the edge of a word.

Positions count characters: position `i` lies before character `i`, so a text of length `n` has the
positions `0` to `n`.
-/

namespace VersionBump

/-- What a word assertion asks of the characters before and after a position. -/
inductive WordEdge where
  /-- A word starts or ends here. -/
  | boundary
  /-- No word starts or ends here. -/
  | interior
  /-- A word starts here. -/
  | start
  /-- A word ends here. -/
  | stop
  /-- No word character stands before. -/
  | startHalf
  /-- No word character stands after. -/
  | stopHalf
deriving DecidableEq

/-- A condition on a position of a text. -/
inductive Assertion where
  /-- The text starts here. -/
  | textStart
  /-- The text ends here. -/
  | textEnd
  /-- A line starts here.  Lines end with a line feed and, if `crlf`, also with a carriage return
  or with both in a row. -/
  | lineStart (crlf : Bool)
  /-- A line ends here. -/
  | lineEnd (crlf : Bool)
  /-- The edge of a word, of ASCII word characters only if `ascii`. -/
  | word (edge : WordEdge) (ascii : Bool)
deriving DecidableEq

/-- The character before a position. -/
def charBefore? (text : Array Char) (i : Nat) : Option Char :=
  if i = 0 then none else text[i - 1]?

/-- Whether a character belongs to a word. -/
def isWordChar (ascii : Bool) (c : Char) : Bool :=
  if c.toNat < 128 then Unicode.asciiWordCharacters.contains c
  else !ascii && Unicode.wordCharacters.contains c

/-- Whether a word edge lies between two neighbours, given which of them are word characters. -/
def WordEdge.between (edge : WordEdge) (before after : Bool) : Bool :=
  match edge with
  | .boundary => before != after
  | .interior => before == after
  | .start => !before && after
  | .stop => before && !after
  | .startHalf => !before
  | .stopHalf => !after

/-- **Truth at a position.**  With carriage returns as line ends, no line starts or ends between
the two characters of a carriage return and line feed in a row. -/
def Assertion.holds (a : Assertion) (text : Array Char) (i : Nat) : Bool :=
  let before := charBefore? text i
  let after := text[i]?
  match a with
  | .textStart => i == 0
  | .textEnd => i == text.size
  | .lineStart false => i == 0 || before == some '\n'
  | .lineStart true =>
    i == 0 || before == some '\n' || (before == some '\r' && after != some '\n')
  | .lineEnd false => i == text.size || after == some '\n'
  | .lineEnd true =>
    i == text.size || after == some '\r' || (after == some '\n' && before != some '\r')
  | .word edge ascii => edge.between (before.any (isWordChar ascii)) (after.any (isWordChar ascii))

end VersionBump
