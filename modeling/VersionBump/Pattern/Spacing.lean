import VersionBump.Unicode.Property

/-!
# Blanks inside a pattern

In the verbose way of writing a pattern, white space and comments (from `#` to the end of the line)
may stand between its parts and mean nothing.  Every reader below works on the characters that are
still to be read.

* `skipBlanks`: passes over blanks and comments.
* `collect`: reads the characters of a name or number, passing over blanks and comments between
  them.
-/

namespace VersionBump.Pattern

/-- Passes over white space and comments; `comment` says that a comment is open. -/
def dropBlanks (comment : Bool) : List Char → List Char
  | [] => []
  | c :: cs =>
    if comment then dropBlanks (c ≠ '\n') cs
    else if Unicode.isWhiteSpace c then dropBlanks false cs
    else if c = '#' then dropBlanks true cs
    else c :: cs

/-- Passes over blanks and comments, where they mean nothing. -/
def skipBlanks (verbose : Bool) (cs : List Char) : List Char :=
  if verbose then dropBlanks false cs else cs

/-- Reads the longest run of at most `limit` wanted characters: the run and what follows it.  In
verbose writing blanks and comments inside the run are passed over; `comment` says that a comment
is open. -/
def collect (verbose comment : Bool) (wanted : Char → Bool) :
    Nat → List Char → List Char × List Char
  | _, [] => ([], [])
  | limit, c :: cs =>
    if comment then collect verbose (c ≠ '\n') wanted limit cs
    else if verbose && Unicode.isWhiteSpace c then collect verbose false wanted limit cs
    else if verbose && c == '#' then collect verbose true wanted limit cs
    else if wanted c && decide (0 < limit) then
      let (run, rest) := collect verbose false wanted (limit - 1) cs
      (c :: run, rest)
    else ([], c :: cs)

/-- Reads the longest run of wanted characters. -/
def collectAll (verbose : Bool) (wanted : Char → Bool) (cs : List Char) :
    List Char × List Char :=
  collect verbose false wanted cs.length cs

/-- The character after the next one, where blanks mean nothing: after a `#` it is the first
character of the comment that is not white space. -/
def peekPast (verbose : Bool) (rest : List Char) : Option Char :=
  if verbose then
    match rest.dropWhile Unicode.isWhiteSpace with
    | '#' :: comment => (comment.dropWhile Unicode.isWhiteSpace).head?
    | cs => cs.head?
  else rest.head?

/-! ## Numbers -/

/-- The largest count of a repetition. -/
def countLimit : Nat := 4294967295

/-- Reads a decimal number with white space around it.  It is refused if it has no digit or
exceeds `countLimit`. -/
def readCount (verbose : Bool) (cs : List Char) : Option (Nat × List Char) :=
  let (digits, rest) := collectAll verbose Char.isDigit (cs.dropWhile Unicode.isWhiteSpace)
  let n := digits.foldl (fun n c => 10 * n + (c.toNat - '0'.toNat)) 0
  if digits.isEmpty || decide (countLimit < n) then none
  else some (n, rest.dropWhile Unicode.isWhiteSpace)

/-- The value of a hexadecimal digit of either case. -/
def hexDigit? (c : Char) : Option Nat :=
  if c.isDigit then some (c.toNat - '0'.toNat)
  else if 'a' ≤ c ∧ c ≤ 'f' then some (c.toNat - 'a'.toNat + 10)
  else if 'A' ≤ c ∧ c ≤ 'F' then some (c.toNat - 'A'.toNat + 10)
  else none

/-- The character whose code point the hexadecimal digits write, if they write one. -/
def hexChar? (digits : List Char) : Option Char := do
  let values ← digits.mapM hexDigit?
  let n := values.foldl (fun n d => 16 * n + d) 0
  if digits ≠ [] ∧ n.isValidChar then some (Char.ofNat n) else none

end VersionBump.Pattern
