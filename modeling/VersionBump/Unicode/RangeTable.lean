import VersionBump.CharSet
import VersionBump.Text.Fields

/-!
# Tables of code points

The tables of character properties are written as lines of text: hexadecimal code points,
separated by blanks.  In a table of ranges an entry is one code point or two joined by a hyphen
(`read`); in a table of groups it is a list of code points joined by commas (`readGroups`).
Several tables with their names form a list, from which `lookup?` takes one.
-/

namespace VersionBump.Unicode.RangeTable

/-- The value of a hexadecimal digit with upper-case letters; other characters count as zero. -/
def digit (c : Char) : Nat :=
  if c.isDigit then c.toNat - '0'.toNat
  else if 'A' ≤ c ∧ c ≤ 'F' then c.toNat - 'A'.toNat + 10
  else 0

/-- The number that hexadecimal digits write, after those already read. -/
def number (read : Nat) (digits : List Char) : Nat :=
  digits.foldl (fun n c => 16 * n + digit c) read

/-- One entry of a table of ranges: the first and the last code point. -/
def readRange (entry : List Char) : Nat × Nat :=
  let first := number 0 (entry.takeWhile (· ≠ '-'))
  match entry.dropWhile (· ≠ '-') with
  | [] => (first, first)
  | _ :: last => (first, number 0 last)

/-- The entries of a table: the pieces between blanks, line by line. -/
def entries (lines : List String) : List (List Char) :=
  lines.flatMap fun line => Text.fields ' ' line.toList

/-- The set that a table of ranges describes. -/
def read (lines : List String) : CharSet :=
  .ofRanges ((entries lines).map readRange)

/-- The set with a given name among named tables: each has a list of names and its lines. -/
def lookup? (tables : List (List String × List String)) (name : String) : Option CharSet :=
  (tables.find? (·.1.contains name)).map fun table => read table.2

/-- All the characters of named tables. -/
def readAll (tables : List (List String × List String)) : CharSet :=
  .unions (tables.map fun table => read table.2)

/-- The groups of characters that a table of groups describes. -/
def readGroups (lines : List String) : List (List Char) :=
  (entries lines).map fun entry => (Text.fields ',' entry).map fun c => Char.ofNat (number 0 c)

end VersionBump.Unicode.RangeTable
