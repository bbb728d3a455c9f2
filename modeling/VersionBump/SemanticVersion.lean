import VersionBump.Text.Fields

/-!
# Semantic versions

A semantic version is `MAJOR.MINOR.PATCH`, then perhaps a hyphen and a pre-release tag, then
perhaps a plus sign and build metadata.  Tag and metadata are lists of identifiers separated by
dots.  `SemanticVersion.parse?` reads one from a whole text.
-/

namespace VersionBump

/-- A semantic version. -/
structure SemanticVersion where
  major : Nat
  minor : Nat
  patch : Nat
  preRelease : List (List Char)
  build : List (List Char)

namespace SemanticVersion

open Text (fields cutAt)

/-- The largest number in a version. -/
def numberLimit : Nat := 18446744073709551615

/-- Whether digits start with a zero that they do not need. -/
def hasLeadingZero : List Char → Bool
  | '0' :: _ :: _ => true
  | _ => false

/-- A number of a version: digits without a leading zero, up to `numberLimit`. -/
def number? (digits : List Char) : Option Nat :=
  let n := digits.foldl (fun n c => 10 * n + (c.toNat - '0'.toNat)) 0
  if digits ≠ [] ∧ digits.all Char.isDigit ∧ hasLeadingZero digits = false ∧ n ≤ numberLimit then
    some n
  else none

/-- Whether a character may stand in an identifier. -/
def isIdentifierChar (c : Char) : Bool := c.isAlphanum || c == '-'

/-- Whether a text is an identifier of build metadata. -/
def isBuildIdentifier (s : List Char) : Bool := !s.isEmpty && s.all isIdentifierChar

/-- Whether a text is an identifier of a pre-release tag: one of digits only has no leading
zero. -/
def isPreReleaseIdentifier (s : List Char) : Bool :=
  isBuildIdentifier s && !(s.all Char.isDigit && hasLeadingZero s)

/-- Identifiers separated by dots; none at all where the part is missing. -/
def identifiers? (valid : List Char → Bool) (part : Option (List Char)) :
    Option (List (List Char)) :=
  match part with
  | none => some []
  | some text => if (fields '.' text).all valid then some (fields '.' text) else none

/-- **Reading.**  The semantic version that a text writes.  The first plus sign starts the build
metadata, and the first hyphen before it the pre-release tag. -/
def parseChars? (text : List Char) : Option SemanticVersion := do
  let (text, build) := cutAt '+' text
  let (core, preRelease) := cutAt '-' text
  match fields '.' core with
  | [major, minor, patch] =>
    some
      { major := ← number? major
        minor := ← number? minor
        patch := ← number? patch
        preRelease := ← identifiers? isPreReleaseIdentifier preRelease
        build := ← identifiers? isBuildIdentifier build }
  | _ => none

/-- The semantic version that a text writes. -/
def parse? (text : String) : Option SemanticVersion :=
  parseChars? text.toList

end SemanticVersion

/-- Whether a text is a semantic version. -/
def isSemanticVersion (text : String) : Bool :=
  (SemanticVersion.parse? text).isSome

end VersionBump
