import VersionBump.Unicode.CoreProperty

/-!
# Characters of names

The name of a group in a pattern is made of alphabetic and numeric characters.  Which these are is
decided by version 17.0 of the Unicode standard, while the properties that a pattern can ask for
are those of version 16.0; `addedLetters` and `addedNumbers` are what the later version has beyond
the earlier one.
-/

namespace VersionBump.Unicode

/-- The alphabetic characters, as patterns know them. -/
def alphabetic : CharSet :=
  (CoreProperty.ofName? "alphabetic").getD .empty

/-- The characters of numbers in any script, as patterns know them. -/
def numeric : CharSet :=
  (GeneralCategory.ofName? "n").getD .empty

/-- The alphabetic characters of version 17.0 that version 16.0 does not have. -/
def addedLetters : CharSet :=
  RangeTable.read
    ["88F C5C CDC A7CE-A7CF A7D2 A7D4 A7F1 10940-10959 10EC5-10EC7 10EFA-10EFB 11B60-11B67",
     "11DB0-11DDB 16EA0-16EB8 16EBB-16ED3 16FF2-16FF6 187F8-187FF 18D09-18D1E 18D80-18DF2",
     "1E6C0-1E6DE 1E6E0-1E6F5 1E6FE-1E6FF 2B73A-2B73F 2CEA2-2CEAD 323B0-33479"]

/-- The characters of numbers in version 17.0 that version 16.0 does not have. -/
def addedNumbers : CharSet :=
  RangeTable.read ["11DE0-11DE9 16FF4-16FF6"]

/-- Whether a character is alphabetic.  Below the first non-ASCII character these are the letters
`A` to `Z` of either case, so the tables are only asked about the others. -/
def isAlphabetic (c : Char) : Bool :=
  if c.toNat < 128 then c.isAlpha else alphabetic.contains c || addedLetters.contains c

/-- Whether a character is a number of some script. -/
def isNumeric (c : Char) : Bool :=
  if c.toNat < 128 then c.isDigit else numeric.contains c || addedNumbers.contains c

/-- Whether a character is alphabetic or numeric. -/
def isAlphanumeric (c : Char) : Bool := isAlphabetic c || isNumeric c

end VersionBump.Unicode
