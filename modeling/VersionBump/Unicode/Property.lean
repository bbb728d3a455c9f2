import VersionBump.Unicode.Age
import VersionBump.Unicode.GraphemeBreak
import VersionBump.Unicode.LetterCase
import VersionBump.Unicode.NameCharacter
import VersionBump.Unicode.ScriptExtensions
import VersionBump.Unicode.SentenceBreak
import VersionBump.Unicode.WordBreak

/-!
# Character properties

The properties that patterns, names of groups and settings ask about.

* `whiteSpace`, `decimalDigits`, `wordCharacters`: what `\s`, `\d` and `\w` stand for.
* `propertySet?`: the set that a property written in a pattern by name stands for, such as
  `\p{Greek}` or `\p{gc=Lu}`.  Names are matched loosely (`looseName`).
-/

namespace VersionBump.Unicode

/-- White space: the blanks and the line and paragraph breaks. -/
def whiteSpace : CharSet :=
  RangeTable.read ["9-D 20 85 A0 1680 2000-200A 2028-2029 202F 205F 3000"]

/-- Whether a character is white space. -/
def isWhiteSpace (c : Char) : Bool := whiteSpace.contains c

/-- The decimal digits of all scripts. -/
def decimalDigits : CharSet :=
  (GeneralCategory.ofName? "nd").getD .empty

/-- The characters that words are made of: the alphabetic characters, marks, decimal digits,
connecting punctuation and the two joiners. -/
def wordCharacters : CharSet :=
  .unions
    [alphabetic, (GeneralCategory.ofName? "m").getD .empty, decimalDigits,
     (GeneralCategory.ofName? "pc").getD .empty, .ofRanges [(0x200C, 0x200D)]]

/-- The word characters among the ASCII characters. -/
def asciiWordCharacters : CharSet :=
  .ofRanges [(0x30, 0x39), (0x41, 0x5A), (0x5F, 0x5F), (0x61, 0x7A)]

/-! ## Properties by name -/

/-- **Loose names.**  Case, blanks, hyphens, underscores and characters outside ASCII do not count,
and neither does a leading `is`, with one exception: `isc` stays as it is, for without its `is` it
would be the name of another property. -/
def looseName (name : List Char) : String :=
  let keep := fun (cs : List Char) =>
    (cs.filter fun c => decide (c.toNat < 128) && c ≠ ' ' && c ≠ '_' && c ≠ '-').map Char.toLower
  match name with
  | a :: b :: rest =>
    if a.toLower = 'i' ∧ b.toLower = 's' then
      if keep rest = ['c'] then "isc" else String.ofList (keep rest)
    else String.ofList (keep name)
  | _ => String.ofList (keep name)

/-- The general category with a loose name, or one of the three further sets: every character,
the ASCII characters, the assigned code points. -/
def category? (name : String) : Option CharSet :=
  if name = "any" then some .all
  else if name = "ascii" then some (.ofRanges [(0, 127)])
  else if name = "assigned" then (GeneralCategory.ofName? "cn").map CharSet.complement
  else GeneralCategory.ofName? name

/-- The property that a character either has or has not, with a loose name. -/
def binaryProperty? (name : String) : Option CharSet :=
  if name = "whitespace" ∨ name = "wspace" ∨ name = "space" then some whiteSpace
  else (CoreProperty.ofName? name).orElse fun _ => PropertyList.ofName? name

/-- The set that a single name stands for: a property, else a category, else a script. -/
def namedSet? (name : List Char) : Option CharSet :=
  let name := looseName name
  (binaryProperty? name).orElse fun _ =>
    (category? name).orElse fun _ => Script.ofName? name

/-- The set that a property with a value stands for. -/
def valuedSet? (property value : List Char) : Option CharSet :=
  let property := looseName property
  let value := looseName value
  if property = "generalcategory" ∨ property = "gc" then category? value
  else if property = "script" ∨ property = "sc" then Script.ofName? value
  else if property = "scriptextensions" ∨ property = "scx" then ScriptExtensions.ofName? value
  else if property = "age" then Age.ofName? value
  else if property = "graphemeclusterbreak" ∨ property = "gcb" then GraphemeBreak.ofName? value
  else if property = "wordbreak" ∨ property = "wb" then WordBreak.ofName? value
  else if property = "sentencebreak" ∨ property = "sb" then SentenceBreak.ofName? value
  else none

/-- The first place where `mark` occurs in a text: what stands before it and what after. -/
def splitAt? (mark : List Char) : List Char → Option (List Char × List Char)
  | [] => none
  | c :: cs =>
    if mark.isPrefixOf (c :: cs) then some ([], (c :: cs).drop mark.length)
    else (splitAt? mark cs).map fun (before, after) => (c :: before, after)

/-- **A property as written** between the braces of a pattern: a name, or a name and a value with
`!=`, `:` or `=` between them, looked for in this order.  The answer has the set of the property
and whether the characters outside it are meant, as `!=` says. -/
def propertySet? (text : List Char) : Option (CharSet × Bool) :=
  match splitAt? ['!', '='] text with
  | some (property, value) => (valuedSet? property value).map (·, true)
  | none =>
    match (splitAt? [':'] text).orElse fun _ => splitAt? ['='] text with
    | some (property, value) => (valuedSet? property value).map (·, false)
    | none => (namedSet? text).map (·, false)

end VersionBump.Unicode
