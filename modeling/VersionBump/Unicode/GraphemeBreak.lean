import VersionBump.Unicode.DefinedSet

/-!
# Grapheme cluster breaks

How a character takes part in the characters that a reader sees, as the rules for text boundaries
class it.  The Hangul syllables follow each other in blocks of 28: one without a final consonant
(`LV`), then the same one with each of the 27 finals (`LVT`).
-/

namespace VersionBump.Unicode.GraphemeBreak

/-- The classes other than those of the Hangul syllables. -/
def classes : List DefinedSet :=
  [{ names := ["cr"]
     also := ["D"] },
   { names := ["cn", "control"]
     categories := ["cc", "cf", "zl", "zp"]
     also := ["2065 FFF0-FFF8 E0000 E0002-E001F E0080-E00FF E01F0-E0FFF"]
     without := ["pcm"]
     except := ["A D 200C-200D E0020-E007F"] },
   { names := ["ex", "extend"]
     categories := ["mn", "me"]
     listed := ["ogrext", "emod"] },
   { names := ["l"]
     also := ["1100-115F A960-A97C"] },
   { names := ["lf"]
     also := ["A"] },
   { names := ["pp", "prepend"]
     listed := ["pcm"]
     also := ["D4E 111C2-111C3 113D1 1193F 11941 11A3A 11A84-11A89 11D46 11F02"] },
   { names := ["ri", "regionalindicator"]
     listed := ["ri"] },
   { names := ["sm", "spacingmark"]
     categories := ["mc"]
     also := ["E33 EB3"]
     without := ["ogrext"]
     except :=
       ["102B-102C 1038 1062-1064 1067-106D 1083 1087-108C 108F 109A-109C 1A61 1A63-1A64 AA7B",
        "AA7D 11720-11721"] },
   { names := ["t"]
     also := ["11A8-11FF D7CB-D7FB"] },
   { names := ["v"]
     also := ["1160-11A7 D7B0-D7C6 16D63 16D67-16D6A"] },
   { names := ["zwj"]
     also := ["200D"] }]

/-- The number of blocks of Hangul syllables. -/
def syllableBlocks : Nat := 399

/-- The first syllable of a block. -/
def blockStart (k : Nat) : Nat := 0xAC00 + 28 * k

/-- The Hangul syllables without a final consonant. -/
def openSyllables : CharSet :=
  .ofRanges ((List.range syllableBlocks).map fun k => (blockStart k, blockStart k))

/-- The Hangul syllables with a final consonant. -/
def closedSyllables : CharSet :=
  .ofRanges ((List.range syllableBlocks).map fun k => (blockStart k + 1, blockStart k + 27))

/-- The members of the class with the loose name `name`. -/
def ofName? (name : String) : Option CharSet :=
  if name = "lv" then some openSyllables
  else if name = "lvt" then some closedSyllables
  else DefinedSet.lookup? classes name

end VersionBump.Unicode.GraphemeBreak
