import VersionBump.Unicode.DefinedSet

/-!
# Word breaks

How a character takes part in words and numbers, as the rules for text boundaries class it.  The
letters that `ALetter` leaves out have a class of their own, as those of Hebrew and Katakana have,
or belong to scripts that write words without blanks between them.
-/

namespace VersionBump.Unicode.WordBreak

/-- The classes. -/
def classes : List DefinedSet :=
  [{ names := ["le", "aletter"]
     categories := ["l", "nl"]
     listed := ["oupper", "olower"]
     also :=
       ["2C2-2C5 2D2-2D7 2DE-2DF 2E5-2EB 2ED 2EF-2FF 55A-55C 55E 58A 5F3 70F A708-A716",
        "A720-A721 A789-A78A AB5B"]
     without := ["ideo", "ogrext"]
     except :=
       ["345 5D0-5EA 5EF-5F2 E01-E30 E32-E33 E40-E46 E81-E82 E84 E86-E8A E8C-EA3 EA5 EA7-EB0",
        "EB2-EB3 EBD EC0-EC4 EC6 EDC-EDF 1000-102A 103F 1050-1055 105A-105D 1061 1065-1066",
        "106E-1070 1075-1081 108E 1780-17B3 17D7 17DC 1950-196D 1970-1974 1980-19AB 19B0-19C9",
        "1A20-1A54 1AA7 3031-3035 3041-3096 309D-309F 30A1-30FA 30FC-30FF 31F0-31FF A9E0-A9E4",
        "A9E6-A9EF A9FA-A9FE AA60-AA76 AA7A AA7E-AAAF AAB1 AAB5-AAB6 AAB9-AABD AAC0 AAC2",
        "AADB-AADD FB1D FB1F-FB28 FB2A-FB36 FB38-FB3C FB3E FB40-FB41 FB43-FB44 FB46-FB4F",
        "FF66-FF9D 11700-1171A 11740-11746 1AFF0-1AFF3 1AFF5-1AFFB 1AFFD-1AFFE 1B000-1B122",
        "1B132 1B150-1B152 1B155 1B164-1B167"] },
   { names := ["cr"]
     also := ["D"] },
   { names := ["dq", "doublequote"]
     also := ["22"] },
   { names := ["extend"]
     categories := ["mn", "me", "mc"]
     listed := ["ogrext", "emod"] },
   { names := ["ex", "extendnumlet"]
     also := ["5F 202F 203F-2040 2054 FE33-FE34 FE4D-FE4F FF3F"] },
   { names := ["fo", "format"]
     categories := ["cf"]
     without := ["pcm", "joinc"]
     except := ["200B E0020-E007F"] },
   { names := ["hl", "hebrewletter"]
     also :=
       ["5D0-5EA 5EF-5F2 FB1D FB1F-FB28 FB2A-FB36 FB38-FB3C FB3E FB40-FB41 FB43-FB44 FB46-FB4F"] },
   { names := ["ka", "katakana"]
     also :=
       ["3031-3035 309B-309C 30A0-30FA 30FC-30FF 31F0-31FF 32D0-32FE 3300-3357 FF66-FF9D",
        "1AFF0-1AFF3 1AFF5-1AFFB 1AFFD-1AFFE 1B000 1B120-1B122 1B155 1B164-1B167"] },
   { names := ["lf"]
     also := ["A"] },
   { names := ["ml", "midletter"]
     also := ["3A B7 387 55F 5F4 2027 FE13 FE55 FF1A"] },
   { names := ["mn", "midnum"]
     also := ["2C 3B 37E 589 60C-60D 66C 7F8 2044 FE50 FE54 FF0C FF1B"] },
   { names := ["mb", "midnumlet"]
     also := ["2E 2018-2019 2024 FE52 FF07 FF0E"] },
   { names := ["nl", "newline"]
     also := ["B-C 85 2028-2029"] },
   { names := ["nu", "numeric"]
     categories := ["nd"]
     also := ["600-605 66B 6DD 890-891 8E2 19DA 110BD 110CD"] },
   { names := ["ri", "regionalindicator"]
     listed := ["ri"] },
   { names := ["sq", "singlequote"]
     also := ["27"] },
   { names := ["wsegspace"]
     also := ["20 1680 2000-2006 2008-200A 205F 3000"] },
   { names := ["zwj"]
     also := ["200D"] }]

/-- The members of the class with the loose name `name`. -/
def ofName? (name : String) : Option CharSet :=
  DefinedSet.lookup? classes name

end VersionBump.Unicode.WordBreak
