import VersionBump.Unicode.DefinedSet

/-!
# Sentence breaks

How a character takes part in sentences, as the rules for text boundaries class it.
-/

namespace VersionBump.Unicode.SentenceBreak

/-- The classes. -/
def classes : List DefinedSet :=
  [{ names := ["at", "aterm"]
     also := ["2E 2024 FE52 FF0E"] },
   { names := ["cr"]
     also := ["D"] },
   { names := ["cl", "close"]
     categories := ["ps", "pe", "pi", "pf"]
     listed := ["qmark"]
     also := ["275B-2760 2E00-2E01 2E06-2E08 2E0B 1F676-1F678"]
     except := ["FF02 FF07"] },
   { names := ["ex", "extend"]
     categories := ["mn", "me", "mc"]
     listed := ["ogrext"]
     also := ["200D"] },
   { names := ["fo", "format"]
     categories := ["cf"]
     without := ["joinc"]
     except := ["600-605 6DD 890-891 8E2 110BD 110CD E0020-E007F"] },
   { names := ["lf"]
     also := ["A"] },
   { names := ["lo", "lower"]
     categories := ["ll"]
     listed := ["olower"]
     except := ["345 10D0-10FA 10FD-10FF"] },
   { names := ["nu", "numeric"]
     categories := ["nd"]
     also := ["600-605 66B-66C 6DD 890-891 8E2 19DA 110BD 110CD"] },
   { names := ["le", "oletter"]
     categories := ["lm", "lo", "nl"]
     also := ["5F3 10D0-10FA 10FD-10FF 1C90-1CBA 1CBD-1CBF"]
     without := ["ogrext", "olower", "oupper"] },
   { names := ["sc", "scontinue"]
     also :=
       ["2C-2D 3A-3B 37E 55D 60C-60D 7F8 1802 1808 2013-2014 3001 FE10-FE11 FE13-FE14 FE31-FE32",
        "FE50-FE51 FE54-FE55 FE58 FE63 FF0C-FF0D FF1A-FF1B FF64"] },
   { names := ["st", "sterm"]
     listed := ["sterm"]
     except := ["2E 2024 FE52 FF0E"] },
   { names := ["se", "sep"]
     also := ["85 2028-2029"] },
   { names := ["sp"]
     categories := ["zs"]
     also := ["9 B-C"] },
   { names := ["up", "upper"]
     categories := ["lu", "lt"]
     listed := ["oupper"]
     except := ["1C90-1CBA 1CBD-1CBF"] }]

/-- The members of the class with the loose name `name`. -/
def ofName? (name : String) : Option CharSet :=
  DefinedSet.lookup? classes name

end VersionBump.Unicode.SentenceBreak
