import VersionBump.Unicode.GeneralCategory
import VersionBump.Unicode.PropertyList

/-!
# Sets defined from others

Most properties of the Unicode character database are not listed but defined: some general
categories and listed properties taken together, without others, and with a few characters more or
less.  A `DefinedSet` is such a definition, and `DefinedSet.members` is the set that it defines.
-/

namespace VersionBump.Unicode

/-- **A set defined from others.**  It has the members of the `categories`, of the `listed`
properties and of the table `also`, but not those of the listed properties `without` nor those of
the table `except`. -/
structure DefinedSet where
  names : List String
  categories : List String := []
  listed : List String := []
  also : List String := []
  without : List String := []
  except : List String := []

namespace DefinedSet

/-- The members of a defined set. -/
def members (d : DefinedSet) : CharSet :=
  let included :=
    d.categories.filterMap GeneralCategory.ofName? ++ d.listed.filterMap PropertyList.ofName? ++
      [RangeTable.read d.also]
  let excluded := d.without.filterMap PropertyList.ofName? ++ [RangeTable.read d.except]
  (CharSet.unions included).diff (.unions excluded)

/-- The members of the set with a given name. -/
def lookup? (sets : List DefinedSet) (name : String) : Option CharSet :=
  (sets.find? (·.names.contains name)).map members

end DefinedSet

end VersionBump.Unicode
