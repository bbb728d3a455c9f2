import VersionBump.Pattern.Reader
import VersionBump.Program.Search

/-!
# Replacing the version in a text

A pattern finds the version in a text.  If it has a group named `marker` that took part in the
match, the group is the version and what stands around it stays; otherwise the whole match is.
`replaceFirst` puts another version in its place, character for character.
-/

namespace VersionBump

/-- The name of the group that narrows a match down to the version. -/
def markerGroup : String := "marker"

/-- The place of the version in a match. -/
def Match.versionSpan (m : Match) : Span :=
  m.group.getD m.span

/-- A text with other characters in place of a span. -/
def splice (text : List Char) (span : Span) (replacement : List Char) : List Char :=
  text.take span.start ++ replacement ++ text.drop span.stop

/-- **Replacement.**  The text with the version put into the first match of the pattern, and the
number of replacements: none if there is no match, else one. -/
def replaceFirst (pattern : Pattern) (text version : String) : String × Nat :=
  match pattern.search markerGroup text.toList.toArray with
  | none => (text, 0)
  | some m => (String.ofList (splice text.toList m.versionSpan version.toList), 1)

end VersionBump
