import VersionBump.Replacement
import VersionBump.UpdateError

/-!
# Targets

A target is a file that holds a version and the pattern that finds it there.  `defaultTargets` are
the files that the program updates: a project file, where the version is an element, and a
document, where it is an attribute.
-/

namespace VersionBump

/-- A file with a version in it. -/
structure Target where
  path : String
  /-- The pattern as written. -/
  source : String
  pattern : Pattern
  /-- The pattern is the one that was written. -/
  reads : Pattern.read? source = some pattern

/-- The target with a given path and pattern, if the text is a pattern. -/
def Target.make (path source : String) : Except UpdateError Target :=
  match h : Pattern.read? source with
  | some pattern => .ok ⟨path, source, pattern, h⟩
  | none => .error (.invalidPattern source)

/-! ## The default targets -/

/-- The characters of a text, one after another. -/
def Pattern.literal (text : String) : List Pattern :=
  text.toList.map fun c => .char (.singleton c)

/-- **A marked version.**  The shortest text without a line break between an opening and the next
closing mark. -/
def Pattern.between (opening closing : String) : Pattern :=
  .sequence
    (literal opening ++
      .group (some markerGroup) (.rep (.char (dotSet {})) 0 none false) :: literal closing)

/-- The version as an element of a project file. -/
def elementSource : String := "<Version>(?P<marker>.*?)</Version>"

/-- The version as an attribute in a document. -/
def attributeSource : String := "Version=\"(?P<marker>.*?)\""

/-- The project file. -/
def projectTarget : Target where
  path := "./AntlrTreeRewriter/AntlrTreeRewriter/AntlrTreeRewriter.csproj"
  source := elementSource
  pattern := .between "<Version>" "</Version>"
  reads := by rfl

/-- The document. -/
def documentTarget : Target where
  path := "./README.md"
  source := attributeSource
  pattern := .between "Version=\"" "\""
  reads := by rfl

/-- The files that are updated, in order. -/
def defaultTargets : List Target := [projectTarget, documentTarget]

end VersionBump
