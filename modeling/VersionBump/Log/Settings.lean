import VersionBump.Log.Record
import VersionBump.Pattern.Reader
import VersionBump.Program.Search
import VersionBump.Text.Fields

/-!
# Which records are shown

A text of settings says which log records are shown.  It is a list of parts separated by commas,
perhaps followed by a slash and a pattern that the shown messages must match:

* `level` sets the level for every source;
* `name=level` sets it for the sources that start with `name`, and `name` or `name=` lets all their
  records through.

The setting with the longest fitting name decides.  Without a setting of its own the level for
every source is `info`.  A part that makes no sense is left out, with a warning.

The text is read twice, before and after the default level is set, so each warning comes twice, and
the default comes after the names that the text sets.
-/

namespace VersionBump.Log

open Text (fields)

/-- Up to which level records are shown. -/
inductive Verbosity where
  | off
  | upTo (level : Level)
deriving DecidableEq

/-- Whether a record of some level is shown. -/
def Verbosity.shows (verbosity : Verbosity) (level : Level) : Bool :=
  match verbosity with
  | .off => false
  | .upTo last => decide (level.rank ≤ last.rank)

/-- The verbosity that a word names, in any case. -/
def Verbosity.ofName? (name : List Char) : Option Verbosity :=
  match String.ofList (name.map Char.toLower) with
  | "off" => some .off
  | "error" => some (.upTo .error)
  | "warn" => some (.upTo .warn)
  | "info" => some (.upTo .info)
  | "debug" => some (.upTo .debug)
  | "trace" => some (.upTo .trace)
  | _ => none

/-- A setting: the verbosity for the sources that start with a name, or for every source. -/
structure Directive where
  name : Option (List Char)
  verbosity : Verbosity

/-! ## Reading -/

/-- A text without the white space at its ends. -/
def trim (text : List Char) : List Char :=
  ((text.dropWhile Unicode.isWhiteSpace).reverse.dropWhile Unicode.isWhiteSpace).reverse

/-- What a part of the settings says: a directive, or nothing and a text to warn about. -/
inductive Part where
  | directive (directive : Directive)
  | senseless (text : List Char)

/-- Reads a part, which is not blank. -/
def Part.read (part : List Char) : Part :=
  match fields '=' part with
  | [word] =>
    match Verbosity.ofName? word with
    | some verbosity => .directive ⟨none, verbosity⟩
    | none => .directive ⟨some word, .upTo .trace⟩
  | [name, level] =>
    if (trim level).isEmpty then .directive ⟨some name, .upTo .trace⟩
    else
      match Verbosity.ofName? (trim level) with
      | some verbosity => .directive ⟨some name, verbosity⟩
      | none => .senseless (trim level)
  | _ => .senseless part

/-- The parts of the settings that are not blank. -/
def readParts (text : List Char) : List Part :=
  (((fields ',' text).map trim).filter fun part => !part.isEmpty).map Part.read

/-- The directive of a part. -/
def Part.directive? : Part → Option Directive
  | .directive d => some d
  | .senseless _ => none

/-- The warning about a part. -/
def Part.warning? : Part → Option String
  | .directive _ => none
  | .senseless text =>
    some ("warning: invalid logging spec '" ++ String.ofList text ++ "', ignoring it\n")

/-! ## Settings -/

/-- Which records are shown. -/
structure Settings where
  directives : List Directive
  /-- The pattern that messages must match. -/
  filter : Option Pattern
  /-- The warnings about the text of the settings. -/
  warnings : String

/-- Adds a directive, in place of one for the same name if there is one. -/
def insertDirective (directives : List Directive) (d : Directive) : List Directive :=
  if directives.any (·.name == d.name) then
    directives.map fun e => if e.name = d.name then d else e
  else directives ++ [d]

/-- What a text of settings says. -/
structure Reading where
  directives : List Directive
  filter : Option Pattern
  warnings : String

/-- The directives and warnings of the parts of a text, with a pattern for messages. -/
def Reading.ofParts (parts : List Part) (filter : Option Pattern) : Reading :=
  ⟨parts.filterMap Part.directive?, filter, String.join (parts.filterMap Part.warning?)⟩

/-- Reads a text of settings.  With more than one slash it says nothing, and what follows the slash
is left out if it is no pattern.  The warning about such a pattern stops where that of the program
goes on to say what is wrong with it. -/
def Reading.ofText (text : List Char) : Reading :=
  match fields '/' text with
  | [spec] => .ofParts (readParts spec) none
  | [spec, source] =>
    let reading := Reading.ofParts (readParts spec) (Pattern.ofChars? source)
    if reading.filter.isSome then reading
    else { reading with warnings := reading.warnings ++ "warning: invalid regex filter\n" }
  | _ =>
    ⟨[], none,
      "warning: invalid logging spec '" ++ String.ofList text ++
        "', ignoring it (too many '/'s)\n"⟩

/-- The level for every source unless it is set. -/
def defaultDirective : Directive := ⟨none, .upTo .info⟩

/-- **The settings** that a text gives, or that hold without one. -/
def Settings.read (text : Option String) : Settings :=
  match text with
  | none => ⟨[defaultDirective], none, ""⟩
  | some text =>
    let reading := Reading.ofText text.toList
    let before := insertDirective (reading.directives.foldl insertDirective []) defaultDirective
    ⟨reading.directives.foldl insertDirective before, reading.filter,
      reading.warnings ++ reading.warnings⟩

/-! ## Decisions -/

/-- The length of the name of a directive. -/
def Directive.length (d : Directive) : Nat :=
  match d.name with
  | none => 0
  | some name => name.length

/-- Whether a directive speaks of the program's own records. -/
def Directive.applies (d : Directive) : Bool :=
  match d.name with
  | none => true
  | some name => name.isPrefixOf source.toList

/-- The directive with the longest name among those that apply; of two, the later one. -/
def decisive (directives : List Directive) : Option Directive :=
  (directives.filter Directive.applies).foldl
    (fun best d =>
      match best with
      | some b => if b.length ≤ d.length then some d else some b
      | none => some d)
    none

/-- **Which records are shown.**  The decisive directive allows the level, and the message has a
match of the pattern. -/
def Settings.shows (settings : Settings) (record : Record) : Bool :=
  ((decisive settings.directives).any fun d => d.verbosity.shows record.level) &&
    settings.filter.all fun p => (p.search "" record.message.toList.toArray).isSome

end VersionBump.Log
