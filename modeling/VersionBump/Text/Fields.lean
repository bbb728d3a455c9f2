/-!
# Texts made of fields

Versions and settings are lists of fields with a separator between them.  `Text.fields` takes such
a list apart, and `Text.cutAt` cuts a text in two.
-/

namespace VersionBump.Text

/-- **Fields.**  The pieces of a text between occurrences of a separator. -/
def fields (separator : Char) : List Char → List (List Char)
  | [] => [[]]
  | c :: cs =>
    if c = separator then [] :: fields separator cs
    else
      match fields separator cs with
      | [] => [[c]]
      | field :: rest => (c :: field) :: rest

/-- A text up to the first occurrence of a mark, and what follows the mark if there is one. -/
def cutAt (mark : Char) : List Char → List Char × Option (List Char)
  | [] => ([], none)
  | c :: cs =>
    if c = mark then ([], some cs)
    else
      let (before, after) := cutAt mark cs
      (c :: before, after)

end VersionBump.Text
