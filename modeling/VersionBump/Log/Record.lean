/-!
# Log records

What the program reports while it works: records with a level and a message.  `Log.render` writes
records as lines; `indent` keeps the lines of one message together, since every line but the first
starts with blanks.
-/

namespace VersionBump.Log

/-- How important a record is. -/
inductive Level where
  | error
  | warn
  | info
  | debug
  | trace
deriving DecidableEq

/-- The levels counted from the most severe one. -/
def Level.rank : Level → Nat
  | .error => 1
  | .warn => 2
  | .info => 3
  | .debug => 4
  | .trace => 5

/-- The name of a level. -/
def Level.name : Level → String
  | .error => "ERROR"
  | .warn => "WARN"
  | .info => "INFO"
  | .debug => "DEBUG"
  | .trace => "TRACE"

/-- A log record. -/
structure Record where
  level : Level
  message : String
deriving DecidableEq

/-- The part of the program that reports, as log lines and settings name it. -/
def source : String := "up_version::updater"

/-- A message with four blanks after every line break. -/
def indent (message : List Char) : List Char :=
  message.flatMap fun c => if c = '\n' then ['\n', ' ', ' ', ' ', ' '] else [c]

/-- The name of a level, filled up with blanks to five characters. -/
def Level.padded (level : Level) : List Char :=
  level.name.toList ++ List.replicate (5 - level.name.toList.length) ' '

/-- **One record as text**: level and source in brackets, then the message. -/
def Record.chars (record : Record) : List Char :=
  '[' :: record.level.padded ++ ' ' :: source.toList ++ ']' :: ' ' ::
    indent record.message.toList ++ ['\n']

/-- Records as text, in order. -/
def render (records : List Record) : String :=
  String.ofList (records.flatMap Record.chars)

end VersionBump.Log
