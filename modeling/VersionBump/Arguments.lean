import VersionBump.Text.Lossy
import VersionBump.Text.Similarity
import VersionBump.UpdateError

/-!
# Arguments of the command line

The program takes versions as arguments and has two options, `--help` and `--version` (`-h`, `-V`).
An option is only recognised as the first argument: after a value every argument is a value, and
`--` as the first argument says that all others are values.

Arguments are bytes.  `parse` gives the values, which must be text, or the reason why it stops;
`single` asks that there be exactly one value.
-/

namespace VersionBump.Arguments

/-- The options. -/
inductive Builtin where
  | help
  | version
deriving DecidableEq

/-- The long name of an option. -/
def Builtin.name : Builtin → String
  | .help => "help"
  | .version => "version"

/-- The bytes of an ASCII text. -/
def ascii (text : String) : List UInt8 :=
  text.toList.map fun c => UInt8.ofNat c.toNat

/-! ## The shape of an argument -/

/-- What the first argument can be. -/
inductive Shape where
  /-- `--`: values follow. -/
  | separator
  /-- An option. -/
  | option (builtin : Builtin)
  /-- An option with a value that it does not take. -/
  | optionWithValue (builtin : Builtin) (value : List UInt8)
  /-- A long option whose name is not text. -/
  | unknownOption (name : List UInt8)
  /-- Anything else. -/
  | value

/-- The option with a long name. -/
def Builtin.ofName? (name : List UInt8) : Option Builtin :=
  if name = ascii "help" then some .help
  else if name = ascii "version" then some .version
  else none

/-- The option with a letter. -/
def Builtin.ofLetter? (letter : UInt8) : Option Builtin :=
  if letter = 0x68 then some .help
  else if letter = 0x56 then some .version
  else none

/-- The shape of an argument that starts with two hyphens, given what follows them. -/
def Shape.ofLong (rest : List UInt8) : Shape :=
  if rest.isEmpty then .separator
  else
    let name := rest.takeWhile (· ≠ 0x3D)
    if (Text.decode? name).isNone then .unknownOption name
    else
      match Builtin.ofName? name, rest.dropWhile (· ≠ 0x3D) with
      | some builtin, [] => .option builtin
      | some builtin, _ :: given => .optionWithValue builtin given
      | none, _ => .value

/-- The shape of an argument that starts with one hyphen, given what follows it: option letters
may stand together, and the first of them counts. -/
def Shape.ofShort (letters : List UInt8) : Shape :=
  match letters.mapM Builtin.ofLetter? with
  | some (builtin :: _) => .option builtin
  | _ => .value

/-- **The shape of the first argument.** -/
def Shape.of (argument : List UInt8) : Shape :=
  match argument with
  | 0x2D :: 0x2D :: rest => .ofLong rest
  | 0x2D :: letters => .ofShort letters
  | _ => .value

/-! ## Parsing -/

/-- Why parsing stops without values. -/
inductive Stop where
  /-- An option asks for a text. -/
  | request (builtin : Builtin)
  /-- An option has a value that it does not take. -/
  | unexpectedValue (builtin : Builtin) (value : String)
  /-- There is no such option. -/
  | unknownOption (name : String)
  /-- A value is not text. -/
  | notText

/-- The values as texts. -/
def decodeValues (values : List (List UInt8)) : Except Stop (List String) :=
  match values.mapM Text.decode? with
  | some values => .ok values
  | none => .error .notText

/-- **Parsing.**  The values among the arguments. -/
def parse (arguments : List (List UInt8)) : Except Stop (List String) :=
  match arguments with
  | [] => .ok []
  | first :: rest =>
    match Shape.of first with
    | .separator => decodeValues rest
    | .option builtin => .error (.request builtin)
    | .optionWithValue builtin value => .error (.unexpectedValue builtin (Text.lossy value))
    | .unknownOption name => .error (.unknownOption (Text.lossy name))
    | .value => decodeValues (first :: rest)

/-- The one value, if there is exactly one. -/
def single (program : String) (values : List String) : Except UpdateError String :=
  match values with
  | [value] => .ok value
  | _ => .error (.usage program)

/-! ## Messages -/

/-- The usage line, with the option that is in use or meant. -/
def usageLine (builtin : Option Builtin) : String :=
  match builtin with
  | none => "Usage: up-version [VERSION]...\n"
  | some b => "Usage: up-version --" ++ b.name ++ " [VERSION]...\n"

/-- The text that `--help` asks for. -/
def helpText : String :=
  "A CLI tool for bumping the version marker in a fixed set of project files\n\n" ++
  usageLine none ++
  "\nArguments:\n  [VERSION]...  The new version, e.g. 1.2.3\n" ++
  "\nOptions:\n  -h, --help     Print help\n  -V, --version  Print version\n"

/-- The text that `--version` asks for. -/
def versionText : String := "up-version 0.1.0\n"

/-- The option that an unknown one may have been meant to be: of two similar ones the more similar,
and of two that are equally so the last. -/
def suggestion? (name : String) : Option Builtin :=
  let similarity := fun (b : Builtin) => Text.similarity name.toList b.name.toList
  let similar := fun (b : Builtin) => Text.areSimilar name.toList b.name.toList
  if similar .version && !(similar .help && (similarity .version).less (similarity .help)) then
    some .version
  else if similar .help then some .help
  else none

/-- An error with a usage line. -/
def errorText (what : String) (builtin : Option Builtin) : String :=
  "error: " ++ what ++ "\n\n" ++ usageLine builtin ++ "\nFor more information, try '--help'.\n"

/-- The text with which parsing stops. -/
def Stop.message : Stop → String
  | .request .help => helpText
  | .request .version => versionText
  | .unexpectedValue b value =>
    errorText
      ("unexpected value '" ++ value ++ "' for '--" ++ b.name ++ "' found; no more were expected")
      (some b)
  | .unknownOption name =>
    let tip := match suggestion? name with
      | some b => "a similar argument exists: '--" ++ b.name ++ "'"
      | none => "to pass '--" ++ name ++ "' as a value, use '-- --" ++ name ++ "'"
    errorText ("unexpected argument '--" ++ name ++ "' found\n\n  tip: " ++ tip) (suggestion? name)
  | .notText => errorText "invalid UTF-8 was detected in one or more arguments" none

/-- Whether parsing stops because of an error, not because a text was asked for. -/
def Stop.isError : Stop → Bool
  | .request _ => false
  | _ => true

end VersionBump.Arguments
