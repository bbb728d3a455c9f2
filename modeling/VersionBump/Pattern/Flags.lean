/-!
# Flags

A pattern may switch ways of reading on and off, for the rest of a group with `(?i-s)` or for one
group with `(?i-s:...)`.  `Flags` holds the switches in force, and `readFlags` reads a change of
them.
-/

namespace VersionBump.Pattern

/-- A switch. -/
inductive Flag where
  /-- `i`: letters match in either case. -/
  | ignoreCase
  /-- `m`: `^` and `$` match at every line. -/
  | multiLine
  /-- `s`: the dot matches line breaks too. -/
  | dotAll
  /-- `U`: repetitions are lazy, and greedy with a question mark. -/
  | swapGreed
  /-- `u`: classes and case go by all of Unicode, not by ASCII. -/
  | unicode
  /-- `R`: a carriage return ends a line too. -/
  | crlf
  /-- `x`: blanks and comments mean nothing. -/
  | verbose
deriving DecidableEq

/-- The letter of a switch. -/
def Flag.ofChar? : Char → Option Flag
  | 'i' => some .ignoreCase
  | 'm' => some .multiLine
  | 's' => some .dotAll
  | 'U' => some .swapGreed
  | 'u' => some .unicode
  | 'R' => some .crlf
  | 'x' => some .verbose
  | _ => none

/-- The switches in force. -/
structure Flags where
  ignoreCase : Bool := false
  multiLine : Bool := false
  dotAll : Bool := false
  swapGreed : Bool := false
  unicode : Bool := true
  crlf : Bool := false
  verbose : Bool := false

/-- Sets one switch. -/
def Flags.set (flags : Flags) : Flag × Bool → Flags
  | (.ignoreCase, on) => { flags with ignoreCase := on }
  | (.multiLine, on) => { flags with multiLine := on }
  | (.dotAll, on) => { flags with dotAll := on }
  | (.swapGreed, on) => { flags with swapGreed := on }
  | (.unicode, on) => { flags with unicode := on }
  | (.crlf, on) => { flags with crlf := on }
  | (.verbose, on) => { flags with verbose := on }

/-- Sets several switches. -/
def Flags.setAll (flags : Flags) (changes : List (Flag × Bool)) : Flags :=
  changes.foldl Flags.set flags

/-- **A change of flags.**  Reads letters up to `:` or `)`: those before a hyphen are switched on,
those after it off.  No letter and no hyphen may come twice, and the hyphen may not come last.  The
answer has the changes, whether they end with `:` (and so belong to one group), and the rest. -/
def readFlags (changes : List (Flag × Bool)) (negated dangling : Bool) :
    List Char → Option (List (Flag × Bool) × Bool × List Char)
  | [] => none
  | ':' :: cs => if dangling then none else some (changes.reverse, true, cs)
  | ')' :: cs => if dangling then none else some (changes.reverse, false, cs)
  | '-' :: cs => if negated then none else readFlags changes true true cs
  | c :: cs =>
    match Flag.ofChar? c with
    | none => none
    | some flag =>
      if changes.any (·.1 == flag) then none
      else readFlags ((flag, !negated) :: changes) negated false cs

end VersionBump.Pattern
