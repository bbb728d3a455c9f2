/-!
# Showing bytes as text

Arguments are bytes and need not be text.  To show them in a message, `Text.lossy` decodes UTF-8
and puts one replacement character for each part that cannot belong to a character: the longest
start of a well-formed sequence, or else a single byte.

The decoder reads byte by byte.  Between two bytes of a character it holds how many more bytes the
character takes and in which range the next one must lie.
-/

namespace VersionBump.Text

/-- A character of which some bytes have been read. -/
structure Pending where
  /-- The bits read so far. -/
  value : Nat
  /-- How many bytes are still to come. -/
  owed : Nat
  /-- The least value that the next byte may have. -/
  low : Nat
  /-- The greatest value that the next byte may have. -/
  high : Nat

/-- What a byte at the start of a character means: a whole character, the start of one, or
nothing. -/
inductive Lead where
  | whole (c : Char)
  | opening (pending : Pending)
  | broken

/-- The meaning of a first byte. -/
def Lead.ofByte (b : Nat) : Lead :=
  if b < 0x80 then .whole (Char.ofNat b)
  else if 0xC2 ≤ b ∧ b ≤ 0xDF then .opening ⟨b - 0xC0, 1, 0x80, 0xBF⟩
  else if b = 0xE0 then .opening ⟨0, 2, 0xA0, 0xBF⟩
  else if b = 0xED then .opening ⟨0xD, 2, 0x80, 0x9F⟩
  else if 0xE1 ≤ b ∧ b ≤ 0xEF then .opening ⟨b - 0xE0, 2, 0x80, 0xBF⟩
  else if b = 0xF0 then .opening ⟨0, 3, 0x90, 0xBF⟩
  else if 0xF1 ≤ b ∧ b ≤ 0xF3 then .opening ⟨b - 0xF0, 3, 0x80, 0xBF⟩
  else if b = 0xF4 then .opening ⟨4, 3, 0x80, 0x8F⟩
  else .broken

/-- The replacement character. -/
def replacement : Char := Char.ofNat 0xFFFD

/-- What a first byte adds to the text, and what it leaves open. -/
def startChar (b : Nat) : List Char × Option Pending :=
  match Lead.ofByte b with
  | .whole c => ([c], none)
  | .opening pending => ([], some pending)
  | .broken => ([replacement], none)

/-- What the next byte adds to the text, and what it leaves open. -/
def feed (pending : Option Pending) (b : Nat) : List Char × Option Pending :=
  match pending with
  | none => startChar b
  | some p =>
    if p.low ≤ b ∧ b ≤ p.high then
      let value := 64 * p.value + (b - 0x80)
      if p.owed ≤ 1 then ([Char.ofNat value], none)
      else ([], some ⟨value, p.owed - 1, 0x80, 0xBF⟩)
    else
      let (chars, left) := startChar b
      (replacement :: chars, left)

/-- The characters of the remaining bytes. -/
def decodeFrom (pending : Option Pending) : List UInt8 → List Char
  | [] => if pending.isSome then [replacement] else []
  | b :: bs =>
    let (chars, pending) := feed pending b.toNat
    chars ++ decodeFrom pending bs

/-- **Lossy decoding.**  The text that bytes write, with replacement characters where they write
none. -/
def lossy (bytes : List UInt8) : String :=
  String.ofList (decodeFrom none bytes)

/-- The text that bytes write, if they are well-formed. -/
def decode? (bytes : List UInt8) : Option String :=
  String.fromUTF8? ⟨bytes.toArray⟩

end VersionBump.Text
