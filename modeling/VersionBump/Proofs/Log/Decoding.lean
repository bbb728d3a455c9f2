import Mathlib.Tactic.Common
import VersionBump.Log.Record
import VersionBump.Proofs.Text.Fields

/-!
# Log lines can be read back

Versions and paths go into log messages as they are, and may have line breaks and whole log lines in
them.  This file shows that they cannot pass for records of their own: a text of log lines comes
from one list of records only.

The line break after a record is followed by an opening bracket or by nothing, and a line break
inside a message by blanks, so it is enough to look at the character after a line break.

* `decode`: a reader for log lines.
* **`decode_eq_some_iff`**: it gives back the records of a text, and takes no other texts.
* **`render_injective`**: different lists of records are different texts.
-/

namespace VersionBump.Log

open Text

/-! ## Indented messages -/

lemma indent_newline_cons (message : List Char) :
    indent ('\n' :: message) = '\n' :: ' ' :: ' ' :: ' ' :: ' ' :: indent message := by
  simp [indent]

lemma indent_cons {c : Char} (hc : c ≠ '\n') (message : List Char) :
    indent (c :: message) = c :: indent message := by
  simp [indent, hc]

/-- **Indented line by line.**  Between two lines of a message stand a line break and four blanks,
and nothing else is added. -/
lemma indent_eq (message : List Char) :
    indent message = "\n    ".toList.intercalate (fields '\n' message) := by
  induction message with
  | nil => rfl
  | cons c message ih =>
      rw [fields]
      split_ifs with hc
      · subst hc
        rw [indent_newline_cons, ih]
        cases hfields : fields '\n' message with
        | nil => exact absurd hfields (fields_ne_nil _ _)
        | cons line lines => simp [List.intercalate]
      · rw [indent_cons hc, ih]
        cases hfields : fields '\n' message with
        | nil => exact absurd hfields (fields_ne_nil _ _)
        | cons line lines => cases lines <;> simp [List.intercalate]

/-- Reads a message up to the first line break with no blanks after it. -/
def readMessage? : List Char → Option (List Char × List Char)
  | [] => none
  | '\n' :: ' ' :: ' ' :: ' ' :: ' ' :: text => do
    let (message, rest) ← readMessage? text
    some ('\n' :: message, rest)
  | '\n' :: text => some ([], text)
  | c :: text => do
    let (message, rest) ← readMessage? text
    some (c :: message, rest)

/-- A message is read back if no blank follows its record. -/
lemma readMessage?_indent (message : List Char) {rest : List Char} (hrest : rest.head? ≠ some ' ') :
    readMessage? (indent message ++ '\n' :: rest) = some (message, rest) := by
  induction message with
  | nil =>
      cases rest with
      | nil => rfl
      | cons c rest =>
          have hc : c ≠ ' ' := by simpa using hrest
          simp [indent, readMessage?, hc]
  | cons c message ih =>
      by_cases hc : c = '\n'
      · subst hc
        rw [indent_newline_cons]
        simp [readMessage?, ih]
      · rw [indent_cons hc]
        simp [readMessage?, ih, hc]

/-- What was read is an indented message. -/
lemma eq_of_readMessage? {text message rest : List Char}
    (h : readMessage? text = some (message, rest)) : text = indent message ++ '\n' :: rest := by
  fun_induction readMessage? text generalizing message rest with
  | case1 => cases h
  | case2 text ih =>
      obtain ⟨⟨line, after⟩, hline, heq⟩ := Option.bind_eq_some_iff.1 h
      obtain ⟨rfl, rfl⟩ := Prod.mk.inj (Option.some.inj heq)
      rw [indent_newline_cons, ih hline]
      rfl
  | case3 text hblank =>
      obtain ⟨rfl, rfl⟩ := Prod.mk.inj (Option.some.inj h)
      rfl
  | case4 c text hblank hbreak ih =>
      obtain ⟨⟨line, after⟩, hline, heq⟩ := Option.bind_eq_some_iff.1 h
      obtain ⟨rfl, rfl⟩ := Prod.mk.inj (Option.some.inj heq)
      have hc : c ≠ '\n' := by
        rintro rfl
        exact hbreak rfl
      rw [indent_cons hc, ih hline]
      rfl

/-! ## Headers -/

/-- What stands before the message of a record. -/
def Level.header (level : Level) : List Char :=
  '[' :: level.padded ++ ' ' :: source.toList ++ [']', ' ']

/-- Takes a header off a text. -/
def readHeader? (text : List Char) : Option (Level × List Char) :=
  ([.error, .warn, .info, .debug, .trace].find? fun level : Level =>
    level.header.isPrefixOf text).map fun level => (level, text.drop level.header.length)

/-- **A header tells its level.** -/
lemma readHeader?_eq_some_iff {text rest : List Char} {level : Level} :
    readHeader? text = some (level, rest) ↔ text = level.header ++ rest := by
  constructor
  · intro h
    obtain ⟨found, hfound, heq⟩ := Option.map_eq_some_iff.1 h
    obtain ⟨rfl, rfl⟩ := Prod.mk.inj heq
    have hprefix : found.header.isPrefixOf text = true :=
      List.find?_some (p := fun level : Level => level.header.isPrefixOf text) hfound
    obtain ⟨tail, rfl⟩ := List.isPrefixOf_iff_prefix.1 hprefix
    rw [List.drop_left]
  · rintro rfl
    cases level with
    | error => rfl
    | warn => rfl
    | info => rfl
    | debug => rfl
    | trace => rfl

/-! ## Log lines -/

/-- Reads fewer than the given number of records. -/
def readRecords? : Nat → List Char → Option (List Record)
  | 0, _ => none
  | count + 1, text =>
    if text.isEmpty then some []
    else do
      let (level, text) ← readHeader? text
      let (message, text) ← readMessage? text
      let records ← readRecords? count text
      some (⟨level, String.ofList message⟩ :: records)

/-- **The reader** for log lines.  A text has no more records than characters. -/
def decode (text : String) : Option (List Record) :=
  readRecords? (text.toList.length + 1) text.toList

lemma flatMap_chars_cons (record : Record) (records : List Record) :
    (record :: records).flatMap Record.chars = record.level.header ++
      (indent record.message.toList ++ '\n' :: records.flatMap Record.chars) := by
  simp [Record.chars, Level.header]

/-- Log lines do not start with a blank. -/
lemma head?_flatMap_chars (records : List Record) :
    (records.flatMap Record.chars).head? ≠ some ' ' := by
  cases records with
  | nil => simp
  | cons record records => simp [Record.chars]

/-- Every record has a character. -/
lemma length_le_flatMap_chars (records : List Record) :
    records.length ≤ (records.flatMap Record.chars).length := by
  induction records with
  | nil => exact Nat.le_refl _
  | cons record records ih =>
      simp only [List.flatMap_cons, List.length_append, List.length_cons, Record.chars]
      omega

/-- **Log lines are read back.** -/
lemma readRecords?_flatMap (records : List Record) {count : Nat} (hcount : records.length < count) :
    readRecords? count (records.flatMap Record.chars) = some records := by
  induction records generalizing count with
  | nil =>
      cases count with
      | zero => cases hcount
      | succ count => rfl
  | cons record records ih =>
      cases count with
      | zero => cases hcount
      | succ count =>
          have hmessage := readMessage?_indent record.message.toList (head?_flatMap_chars records)
          have hheader := readHeader?_eq_some_iff.2 (flatMap_chars_cons record records)
          have hsome : ¬ ((record :: records).flatMap Record.chars).isEmpty = true := by
            simp [Record.chars]
          rw [readRecords?, if_neg hsome, hheader]
          simp [hmessage, ih (Nat.lt_of_succ_lt_succ hcount)]

/-- What was read are log lines. -/
lemma eq_of_readRecords? {count : Nat} {text : List Char} {records : List Record}
    (h : readRecords? count text = some records) : text = records.flatMap Record.chars := by
  induction count generalizing text records with
  | zero => cases h
  | succ count ih =>
      rw [readRecords?] at h
      split_ifs at h with hempty
      · obtain rfl := Option.some.inj h
        exact List.isEmpty_iff.1 hempty
      · obtain ⟨⟨level, afterHeader⟩, hheader, h⟩ := Option.bind_eq_some_iff.1 h
        obtain ⟨⟨message, afterMessage⟩, hmessage, h⟩ := Option.bind_eq_some_iff.1 h
        obtain ⟨rest, hrest, heq⟩ := Option.bind_eq_some_iff.1 h
        obtain rfl := Option.some.inj heq
        rw [readHeader?_eq_some_iff.1 hheader, eq_of_readMessage? hmessage, ih hrest,
          flatMap_chars_cons, String.toList_ofList]

/-- **Read back and nothing else read.**  A text is read as some records exactly if it is what is
written for these records. -/
theorem decode_eq_some_iff {text : String} {records : List Record} :
    decode text = some records ↔ text = render records := by
  rw [render, ← String.toList_inj, String.toList_ofList]
  constructor
  · exact eq_of_readRecords?
  · intro h
    rw [decode, h]
    exact readRecords?_flatMap records (Nat.lt_succ_of_le (length_le_flatMap_chars records))

/-- A log line in a message stays a part of the message. -/
example : decode "[INFO  up_version::updater] a\n    [WARN  up_version::updater] b\n"
    = some [⟨.info, "a\n[WARN  up_version::updater] b"⟩] := by
  decide +kernel

/-- **No record can be forged.**  A record is written as its level, filled up to five characters,
and its source in brackets, and then its message with four blanks before every line but the first.
Whatever the messages are, different lists of records are written differently. -/
theorem render_injective :
    (∀ records, (render records).toList = records.flatMap fun record =>
      "[".toList ++ record.level.name.toList.rightpad 5 ' ' ++ " up_version::updater] ".toList ++
        "\n    ".toList.intercalate (fields '\n' record.message.toList) ++ "\n".toList) ∧
      Function.Injective render := by
  constructor
  · intro records
    have hchars : ∀ record : Record, record.chars =
        "[".toList ++ record.level.name.toList.rightpad 5 ' ' ++ " up_version::updater] ".toList ++
          indent record.message.toList ++ "\n".toList := by
      intro record
      simp [Record.chars, Level.padded, source, List.rightpad]
    rw [render, String.toList_ofList]
    simp only [← indent_eq, ← hchars]
  · intro records records' h
    have hread := decode_eq_some_iff.2 h
    rw [decode_eq_some_iff.2 rfl] at hread
    exact Option.some.inj hread

end VersionBump.Log
