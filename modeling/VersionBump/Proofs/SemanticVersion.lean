import Mathlib.Data.Nat.Digits.Defs
import VersionBump.Proofs.Text.Fields
import VersionBump.SemanticVersion

/-!
# The grammar of semantic versions

`Grammar.Version` says which texts are semantic versions: a text is one if it is made of three
numbers, a tag and build metadata in a row, where tag and metadata may be missing.  Nothing in it
says how such a text is read.

Reading cuts a text at marks and checks the pieces.  A mark does not stand in the pieces before it,
so the cuts fall where the grammar has its parts, and reading succeeds exactly on the texts of the
grammar (`isSemanticVersion_iff`).  The grammar then tells the characters of a semantic version
(`isVersionChar_of_isSemanticVersion`): letters, digits, hyphens, dots and plus signs.  In particular
it has no line break, no angle bracket and no quote.
-/

namespace VersionBump

/-! ## The grammar -/

namespace Grammar

/-- A decimal digit. -/
def IsDigit (c : Char) : Prop := '0' ≤ c ∧ c ≤ '9'
deriving Decidable

/-- The number that digits write, the last of them being the ones. -/
def value (digits : List Char) : Nat :=
  Nat.ofDigits 10 (digits.reverse.map fun c => c.toNat - '0'.toNat)

/-- Digits without a zero in front that they do not need. -/
def NoSpareZero (digits : List Char) : Prop := digits.head? = some '0' → digits = ['0']

/-- **A number** of a version. -/
@[mk_iff]
structure Number (digits : List Char) : Prop where
  nonempty : digits ≠ []
  decimal : ∀ c ∈ digits, IsDigit c
  minimal : NoSpareZero digits
  bounded : value digits ≤ 18446744073709551615

/-- A character of an identifier. -/
def IsIdentifierChar (c : Char) : Prop :=
  IsDigit c ∨ ('A' ≤ c ∧ c ≤ 'Z') ∨ ('a' ≤ c ∧ c ≤ 'z') ∨ c = '-'
deriving Decidable

/-- **An identifier** of build metadata. -/
@[mk_iff]
structure BuildIdentifier (s : List Char) : Prop where
  nonempty : s ≠ []
  chars : ∀ c ∈ s, IsIdentifierChar c

/-- **An identifier** of a pre-release tag.  One of digits only is a number of any size. -/
@[mk_iff]
structure PreReleaseIdentifier (s : List Char) : Prop extends BuildIdentifier s where
  minimal : (∀ c ∈ s, IsDigit c) → NoSpareZero s

/-- Identifiers separated by dots, at least one. -/
def Dotted (Identifier : List Char → Prop) (text : List Char) : Prop :=
  ∃ identifiers, identifiers ≠ [] ∧ (∀ s ∈ identifiers, Identifier s) ∧
    text = ['.'].intercalate identifiers

/-- A part after its mark, or nothing. -/
inductive Optional (mark : Char) (Part : List Char → Prop) : List Char → Prop
  | absent : Optional mark Part []
  | present {part : List Char} (h : Part part) : Optional mark Part (mark :: part)

/-- A pre-release tag with its hyphen, or nothing. -/
def Tag : List Char → Prop := Optional '-' (Dotted PreReleaseIdentifier)

/-- Build metadata with their plus sign, or nothing. -/
def Metadata : List Char → Prop := Optional '+' (Dotted BuildIdentifier)

/-- **The grammar**: `MAJOR.MINOR.PATCH[-PRE][+BUILD]`. -/
inductive Version : List Char → Prop
  | parts {major minor patch tag metadata : List Char} (hmajor : Number major)
      (hminor : Number minor) (hpatch : Number patch) (htag : Tag tag)
      (hmetadata : Metadata metadata) :
      Version (major ++ '.' :: minor ++ '.' :: patch ++ tag ++ metadata)

end Grammar

namespace SemanticVersion

open Grammar

/-! ## Characters, numbers and identifiers -/

lemma isDigit_iff {c : Char} : c.isDigit = true ↔ IsDigit c := by
  change (decide ('0'.val ≤ c.val) && decide (c.val ≤ '9'.val)) = true ↔ _
  rw [Bool.and_eq_true, decide_eq_true_iff, decide_eq_true_iff]
  rfl

lemma isUpper_iff {c : Char} : c.isUpper = true ↔ 'A' ≤ c ∧ c ≤ 'Z' := by
  change decide ('A'.val ≤ c.val ∧ c.val ≤ 'Z'.val) = true ↔ _
  rw [decide_eq_true_iff]
  rfl

lemma isLower_iff {c : Char} : c.isLower = true ↔ 'a' ≤ c ∧ c ≤ 'z' := by
  change (decide ('a'.val ≤ c.val) && decide (c.val ≤ 'z'.val)) = true ↔ _
  rw [Bool.and_eq_true, decide_eq_true_iff, decide_eq_true_iff]
  rfl

lemma isIdentifierChar_iff {c : Char} : isIdentifierChar c = true ↔ IsIdentifierChar c := by
  change (c.isUpper || c.isLower || c.isDigit || c == '-') = true ↔ _
  simp only [Bool.or_eq_true, isUpper_iff, isLower_iff, isDigit_iff, beq_iff_eq, IsIdentifierChar]
  tauto

lemma hasLeadingZero_eq_false_iff {digits : List Char} :
    hasLeadingZero digits = false ↔ NoSpareZero digits := by
  match digits with
  | [] => simp [hasLeadingZero, NoSpareZero]
  | [c] => simp [hasLeadingZero, NoSpareZero]
  | c :: d :: rest => by_cases hc : c = '0' <;> simp [hasLeadingZero, NoSpareZero, hc]

/-- Digits read from the front write the same number. -/
lemma foldl_eq_value (digits : List Char) :
    digits.foldl (fun n c => 10 * n + (c.toNat - '0'.toNat)) 0 = value digits := by
  rw [value, Nat.ofDigits_eq_foldr, List.foldr_map, List.foldr_reverse]
  simp [Nat.add_comm]

lemma isSome_number?_iff {digits : List Char} :
    (number? digits).isSome = true ↔ Number digits := by
  rw [number?, foldl_eq_value, Option.isSome_ite, List.all_eq_true, hasLeadingZero_eq_false_iff,
    number_iff]
  simp only [isDigit_iff, numberLimit]

lemma isBuildIdentifier_iff {s : List Char} :
    isBuildIdentifier s = true ↔ BuildIdentifier s := by
  simp only [isBuildIdentifier, Bool.and_eq_true, Bool.not_eq_true', List.isEmpty_eq_false_iff,
    List.all_eq_true, isIdentifierChar_iff, buildIdentifier_iff]

lemma isPreReleaseIdentifier_iff {s : List Char} :
    isPreReleaseIdentifier s = true ↔ PreReleaseIdentifier s := by
  have hzero : (s.all Char.isDigit && hasLeadingZero s) = false ↔
      ((∀ c ∈ s, IsDigit c) → NoSpareZero s) := by
    rw [Bool.and_eq_false_imp, List.all_eq_true, hasLeadingZero_eq_false_iff]
    simp only [isDigit_iff]
  rw [isPreReleaseIdentifier, Bool.and_eq_true, isBuildIdentifier_iff, Bool.not_eq_true', hzero,
    preReleaseIdentifier_iff]

/-! ## Lists of identifiers -/

/-- **A list of identifiers** is one that falls into identifiers at its dots. -/
lemma dotted_iff {Identifier : List Char → Prop} {valid : List Char → Bool}
    (hvalid : ∀ s, valid s = true ↔ Identifier s)
    (hbuild : ∀ s, Identifier s → BuildIdentifier s) {text : List Char} :
    Dotted Identifier text ↔ (Text.fields '.' text).all valid = true := by
  constructor
  · rintro ⟨identifiers, hne, hall, htext⟩
    have hdot : ∀ s ∈ identifiers, '.' ∉ s := by
      intro s hs hmem
      exact absurd ((hbuild s (hall s hs)).chars '.' hmem) (by decide)
    rw [Text.fields_eq_iff.2 ⟨hne, hdot, htext⟩, List.all_eq_true]
    exact fun s hs => (hvalid s).2 (hall s hs)
  · intro hall
    obtain ⟨hne, -, htext⟩ := Text.fields_eq_iff.1 (rfl : Text.fields '.' text = _)
    exact ⟨_, hne, fun s hs => (hvalid s).1 (List.all_eq_true.1 hall s hs), htext⟩

/-- **A part that may be missing** is checked if it is there. -/
lemma optional_iff {Identifier : List Char → Prop} {valid : List Char → Bool}
    (hvalid : ∀ s, valid s = true ↔ Identifier s)
    (hbuild : ∀ s, Identifier s → BuildIdentifier s) {mark : Char} {part : Option (List Char)} :
    Optional mark (Dotted Identifier) (Text.withMark mark part) ↔
      (identifiers? valid part).isSome = true := by
  cases part with
  | none => exact iff_of_true .absent rfl
  | some text =>
      rw [identifiers?, Option.isSome_ite, ← dotted_iff hvalid hbuild]
      constructor
      · rintro (_ | h)
        exact h
      · exact .present

lemma tag_iff {tag : Option (List Char)} :
    Tag (Text.withMark '-' tag) ↔ (identifiers? isPreReleaseIdentifier tag).isSome = true :=
  optional_iff (fun _ => isPreReleaseIdentifier_iff) fun _ h => h.toBuildIdentifier

lemma metadata_iff {metadata : Option (List Char)} :
    Metadata (Text.withMark '+' metadata) ↔
      (identifiers? isBuildIdentifier metadata).isSome = true :=
  optional_iff (fun _ => isBuildIdentifier_iff) fun _ h => h

/-! ## Reading -/

/-- A version is read if its text falls into parts that are valid. -/
lemma isSome_parseChars?_iff {text : List Char} :
    (parseChars? text).isSome = true ↔
      ∃ front build core tag major minor patch,
        Text.cutAt '+' text = (front, build) ∧ Text.cutAt '-' front = (core, tag) ∧
        Text.fields '.' core = [major, minor, patch] ∧
        (number? major).isSome = true ∧ (number? minor).isSome = true ∧
        (number? patch).isSome = true ∧
        (identifiers? isPreReleaseIdentifier tag).isSome = true ∧
        (identifiers? isBuildIdentifier build).isSome = true := by
  constructor
  · intro h
    obtain ⟨version, hversion⟩ := Option.isSome_iff_exists.1 h
    simp only [parseChars?] at hversion
    split at hversion
    · next major minor patch hfields =>
        simp only [bind, Option.bind_eq_some_iff] at hversion
        obtain ⟨a, ha, b, hb, c, hc, tag, htag, build, hbuild, -⟩ := hversion
        exact ⟨_, _, _, _, major, minor, patch, rfl, rfl, hfields, by simp [ha], by simp [hb],
          by simp [hc], by simp [htag], by simp [hbuild]⟩
    · cases hversion
  · rintro ⟨front, build, core, tag, major, minor, patch, hfront, hcore, hfields, ha, hb, hc,
      htag, hbuild⟩
    obtain ⟨a, ha⟩ := Option.isSome_iff_exists.1 ha
    obtain ⟨b, hb⟩ := Option.isSome_iff_exists.1 hb
    obtain ⟨c, hc⟩ := Option.isSome_iff_exists.1 hc
    obtain ⟨tag', htag⟩ := Option.isSome_iff_exists.1 htag
    obtain ⟨build', hbuild⟩ := Option.isSome_iff_exists.1 hbuild
    simp [parseChars?, hfront, hcore, hfields, ha, hb, hc, htag, hbuild]

end SemanticVersion

namespace Grammar

/-! ## Where the marks stand -/

/-- No mark is a digit. -/
lemma Number.notMem {digits : List Char} (h : Number digits) {c : Char} (hc : ¬ IsDigit c) :
    c ∉ digits := fun hmem => hc (h.decimal c hmem)

/-- The characters of three numbers with dots between them. -/
lemma chars_of_numbers {major minor patch : List Char} (hmajor : Number major)
    (hminor : Number minor) (hpatch : Number patch) :
    ∀ c ∈ major ++ '.' :: minor ++ '.' :: patch, IsDigit c ∨ c = '.' := by
  intro c hc
  simp only [List.append_assoc, List.cons_append, List.mem_append, List.mem_cons] at hc
  rcases hc with hc | rfl | hc | rfl | hc
  · exact Or.inl (hmajor.decimal c hc)
  · exact Or.inr rfl
  · exact Or.inl (hminor.decimal c hc)
  · exact Or.inr rfl
  · exact Or.inl (hpatch.decimal c hc)

/-- The characters of a list of identifiers. -/
lemma Dotted.chars {Identifier : List Char → Prop}
    (hbuild : ∀ s, Identifier s → BuildIdentifier s) {text : List Char}
    (h : Dotted Identifier text) : ∀ c ∈ text, IsIdentifierChar c ∨ c = '.' := by
  obtain ⟨identifiers, -, hall, rfl⟩ := h
  induction identifiers with
  | nil => simp
  | cons s rest ih =>
      have hs := (hbuild s (hall s (by simp))).chars
      have hrest := ih fun s' hs' => hall s' (by simp [hs'])
      cases rest with
      | nil => simpa using fun c hc => Or.inl (hs c hc)
      | cons t rest =>
          intro c hc
          rw [List.intercalate_cons_cons] at hc
          simp only [List.append_assoc, List.mem_append, List.mem_singleton] at hc
          rcases hc with hc | rfl | hc
          · exact Or.inl (hs c hc)
          · exact Or.inr rfl
          · exact hrest c hc

lemma Optional.exists_withMark {mark : Char} {Part : List Char → Prop} {text : List Char}
    (h : Optional mark Part text) : ∃ part, text = Text.withMark mark part := by
  cases h with
  | absent => exact ⟨none, rfl⟩
  | @present part _ => exact ⟨some part, rfl⟩

/-- The hyphen of a tag is a character of its identifiers as well. -/
lemma Tag.chars {tag : List Char} (h : Tag tag) : ∀ c ∈ tag, IsIdentifierChar c ∨ c = '.' := by
  cases h with
  | absent => simp
  | present h =>
      rw [List.forall_mem_cons]
      exact ⟨by decide, h.chars fun _ h => h.toBuildIdentifier⟩

lemma Metadata.chars {metadata : List Char} (h : Metadata metadata) :
    ∀ c ∈ metadata, IsIdentifierChar c ∨ c = '.' ∨ c = '+' := by
  cases h with
  | absent => simp
  | present h =>
      rw [List.forall_mem_cons]
      exact ⟨by decide, fun c hc => (h.chars (fun _ h => h) c hc).imp_right Or.inl⟩

/-- What stands before the metadata. -/
lemma chars_of_front {major minor patch tag : List Char} (hmajor : Number major)
    (hminor : Number minor) (hpatch : Number patch) (htag : Tag tag) :
    ∀ c ∈ major ++ '.' :: minor ++ '.' :: patch ++ tag, IsIdentifierChar c ∨ c = '.' := by
  intro c hc
  rcases List.mem_append.1 hc with hc | hc
  · exact (chars_of_numbers hmajor hminor hpatch c hc).imp_left Or.inl
  · exact htag.chars c hc

end Grammar

/-! ## The main statements -/

open Grammar SemanticVersion

/-- **Reading follows the grammar.** -/
theorem isSemanticVersion_iff {version : String} :
    isSemanticVersion version = true ↔ Version version.toList := by
  rw [isSemanticVersion, parse?, isSome_parseChars?_iff]
  generalize version.toList = text
  constructor
  · rintro ⟨front, build, core, tag, major, minor, patch, hfront, hcore, hfields, hmajor, hminor,
      hpatch, htag, hbuild⟩
    obtain ⟨-, htext⟩ := Text.cutAt_eq_iff.1 hfront
    obtain ⟨-, hfront⟩ := Text.cutAt_eq_iff.1 hcore
    obtain ⟨-, -, hcore⟩ := Text.fields_eq_iff.1 hfields
    have hversion := Version.parts (isSome_number?_iff.1 hmajor) (isSome_number?_iff.1 hminor)
      (isSome_number?_iff.1 hpatch) (tag_iff.2 htag) (metadata_iff.2 hbuild)
    rw [htext, hfront, hcore]
    simpa [List.intercalate_cons_cons] using hversion
  · rintro @⟨major, minor, patch, tag, metadata, hmajor, hminor, hpatch, htag, hmetadata⟩
    obtain ⟨tag, rfl⟩ := htag.exists_withMark
    obtain ⟨build, rfl⟩ := hmetadata.exists_withMark
    -- no mark stands before its own place, so each cut falls where the grammar has it
    have hfront : '+' ∉ major ++ '.' :: minor ++ '.' :: patch ++ Text.withMark '-' tag :=
      fun hmem => absurd (chars_of_front hmajor hminor hpatch htag _ hmem) (by decide)
    have hcore : '-' ∉ major ++ '.' :: minor ++ '.' :: patch :=
      fun hmem => absurd (chars_of_numbers hmajor hminor hpatch _ hmem) (by decide)
    have hdots :
        Text.fields '.' (major ++ '.' :: minor ++ '.' :: patch) = [major, minor, patch] := by
      refine Text.fields_eq_iff.2 ⟨by simp, ?_, by simp [List.intercalate_cons_cons]⟩
      simpa using ⟨hmajor.notMem (by decide), hminor.notMem (by decide), hpatch.notMem (by decide)⟩
    exact ⟨_, build, _, tag, major, minor, patch, Text.cutAt_append hfront build,
      Text.cutAt_append hcore tag, hdots, isSome_number?_iff.2 hmajor, isSome_number?_iff.2 hminor,
      isSome_number?_iff.2 hpatch, tag_iff.1 htag, metadata_iff.1 hmetadata⟩

instance (version : String) : Decidable (Version version.toList) :=
  decidable_of_iff _ isSemanticVersion_iff

example : Version "1.0.0--".toList ∧ Version "1.0.0+a-b.01".toList ∧
    ¬ Version "1.0.0-a.01".toList ∧ ¬ Version "0.0.18446744073709551616".toList := by decide

/-- The characters of semantic versions. -/
def SemanticVersion.isVersionChar (c : Char) : Bool := isIdentifierChar c || c == '.' || c == '+'

/-- **The characters of a semantic version.** -/
theorem isVersionChar_of_isSemanticVersion {version : String}
    (h : isSemanticVersion version = true) :
    ∀ c ∈ version.toList, SemanticVersion.isVersionChar c = true := by
  have hversion := isSemanticVersion_iff.1 h
  generalize version.toList = text at hversion ⊢
  obtain @⟨major, minor, patch, tag, metadata, hmajor, hminor, hpatch, htag, hmetadata⟩ := hversion
  intro c hc
  have hchar : IsIdentifierChar c ∨ c = '.' ∨ c = '+' := by
    rcases List.mem_append.1 hc with hc | hc
    · exact (chars_of_front hmajor hminor hpatch htag c hc).imp_right Or.inl
    · exact hmetadata.chars c hc
  simpa [SemanticVersion.isVersionChar, isIdentifierChar_iff, or_assoc] using hchar

end VersionBump
