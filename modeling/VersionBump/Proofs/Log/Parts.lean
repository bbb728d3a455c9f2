import Mathlib.Tactic.Common
import VersionBump.Log.Settings
import VersionBump.Proofs.Text.Fields

/-!
# The parts of the settings

What a text of log settings says, part by part, apart from how it is read.

* `parts`: the parts of a text.  They have its characters, commas and white space aside
  (`mem_parts_iff`).
* `Sets part name verbosity`: what a part says, by its form.  Other parts say nothing.
* **`mem_directivesOf_iff`**: the reader takes from a text what its parts set.
* `Plain`: the characters that separate nothing.  The source and the names of levels are made of
  these (`plain_source`, `plain_of_ofName?`), so a level for the source is always a part by itself.
-/

namespace VersionBump.Log

open Text

/-! ## Parts -/

/-- The parts of a text of settings: what stands between commas, without the white space around it,
unless nothing is left. -/
def parts (text : List Char) : List (List Char) :=
  ((fields ',' text).map trim).filter fun part => !part.isEmpty

lemma readParts_eq (text : List Char) : readParts text = (parts text).map Part.read := rfl

/-- Nothing is trimmed from a text without white space. -/
lemma trim_of_forall {text : List Char} (h : ∀ c ∈ text, Unicode.isWhiteSpace c = false) :
    trim text = text := by
  have hkeep : ∀ l : List Char, (∀ c ∈ l, Unicode.isWhiteSpace c = false) →
      l.dropWhile Unicode.isWhiteSpace = l := by
    intro l hl
    cases l with
    | nil => rfl
    | cons c l => exact List.dropWhile_cons_of_neg (by simp [hl c (by simp)])
  rw [trim, hkeep text h, hkeep _ (by simpa using h), List.reverse_reverse]

/-- What is trimmed away is white space. -/
lemma mem_trim_iff {text : List Char} {c : Char} (hc : Unicode.isWhiteSpace c = false) :
    c ∈ trim text ↔ c ∈ text := by
  have hkeep : ∀ l : List Char, c ∈ l.dropWhile Unicode.isWhiteSpace ↔ c ∈ l := by
    intro l
    induction l with
    | nil => rfl
    | cons d l ih =>
        by_cases hd : Unicode.isWhiteSpace d = true
        · have hne : c ≠ d := by
            rintro rfl
            rw [hc] at hd
            cases hd
          rw [List.dropWhile_cons_of_pos hd, ih, List.mem_cons, or_iff_right hne]
        · rw [List.dropWhile_cons_of_neg hd]
  rw [trim, List.mem_reverse, hkeep, List.mem_reverse, hkeep]

/-- **The parts have the characters of the text**, commas and white space aside. -/
lemma mem_parts_iff {text : List Char} {c : Char} (hcomma : c ≠ ',')
    (hspace : Unicode.isWhiteSpace c = false) : (∃ part ∈ parts text, c ∈ part) ↔ c ∈ text := by
  rw [← exists_mem_fields_iff hcomma]
  constructor
  · rintro ⟨part, hpart, hc⟩
    obtain ⟨field, hfield, rfl⟩ := List.mem_map.1 (List.mem_filter.1 hpart).1
    exact ⟨field, hfield, (mem_trim_iff hspace).1 hc⟩
  · rintro ⟨field, hfield, hc⟩
    have htrim := (mem_trim_iff hspace).2 hc
    refine ⟨trim field, List.mem_filter.2 ⟨List.mem_map_of_mem hfield, ?_⟩, htrim⟩
    simpa using List.ne_nil_of_mem htrim

lemma parts_append (first second : List Char) :
    parts (first ++ ',' :: second) = parts first ++ parts second := by
  rw [parts, fields_append, List.map_append, List.filter_append]
  rfl

/-- Whether a text has a slash shows in its parts. -/
lemma slash_mem_iff {text : List Char} : (∃ part ∈ parts text, '/' ∈ part) ↔ '/' ∈ text :=
  mem_parts_iff (by decide) (by decide +kernel)

/-- A text without commas and white space is one part. -/
lemma parts_of_forall {text : List Char} (hne : text ≠ [])
    (h : ∀ c ∈ text, c ≠ ',' ∧ Unicode.isWhiteSpace c = false) : parts text = [text] := by
  have hfields : fields ',' text = [text] :=
    fields_eq_singleton_iff.2 ⟨fun hmem => (h _ hmem).1 rfl, rfl⟩
  rw [parts, hfields, List.map_singleton, trim_of_forall fun c hc => (h c hc).2,
    List.filter_cons_of_pos (by simpa using hne), List.filter_nil]

/-! ## What a part sets -/

/-- **What a part sets**: the verbosity for a name, or for every source.  A part with an unknown
level or with two equals signs sets nothing. -/
inductive Sets : List Char → Option (List Char) → Verbosity → Prop
  /-- A bare level. -/
  | level {word : List Char} {verbosity : Verbosity} (hword : '=' ∉ word)
      (hlevel : Verbosity.ofName? word = some verbosity) : Sets word none verbosity
  /-- A bare name. -/
  | name {word : List Char} (hword : '=' ∉ word) (hlevel : Verbosity.ofName? word = none) :
      Sets word (some word) (.upTo .trace)
  /-- A name with nothing after the equals sign. -/
  | unlimited {name blank : List Char} (hname : '=' ∉ name) (hequals : '=' ∉ blank)
      (hblank : trim blank = []) : Sets (name ++ '=' :: blank) (some name) (.upTo .trace)
  /-- A name and a level. -/
  | assigned {name level : List Char} {verbosity : Verbosity} (hname : '=' ∉ name)
      (hequals : '=' ∉ level) (hlevel : Verbosity.ofName? (trim level) = some verbosity) :
      Sets (name ++ '=' :: level) (some name) verbosity

/-- No level is named by nothing. -/
lemma trim_ne_nil_of_ofName? {level : List Char} {verbosity : Verbosity}
    (h : Verbosity.ofName? (trim level) = some verbosity) : trim level ≠ [] := by
  intro hempty
  rw [hempty] at h
  cases h

/-- **Reading a part** gives what the part sets. -/
lemma read_eq_directive_iff {part : List Char} {name : Option (List Char)}
    {verbosity : Verbosity} :
    Part.read part = .directive ⟨name, verbosity⟩ ↔ Sets part name verbosity := by
  constructor
  · intro h
    rw [Part.read] at h
    split at h
    · next word hfields =>
        obtain ⟨hword, rfl⟩ := fields_eq_singleton_iff.1 hfields
        split at h
        · next level hlevel =>
            cases h
            exact .level hword hlevel
        · next hlevel =>
            cases h
            exact .name hword hlevel
    · next first level hfields =>
        obtain ⟨⟨hfirst, hequals⟩, rfl⟩ := fields_eq_pair_iff.1 hfields
        split_ifs at h with hblank
        · cases h
          exact .unlimited hfirst hequals (List.isEmpty_iff.1 hblank)
        · split at h
          · next found hlevel =>
              cases h
              exact .assigned hfirst hequals hlevel
          · cases h
    · cases h
  · intro h
    cases h with
    | level hword hlevel =>
        simp only [Part.read, fields_eq_singleton_iff.2 ⟨hword, rfl⟩, hlevel]
    | name hword hlevel =>
        simp only [Part.read, fields_eq_singleton_iff.2 ⟨hword, rfl⟩, hlevel]
    | unlimited hname hequals hblank =>
        simp only [Part.read, fields_eq_pair_iff.2 ⟨⟨hname, hequals⟩, rfl⟩, hblank,
          List.isEmpty_nil, if_true]
    | assigned hname hequals hlevel =>
        have hsome : ¬ (trim _).isEmpty = true :=
          mt List.isEmpty_iff.1 (trim_ne_nil_of_ofName? hlevel)
        simp only [Part.read, fields_eq_pair_iff.2 ⟨⟨hname, hequals⟩, rfl⟩, if_neg hsome, hlevel]

/-- The directives of a text, in the order of its parts. -/
def directivesOf (text : List Char) : List Directive :=
  (readParts text).filterMap Part.directive?

lemma mem_directivesOf_iff {text : List Char} {d : Directive} :
    d ∈ directivesOf text ↔ ∃ part ∈ parts text, Sets part d.name d.verbosity := by
  simp only [directivesOf, readParts_eq, List.filterMap_map, List.mem_filterMap,
    ← read_eq_directive_iff]
  refine exists_congr fun part => and_congr_right fun _ => ?_
  cases hread : Part.read part with
  | directive found => simp [Part.directive?, hread]
  | senseless text => simp [Part.directive?, hread]

lemma directivesOf_append (first second : List Char) :
    directivesOf (first ++ ',' :: second) = directivesOf first ++ directivesOf second := by
  simp only [directivesOf, readParts_eq, parts_append, List.map_append, List.filterMap_append]

/-! ## Plain characters -/

/-- White space separates, and so do commas, slashes and equals signs; other characters do not. -/
def Plain (c : Char) : Prop :=
  c ≠ ',' ∧ c ≠ '/' ∧ c ≠ '=' ∧ Unicode.isWhiteSpace c = false
deriving Decidable

/-- The characters from `A` to `z` are plain. -/
lemma plain_of_toNat {c : Char} (h : 65 ≤ c.toNat ∧ c.toNat ≤ 122) : Plain c := by
  have hspace : Unicode.whiteSpace = .ofRanges [(0x9, 0xD), (0x20, 0x20), (0x85, 0x85),
      (0xA0, 0xA0), (0x1680, 0x1680), (0x2000, 0x200A), (0x2028, 0x2029), (0x202F, 0x202F),
      (0x205F, 0x205F), (0x3000, 0x3000)] := by
    decide +kernel
  have hmarks : ∀ mark ∈ [',', '/', '='], c ≠ mark := by
    rintro mark hmark rfl
    simp only [List.mem_cons, List.not_mem_nil, or_false] at hmark
    rcases hmark with rfl | rfl | rfl <;> exact absurd h (by decide)
  refine ⟨hmarks _ (by simp), hmarks _ (by simp), hmarks _ (by simp), ?_⟩
  rw [Unicode.isWhiteSpace, hspace, Bool.eq_false_iff, ne_eq, CharSet.contains_ofRanges]
  simp only [List.mem_cons, List.not_mem_nil, or_false, or_and_right, exists_or, exists_eq_left]
  omega

lemma plain_source : ∀ c ∈ source.toList, Plain c := by
  have hall : source.toList.all (fun c => decide (Plain c)) = true := by
    decide +kernel
  simpa only [List.all_eq_true, decide_eq_true_eq] using hall

/-- What becomes a lower-case letter is a letter. -/
lemma toNat_of_toLower {c : Char} (h : c.toLower.isLower = true) :
    65 ≤ c.toNat ∧ c.toNat ≤ 122 := by
  by_cases hupper : 'A'.val ≤ c.val ∧ c.val ≤ 'Z'.val
  · have hcode : 65 ≤ c.toNat ∧ c.toNat ≤ 90 := by
      simpa [UInt32.le_iff_toNat_le] using hupper
    omega
  · have hsame : c.toLower = c := dif_neg hupper
    rw [hsame] at h
    change (decide ('a'.val ≤ c.val) && decide (c.val ≤ 'z'.val)) = true at h
    have hcode : 97 ≤ c.toNat ∧ c.toNat ≤ 122 := by
      simpa [UInt32.le_iff_toNat_le] using h
    omega

/-- **The names of levels** are made of letters. -/
lemma plain_of_ofName? {word : List Char} {verbosity : Verbosity}
    (h : Verbosity.ofName? word = some verbosity) : ∀ c ∈ word, Plain c := by
  have hlower : ∀ name ∈ ["off", "error", "warn", "info", "debug", "trace"],
      ∀ c ∈ name.toList, c.isLower = true := by
    have hall : (["off", "error", "warn", "info", "debug", "trace"].all fun name =>
        name.toList.all Char.isLower) = true := by
      decide
    simpa only [List.all_eq_true] using hall
  have hname : String.ofList (word.map Char.toLower)
      ∈ ["off", "error", "warn", "info", "debug", "trace"] := by
    rw [Verbosity.ofName?] at h
    split at h
    · next hoff => simp [hoff]
    · next herror => simp [herror]
    · next hwarn => simp [hwarn]
    · next hinfo => simp [hinfo]
    · next hdebug => simp [hdebug]
    · next htrace => simp [htrace]
    · cases h
  intro c hc
  refine plain_of_toNat (toNat_of_toLower (hlower _ hname _ ?_))
  rw [String.toList_ofList]
  exact List.mem_map_of_mem hc

end VersionBump.Log
