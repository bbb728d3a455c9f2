import VersionBump.Proofs.Search.Marked

/-!
# Replacing a marked version

A version is marked as an element or as an attribute.  `Marking` has the two ways, each with its
pattern as written and with the marks of that pattern, so that what was shown about marked parts of
a text can be said of replacements.

* `Marking.replaceFirst_of_first` and `Marking.replaceFirst_of_none`: what the replacement is.
* `Marking.Safe`: versions that are found again after they were put into a text.
* **`Marking.Safe.overwritten`**: such a version leaves no trace when another one is put in its
  place.
* **`Marking.Safe.search_replaceFirst`**: such a version is what the pattern then finds.
-/

namespace VersionBump

open Text

/-- The characters of a span. -/
def Span.chars (span : Span) (text : List Char) : List Char :=
  (text.take span.stop).drop span.start

/-- Where nothing was replaced there was nothing to find. -/
lemma search_eq_none_of_replaceFirst {pattern : Pattern} {text version : String}
    (h : (replaceFirst pattern text version).2 = 0) :
    pattern.search markerGroup text.toList.toArray = none ∧
      (replaceFirst pattern text version).1 = text := by
  rw [replaceFirst] at h ⊢
  split at h
  · next hnone => exact ⟨hnone, rfl⟩
  · simp at h

/-- The ways to mark a version. -/
inductive Marking where
  /-- As an element of a project file. -/
  | element
  /-- As an attribute in a document, in quotes. -/
  | quoted

namespace Marking

/-- The pattern as written. -/
def source : Marking → String
  | .element => elementSource
  | .quoted => attributeSource

/-- What stands before the version. -/
def opening : Marking → String
  | .element => "<Version>"
  | .quoted => "Version=\""

/-- What stands after the version. -/
def closing : Marking → String
  | .element => "</Version>"
  | .quoted => "\""

/-- The pattern that finds the version. -/
def pattern (m : Marking) : Pattern :=
  .between m.opening m.closing

/-- The pattern is the one that was written. -/
lemma read?_source (m : Marking) : Pattern.read? m.source = some m.pattern := by
  cases m with
  | element => rfl
  | quoted => rfl

lemma startsFresh_opening (m : Marking) : StartsFresh m.opening.toList := by
  cases m with
  | element => exact ⟨'<', "Version>".toList, by decide, by decide⟩
  | quoted => exact ⟨'V', "ersion=\"".toList, by decide, by decide⟩

lemma startsFresh_closing (m : Marking) : StartsFresh m.closing.toList := by
  cases m with
  | element => exact ⟨'<', "/Version>".toList, by decide, by decide⟩
  | quoted => exact ⟨'"', [], by decide, by decide⟩

lemma newline_notMem_closing (m : Marking) : '\n' ∉ m.closing.toList := by
  cases m with
  | element => decide
  | quoted => decide

/-- **Safe versions** have no line break and not the closing mark. -/
def Safe (m : Marking) (version : String) : Prop :=
  '\n' ∉ version.toList ∧ ¬ m.closing.toList <:+: version.toList

/-- It is enough that one character of the closing mark is missing. -/
lemma safe_of_notMem {m : Marking} {version : String} (hline : '\n' ∉ version.toList) {c : Char}
    (hc : c ∈ m.closing.toList) (hversion : c ∉ version.toList) : m.Safe version :=
  ⟨hline, fun hinside => hversion (hinside.subset hc)⟩

/-! ## What the replacement is -/

/-- The first part of a text that is marked in the given way. -/
abbrev First (m : Marking) (text : List Char) (start length : Nat) : Prop :=
  FirstMarked m.opening.toList m.closing.toList text start length

/-- Nothing in a text is marked in the given way. -/
def Absent (m : Marking) (text : List Char) : Prop :=
  ∀ i n, ¬ MarkedAt m.opening.toList m.closing.toList text i n

lemma absent_or_first (m : Marking) (text : List Char) :
    m.Absent text ∨ ∃ start length, m.First text start length := by
  by_cases h : m.Absent text
  · exact Or.inl h
  · simp only [Absent, not_forall, not_not] at h
    obtain ⟨i, n, hmarked⟩ := h
    exact Or.inr hmarked.exists_first

/-- The part of a text that is marked first. -/
abbrev span (m : Marking) (start length : Nat) : Span :=
  markedSpan m.opening.toList start length

lemma replaceFirst_of_none {m : Marking} {text : String} (h : m.Absent text.toList)
    (version : String) : replaceFirst m.pattern text version = (text, 0) := by
  rw [replaceFirst, pattern, Pattern.search_between_eq_none h]

lemma replaceFirst_of_first {m : Marking} {text : String} {start length : Nat}
    (h : m.First text.toList start length) (version : String) :
    replaceFirst m.pattern text version
      = (String.ofList (splice text.toList (m.span start length) version.toList), 1) := by
  rw [replaceFirst, pattern, Pattern.search_between_eq_some m.startsFresh_opening.ne_nil h]
  rfl

/-- A version is replaced as soon as something is marked. -/
lemma replaced_of_markedAt {m : Marking} {text : String} {i n : Nat}
    (h : MarkedAt m.opening.toList m.closing.toList text.toList i n) (version : String) :
    (replaceFirst m.pattern text version).2 = 1 := by
  obtain ⟨start, length, hfirst⟩ := h.exists_first
  rw [replaceFirst_of_first hfirst]

/-! ## Safe versions -/

/-- The marked part starts inside the text. -/
lemma length_take_start {m : Marking} {text : List Char} {start length : Nat}
    (h : m.First text start length) :
    (text.take (start + m.opening.toList.length)).length = start + m.opening.toList.length := by
  rw [List.length_take, Nat.min_eq_left (h.opens.le_length m.startsFresh_opening.ne_nil)]

/-- What takes the place of a part takes the place of what was there before. -/
lemma splice_splice {m : Marking} {text : List Char} {start length : Nat}
    (h : m.First text start length) (version version' : List Char) :
    splice (splice text (m.span start length) version) (m.span start version.length) version'
      = splice text (m.span start length) version' := by
  simp only [splice, markedSpan]
  rw [List.append_assoc _ version, List.take_left' (length_take_start h),
    ← List.append_assoc _ version,
    List.drop_left' (by rw [List.length_append, length_take_start h])]

/-- A part is found where it was put. -/
lemma chars_splice {m : Marking} {text : List Char} {start length : Nat}
    (h : m.First text start length) (version : List Char) :
    (m.span start version.length).chars (splice text (m.span start length) version) = version := by
  simp only [Span.chars, splice, markedSpan]
  rw [List.take_left' (by rw [List.length_append, length_take_start h]),
    List.drop_left' (length_take_start h)]

namespace Safe

variable {m : Marking} {version : String}

/-- **A safe version is marked first** where the version was that it replaces. -/
lemma first (hsafe : m.Safe version) {text : List Char} {start length : Nat}
    (h : m.First text start length) :
    m.First (splice text (m.span start length) version.toList) start version.toList.length :=
  h.after_splice m.startsFresh_opening m.startsFresh_closing m.newline_notMem_closing hsafe.1
    hsafe.2

/-- **A safe version leaves no trace** when another one takes its place. -/
theorem overwritten (hsafe : m.Safe version) (text version' : String) :
    replaceFirst m.pattern (replaceFirst m.pattern text version).1 version'
      = replaceFirst m.pattern text version' := by
  rcases m.absent_or_first text.toList with habsent | ⟨start, length, hfirst⟩
  · rw [replaceFirst_of_none habsent version]
  · have hnew := hsafe.first hfirst
    rw [← String.toList_ofList (l := splice _ _ _)] at hnew
    rw [replaceFirst_of_first hfirst version, replaceFirst_of_first hnew version',
      String.toList_ofList, splice_splice hfirst, replaceFirst_of_first hfirst version']

/-- **A safe version reads back**: the pattern finds it, and it is what the group holds. -/
theorem search_replaceFirst (hsafe : m.Safe version) {text : String}
    (h : (replaceFirst m.pattern text version).2 ≠ 0) :
    ∃ found span,
      m.pattern.search markerGroup (replaceFirst m.pattern text version).1.toList.toArray
        = some found ∧
      found.group = some span ∧
      span.chars (replaceFirst m.pattern text version).1.toList = version.toList := by
  rcases m.absent_or_first text.toList with habsent | ⟨start, length, hfirst⟩
  · exact absurd (by rw [replaceFirst_of_none habsent]) h
  · rw [replaceFirst_of_first hfirst, String.toList_ofList]
    exact ⟨_, _, Pattern.search_between_eq_some m.startsFresh_opening.ne_nil (hsafe.first hfirst),
      rfl, chars_splice hfirst version.toList⟩

end Safe

end Marking

end VersionBump
