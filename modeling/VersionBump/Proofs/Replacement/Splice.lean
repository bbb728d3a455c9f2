import VersionBump.Proofs.Replacement.Marking
import VersionBump.Proofs.Search.Captures
import VersionBump.Proofs.Search.Completeness

/-!
# Replacement is one splice, at the earliest match

What the replacement does with an arbitrary pattern and an arbitrary text, in terms of the relations
`Pattern.Matches` and `Pattern.Captures`, which say nothing about searching.

* **`replaceFirst_finds_earliest`**: something is replaced exactly if the pattern has a match in the
  text, and then the match that is used is one of those that start earliest.
* **`replaceFirst_splices`**: where something is replaced, the version is put in place of one part
  of the text, the same for every version.  The part is where the group stands in the match, or the
  whole match if the group took no part; the group lies inside the match and the match inside the
  text (`Match.Placed`), so taking the text apart there never fails.
-/

namespace VersionBump

/-! ## What the search finds -/

namespace Pattern

variable {p : Pattern} {tracked : String} {text : Array Char} {found : Match}

/-- What is found is a match, and none starts before it. -/
lemma matches_of_search (h : p.search tracked text = some found) :
    found.span.start ≤ text.size ∧ p.Matches text found.span.start found.span.stop ∧
      ∀ i < found.span.start, ∀ j, ¬ p.Matches text i j := by
  rcases search_spec tracked p text with
    ⟨hnone, -⟩ | ⟨start, stop, trace, hsome, hstart, hearliest, htraverses⟩
  · rw [hnone] at h
    cases h
  · rw [hsome] at h
    cases h
    exact ⟨hstart, htraverses.matches, hearliest⟩

/-- Where nothing is found there is no match. -/
lemma not_matches_of_search (h : p.search tracked text = none) :
    ∀ i ≤ text.size, ∀ j, ¬ p.Matches text i j := by
  rcases search_spec tracked p text with ⟨-, hnone⟩ | ⟨start, stop, trace, hsome, -⟩
  · exact hnone
  · rw [hsome] at h
    cases h

/-- What is found is captured. -/
lemma captures_of_search (h : p.search tracked text = some found) (hnames : p.groupNames.Nodup) :
    p.Captures tracked text ⟨found.span.start, none⟩ ⟨found.span.stop, found.group⟩ := by
  rcases search_spec tracked p text with
    ⟨hnone, -⟩ | ⟨start, stop, trace, hsome, -, -, htraverses⟩
  · rw [hnone] at h
    cases h
  · rw [hsome] at h
    cases h
    exact htraverses.captures hnames

end Pattern

/-- Positions count characters. -/
lemma size_toArray_toList (text : String) : text.toList.toArray.size = text.length := by
  rw [List.size_toArray, String.length_toList]

/-! ## Where a match stands -/

/-- **A match in its place.**  The version lies inside the match, and the match inside the text. -/
structure Match.Placed (text : String) (found : Match) : Prop where
  start_le : found.span.start ≤ found.versionSpan.start
  start_le_stop : found.versionSpan.start ≤ found.versionSpan.stop
  stop_le : found.versionSpan.stop ≤ found.span.stop
  stop_le_length : found.span.stop ≤ text.length

/-- What a pattern with different names finds is in its place. -/
lemma Match.placed_of_search {p : Pattern} {text : String} {found : Match}
    (h : p.search markerGroup text.toList.toArray = some found) (hnames : p.groupNames.Nodup) :
    found.Placed text := by
  obtain ⟨hstart, hmatch, -⟩ := Pattern.matches_of_search h
  obtain ⟨hforward, hinside⟩ := hmatch.bounds
  have hlength : found.span.stop ≤ text.length := size_toArray_toList text ▸ hinside hstart
  have hwithin : found.versionSpan.Within found.span.start found.span.stop := by
    obtain ⟨-, hgroup | ⟨span, hgroup, hinner⟩⟩ := (Pattern.captures_of_search h hnames).bounds
    · -- the group took no part, and the version is the whole match
      rw [Match.versionSpan, show found.group = none from hgroup]
      exact ⟨Nat.le_refl _, hforward, Nat.le_refl _⟩
    · rw [Match.versionSpan, show found.group = some span from hgroup]
      exact hinner
  exact ⟨hwithin.1, hwithin.2.1, hwithin.2.2, hlength⟩

/-- **A text in three.**  A span inside a text takes it apart, and a splice there puts another part
in the middle. -/
lemma exists_append_of_span {text : String} {span : Span} (horder : span.start ≤ span.stop)
    (hlength : span.stop ≤ text.length) :
    ∃ before part after : String, text = before ++ part ++ after ∧
      before.length = span.start ∧ (before ++ part).length = span.stop ∧
      ∀ version : String,
        String.ofList (splice text.toList span version.toList) = before ++ version ++ after := by
  rw [← String.length_toList] at hlength
  have hbefore : text.toList.take span.start = (text.toList.take span.stop).take span.start := by
    rw [List.take_take, Nat.min_eq_left horder]
  have hpart : text.toList.take span.start ++ span.chars text.toList
      = text.toList.take span.stop := by
    rw [hbefore, Span.chars, List.take_append_drop]
  refine ⟨String.ofList (text.toList.take span.start), String.ofList (span.chars text.toList),
    String.ofList (text.toList.drop span.stop), ?_, ?_, ?_, fun version => ?_⟩
  · rw [← String.ofList_append, ← String.ofList_append, hpart, List.take_append_drop,
      String.ofList_toList]
  · rw [String.length_ofList, List.length_take_of_le (by omega)]
  · rw [← String.ofList_append, hpart, String.length_ofList, List.length_take_of_le hlength]
  · rw [splice, String.ofList_append, String.ofList_append, String.ofList_toList]

/-! ## What the replacement is -/

lemma replaceFirst_of_search_none {pattern : Pattern} {text : String}
    (h : pattern.search markerGroup text.toList.toArray = none) (version : String) :
    replaceFirst pattern text version = (text, 0) := by
  rw [replaceFirst, h]

lemma replaceFirst_of_search_some {pattern : Pattern} {text : String} {found : Match}
    (h : pattern.search markerGroup text.toList.toArray = some found) (version : String) :
    replaceFirst pattern text version
      = (String.ofList (splice text.toList found.versionSpan version.toList), 1) := by
  rw [replaceFirst, h]

/-- **The earliest match.**  Nothing is replaced exactly if the pattern has no match in the text.
Something is replaced exactly if there is one, and the version then goes into a match before which
none starts. -/
theorem replaceFirst_finds_earliest (pattern : Pattern) (text version : String) :
    ((replaceFirst pattern text version).2 = 0 ↔
        ¬ ∃ i j, i ≤ j ∧ j ≤ text.length ∧ pattern.Matches text.toList.toArray i j) ∧
      ((replaceFirst pattern text version).2 = 1 ↔
        ∃ found, pattern.search markerGroup text.toList.toArray = some found ∧
          replaceFirst pattern text version
            = (String.ofList (splice text.toList found.versionSpan version.toList), 1) ∧
          found.span.start ≤ found.span.stop ∧ found.span.stop ≤ text.length ∧
          pattern.Matches text.toList.toArray found.span.start found.span.stop ∧
          ∀ i < found.span.start, ∀ j, ¬ pattern.Matches text.toList.toArray i j) := by
  cases hsearch : pattern.search markerGroup text.toList.toArray with
  | none =>
      have hno := Pattern.not_matches_of_search hsearch
      rw [replaceFirst_of_search_none hsearch]
      refine ⟨⟨?_, fun _ => rfl⟩, ⟨by simp, ?_⟩⟩
      · rintro - ⟨i, j, hij, hj, hmatch⟩
        exact hno i (size_toArray_toList text ▸ Nat.le_trans hij hj) j hmatch
      · rintro ⟨found, hfound, -⟩
        cases hfound
  | some found =>
      obtain ⟨hstart, hmatch, hearliest⟩ := Pattern.matches_of_search hsearch
      obtain ⟨hforward, hinside⟩ := hmatch.bounds
      have hstop : found.span.stop ≤ text.length := size_toArray_toList text ▸ hinside hstart
      rw [replaceFirst_of_search_some hsearch]
      refine ⟨⟨by simp, fun hno => ?_⟩, ⟨fun _ => ?_, fun _ => rfl⟩⟩
      · exact absurd ⟨found.span.start, found.span.stop, hforward, hstop, hmatch⟩ hno
      · exact ⟨found, rfl, rfl, hforward, hstop, hmatch, hearliest⟩

/-- **One splice.**  With a pattern that was read, either nothing is ever replaced in a text, or
there is one part of it in whose place every version is put, character for character.  The part is
where the group stands in the match, or the whole match if the group took no part.  It lies inside
the match and the match inside the text; in bytes, it starts and ends between characters and is no
longer than the text. -/
theorem replaceFirst_splices (source : String) (pattern : Pattern)
    (hread : Pattern.read? source = some pattern) (text : String) :
    (pattern.search markerGroup text.toList.toArray = none ∧
        ∀ version, replaceFirst pattern text version = (text, 0)) ∨
      ∃ found before part after,
        pattern.search markerGroup text.toList.toArray = some found ∧
        pattern.Captures markerGroup text.toList.toArray
          ⟨found.span.start, none⟩ ⟨found.span.stop, found.group⟩ ∧
        found.Placed text ∧
        text = before ++ part ++ after ∧
        before.length = (found.group.getD found.span).start ∧
        (before ++ part).length = (found.group.getD found.span).stop ∧
        before.rawEndPos.IsValid text ∧ (before ++ part).rawEndPos.IsValid text ∧
        part.utf8ByteSize ≤ text.utf8ByteSize ∧
        ∀ version, replaceFirst pattern text version = (before ++ version ++ after, 1) := by
  cases hsearch : pattern.search markerGroup text.toList.toArray with
  | none => exact Or.inl ⟨rfl, replaceFirst_of_search_none hsearch⟩
  | some found =>
      have hnames := Pattern.nodup_groupNames hread
      have hplaced := Match.placed_of_search hsearch hnames
      obtain ⟨before, part, after, htext, hstart, hstop, hsplice⟩ := exists_append_of_span
        hplaced.start_le_stop (Nat.le_trans hplaced.stop_le hplaced.stop_le_length)
      refine Or.inr ⟨found, before, part, after, rfl, Pattern.captures_of_search hsearch hnames,
        hplaced, htext, hstart, hstop, ?_, ?_, ?_, fun version => ?_⟩
      · rw [String.Pos.Raw.isValid_iff_exists_append]
        exact ⟨before, part ++ after, by rw [htext, String.append_assoc], rfl⟩
      · rw [String.Pos.Raw.isValid_iff_exists_append]
        exact ⟨before ++ part, after, htext, rfl⟩
      · rw [htext, String.utf8ByteSize_append, String.utf8ByteSize_append]
        omega
      · rw [replaceFirst_of_search_some hsearch, hsplice]

/-- A group in a repetition whose last turn goes without it: the splice is where the group was
matched in an earlier turn. -/
theorem replaceFirst_splices_in_repetition :
    ∃ pattern, Pattern.read? "(?:(?P<marker>a)|b)*c" = some pattern ∧
      replaceFirst pattern "xbabcy" "V" = ("xbVbcy", 1) ∧
      ∃ before part after, "xbabcy" = before ++ part ++ after ∧
        ∀ version, replaceFirst pattern "xbabcy" version = (before ++ version ++ after, 1) := by
  have hrun : ((Pattern.read? "(?:(?P<marker>a)|b)*c").map fun p => replaceFirst p "xbabcy" "V")
      = some ("xbVbcy", 1) := by
    decide +kernel
  obtain ⟨pattern, hread, hreplaced⟩ := Option.map_eq_some_iff.1 hrun
  refine ⟨pattern, hread, hreplaced, ?_⟩
  rcases replaceFirst_splices _ pattern hread "xbabcy" with
    ⟨-, hnone⟩ | ⟨_, before, part, after, -, -, -, htext, -, -, -, -, -, hsplice⟩
  · rw [hnone "V"] at hreplaced
    simp at hreplaced
  · exact ⟨before, part, after, htext, hsplice⟩

end VersionBump
