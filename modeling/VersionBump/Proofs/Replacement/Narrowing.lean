import VersionBump.Proofs.Replacement.Splice
import VersionBump.Proofs.Search.Erasure

/-!
# A group narrows the match and does not choose it

The group named `marker` says which part of a match is the version.  This file compares a pattern
with what is left of it without that group: the same match is found, and the version takes the place
of the group with the one pattern and of the whole match with the other.

* `Pattern.withoutGroup`: the pattern without its groups of a name.  What they contain stays.
* `Pattern.search_eq_map_of_ungrouped`: patterns that differ only in their groups find the same
  match.
* **`replaceFirst_narrows`**: the two replacements side by side.
-/

namespace VersionBump

namespace Pattern

/-! ## Patterns that differ in their groups -/

/-- The pattern with every group of the given name replaced by what it contains.  The rest stays as
it is: that alternatives begin alike only now does not let them share their beginning. -/
def withoutGroup (name : String) : Pattern → Pattern
  | .empty => .empty
  | .char set => .char set
  | .look a => .look a
  | .cat p q => .cat (p.withoutGroup name) (q.withoutGroup name)
  | .alt p q => .alt (p.withoutGroup name) (q.withoutGroup name)
  | .rep p least extra greedy => .rep (p.withoutGroup name) least extra greedy
  | .group n p => if n = some name then p.withoutGroup name else .group n (p.withoutGroup name)

lemma ungrouped_withoutGroup (name : String) (p : Pattern) :
    (p.withoutGroup name).ungrouped = p.ungrouped := by
  induction p with
  | empty => rfl
  | char set => rfl
  | look a => rfl
  | cat p q ihp ihq => rw [withoutGroup, ungrouped, ihp, ihq, ungrouped]
  | alt p q ihp ihq => rw [withoutGroup, ungrouped, ihp, ihq, ungrouped]
  | rep p least extra greedy ih => rw [withoutGroup, ungrouped, ih, ungrouped]
  | group n p ih =>
      rw [withoutGroup]
      split_ifs
      · rw [ih, ungrouped]
      · rw [ungrouped, ih, ungrouped]

lemma not_mem_groupNames_withoutGroup (name : String) (p : Pattern) :
    name ∉ (p.withoutGroup name).groupNames := by
  induction p with
  | empty => simp [withoutGroup, groupNames]
  | char set => simp [withoutGroup, groupNames]
  | look a => simp [withoutGroup, groupNames]
  | cat p q ihp ihq => simp [withoutGroup, groupNames, ihp, ihq]
  | alt p q ihp ihq => simp [withoutGroup, groupNames, ihp, ihq]
  | rep p least extra greedy ih => simpa [withoutGroup, groupNames] using ih
  | group n p ih =>
      rw [withoutGroup]
      split_ifs with hname
      · exact ih
      · simp [groupNames, ih, hname]

/-! ## What they find -/

variable {tracked : String} {text : Array Char}

/-- A group that the pattern does not have takes no part in a match. -/
lemma group_eq_none_of_search {p : Pattern} {found : Match}
    (h : p.search tracked text = some found) (hname : tracked ∉ p.groupNames) :
    found.group = none := by
  rcases search_spec tracked p text with
    ⟨hnone, -⟩ | ⟨start, stop, trace, hsome, -, -, htraverses⟩
  · rw [hnone] at h
    cases h
  · rw [hsome] at h
    cases h
    exact congrArg Trace.span (htraverses.trace_eq hname)

/-- **The same match without the group.** -/
theorem search_eq_map_of_ungrouped {p q : Pattern} (h : q.ungrouped = p.ungrouped)
    (hname : tracked ∉ q.groupNames) (text : Array Char) :
    q.search tracked text
      = (p.search tracked text).map fun found => { found with group := none } := by
  have hspan : (q.search tracked text).map Match.span = (p.search tracked text).map Match.span := by
    rw [← search_ungrouped tracked tracked q, h, search_ungrouped]
  cases hq : q.search tracked text with
  | none =>
      rw [hq, Option.map_none, eq_comm, Option.map_eq_none_iff] at hspan
      rw [hspan, Option.map_none]
  | some found =>
      have hgroup := group_eq_none_of_search hq hname
      rw [hq, Option.map_some, eq_comm, Option.map_eq_some_iff] at hspan
      obtain ⟨found', hp, hsame⟩ := hspan
      rw [hp, Option.map_some, hsame, ← hgroup]

end Pattern

/-! ## What they replace -/

/-- **The marker only narrows.**  With a pattern that was read and with that pattern without the
group, the same number of replacements is made.  Where it is one, both patterns have found the same
match, and the group, as the pattern captures it there, lies inside: the version takes its place
with the one pattern and the place of the whole match with the other.  Where the group takes no part
in the match, the results are the same. -/
theorem replaceFirst_narrows (source : String) (pattern : Pattern)
    (hread : Pattern.read? source = some pattern) (text version : String) :
    (replaceFirst pattern text version).2
        = (replaceFirst (pattern.withoutGroup markerGroup) text version).2 ∧
      ((replaceFirst pattern text version).2 = 1 →
        ∃ found, pattern.search markerGroup text.toList.toArray = some found ∧
          (pattern.withoutGroup markerGroup).search markerGroup text.toList.toArray
            = some ⟨found.span, none⟩ ∧
          pattern.Captures markerGroup text.toList.toArray
            ⟨found.span.start, none⟩ ⟨found.span.stop, found.group⟩ ∧
          replaceFirst pattern text version
            = (String.ofList (splice text.toList found.versionSpan version.toList), 1) ∧
          replaceFirst (pattern.withoutGroup markerGroup) text version
            = (String.ofList (splice text.toList found.span version.toList), 1) ∧
          found.span.start ≤ found.versionSpan.start ∧
          found.versionSpan.start ≤ found.versionSpan.stop ∧
          found.versionSpan.stop ≤ found.span.stop ∧ found.span.stop ≤ text.length ∧
          (found.group = none → replaceFirst pattern text version
            = replaceFirst (pattern.withoutGroup markerGroup) text version)) := by
  have hplain := Pattern.search_eq_map_of_ungrouped (pattern.ungrouped_withoutGroup markerGroup)
    (pattern.not_mem_groupNames_withoutGroup markerGroup) text.toList.toArray
  cases hsearch : pattern.search markerGroup text.toList.toArray with
  | none =>
      rw [hsearch, Option.map_none] at hplain
      rw [replaceFirst_of_search_none hsearch, replaceFirst_of_search_none hplain]
      exact ⟨rfl, by simp⟩
  | some found =>
      rw [hsearch, Option.map_some] at hplain
      have hnames := Pattern.nodup_groupNames hread
      have hplaced := Match.placed_of_search hsearch hnames
      have hwhole := replaceFirst_of_search_some hplain version
      have hpart := replaceFirst_of_search_some hsearch version
      refine ⟨by rw [hpart, hwhole], fun _ => ⟨found, rfl, hplain,
        Pattern.captures_of_search hsearch hnames, hpart, hwhole, hplaced.start_le,
        hplaced.start_le_stop, hplaced.stop_le, hplaced.stop_le_length, fun hgroup => ?_⟩⟩
      rw [hpart, hwhole, Match.versionSpan, hgroup]
      rfl

/-- A group in one branch of a repetition.  The last turn goes without it, and the version still
takes its place; without the group it takes the place of all turns. -/
theorem replaceFirst_narrows_in_repetition :
    ∃ pattern, Pattern.read? "(?:(?P<marker>a)|b)*c" = some pattern ∧
      replaceFirst pattern "xbabcy" "V" = ("xbVbcy", 1) ∧
      replaceFirst (pattern.withoutGroup markerGroup) "xbabcy" "V" = ("xVy", 1) ∧
      ∃ found, pattern.search markerGroup "xbabcy".toList.toArray = some found ∧
        (pattern.withoutGroup markerGroup).search markerGroup "xbabcy".toList.toArray
          = some ⟨found.span, none⟩ ∧
        found.span.start ≤ found.versionSpan.start ∧ found.versionSpan.stop ≤ found.span.stop := by
  have hrun : ((Pattern.read? "(?:(?P<marker>a)|b)*c").map fun p =>
      (replaceFirst p "xbabcy" "V", replaceFirst (p.withoutGroup markerGroup) "xbabcy" "V"))
        = some (("xbVbcy", 1), ("xVy", 1)) := by
    decide +kernel
  obtain ⟨pattern, hread, hreplaced⟩ := Option.map_eq_some_iff.1 hrun
  rw [Prod.mk.injEq] at hreplaced
  obtain ⟨found, hfound, hplain, -, -, -, hstart, -, hstop, -⟩ :=
    (replaceFirst_narrows _ pattern hread "xbabcy" "V").2 (by rw [hreplaced.1])
  exact ⟨pattern, hread, hreplaced.1, hreplaced.2, found, hfound, hplain, hstart, hstop⟩

end VersionBump
