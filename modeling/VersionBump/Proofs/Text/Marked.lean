import Mathlib.Data.Nat.Find
import Mathlib.Tactic.Common
import VersionBump.Replacement

/-!
# Marked parts of a text

A part of a text is marked if it stands between an opening and a closing mark and has no line break.
`FirstMarked` picks one of the marked parts: the one with the earliest opening mark, and of those
the shortest.

Everything is said of single positions, because that is how a text is compared with what becomes of
it when the marked part is replaced: the two agree before the part and, shifted, after it.  The main
statement, **`FirstMarked.after_splice`**, says when the replacement is in turn the first marked
part of the new text.  It takes marks whose first character does not come in them again
(`StartsFresh`), so that a mark never overlaps with another copy of itself, and a replacement
without a line break and without the closing mark.
-/

namespace VersionBump.Text

/-! ## Words in a text -/

/-- A word stands in a text at a position. -/
def OccursAt (word text : List Char) (i : Nat) : Prop :=
  ∀ k < word.length, text[i + k]? = word[k]?

lemma occursAt_cons {c : Char} {word text : List Char} {i : Nat} :
    OccursAt (c :: word) text i ↔ text[i]? = some c ∧ OccursAt word text (i + 1) := by
  constructor
  · intro h
    refine ⟨h 0 (by simp), fun k hk => ?_⟩
    rw [Nat.add_assoc, Nat.add_comm 1]
    exact h (k + 1) (by simpa using hk)
  · rintro ⟨hc, h⟩ k hk
    cases k with
    | zero => exact hc
    | succ k =>
        rw [Nat.add_comm k, ← Nat.add_assoc, Nat.add_comm 1]
        exact h k (by simpa using hk)

lemma occursAt_append (before word after : List Char) :
    OccursAt word (before ++ word ++ after) before.length := by
  intro k hk
  rw [List.append_assoc, List.getElem?_append_right (Nat.le_add_right _ _),
    Nat.add_sub_cancel_left, List.getElem?_append_left hk]

/-- A text goes on, from where a word stands, with the word. -/
lemma OccursAt.drop_eq {word text : List Char} {i : Nat} (h : OccursAt word text i) :
    text.drop i = word ++ text.drop (i + word.length) := by
  have hword : (text.drop i).take word.length = word := by
    apply List.ext_getElem?
    intro k
    rw [List.getElem?_take]
    split_ifs with hk
    · rw [List.getElem?_drop, h k hk]
    · exact (List.getElem?_eq_none (by omega)).symm
  nth_rewrite 1 [← List.take_append_drop word.length (text.drop i)]
  rw [hword, List.drop_drop]

lemma OccursAt.isInfix {word text : List Char} {i : Nat} (h : OccursAt word text i) :
    word <:+: text := by
  have hprefix : word <+: text.drop i := ⟨_, h.drop_eq.symm⟩
  exact hprefix.isInfix.trans (List.drop_suffix i text).isInfix

lemma OccursAt.le_length {word text : List Char} {i : Nat} (h : OccursAt word text i)
    (hword : word ≠ []) : i + word.length ≤ text.length := by
  have hpos : 0 < word.length := List.length_pos_iff.2 hword
  have hlast := h (word.length - 1) (by omega)
  rw [List.getElem?_eq_getElem (by omega : word.length - 1 < word.length)] at hlast
  obtain ⟨hlt, -⟩ := List.getElem?_eq_some_iff.1 hlast
  omega

/-- Whether a word stands at a position is decided by the characters there. -/
lemma OccursAt.congr {word text text' : List Char} {i i' : Nat} (h : OccursAt word text i)
    (heq : ∀ k < word.length, text'[i' + k]? = text[i + k]?) : OccursAt word text' i' := by
  intro k hk
  rw [heq k hk, h k hk]

/-- The first character of a word does not come in it again. -/
def StartsFresh (word : List Char) : Prop :=
  ∃ c rest, word = c :: rest ∧ c ∉ rest

lemma StartsFresh.ne_nil {word : List Char} (h : StartsFresh word) : word ≠ [] := by
  obtain ⟨c, rest, rfl, -⟩ := h
  simp

/-- Two copies of such a word do not overlap. -/
lemma StartsFresh.apart {word text : List Char} {i j : Nat} (hfresh : StartsFresh word)
    (hi : OccursAt word text i) (hj : OccursAt word text j) (hij : i < j) :
    i + word.length ≤ j := by
  obtain ⟨c, rest, rfl, hc⟩ := hfresh
  by_contra hlt
  obtain ⟨k, rfl⟩ : ∃ k, j = i + (k + 1) := ⟨j - i - 1, by omega⟩
  have hinside := hi (k + 1) (by omega)
  have hfirst := hj 0 (by simp)
  rw [Nat.add_zero, hinside, List.getElem?_cons_succ, List.getElem?_cons_zero] at hfirst
  exact hc (List.mem_of_getElem? hfirst)

/-! ## Marked parts -/

/-- A number of characters from a position on, none of them a line break. -/
def Unbroken (text : List Char) (i n : Nat) : Prop :=
  ∀ k < n, ∃ c, text[i + k]? = some c ∧ c ≠ '\n'

/-- **A marked part**, `length` characters long, after an opening mark at `start`. -/
structure MarkedAt (opening closing text : List Char) (start length : Nat) : Prop where
  opens : OccursAt opening text start
  unbroken : Unbroken text (start + opening.length) length
  closes : OccursAt closing text (start + opening.length + length)

/-- **The first marked part.**  The earliest opening mark that has a closing mark in its line, and
the closest one of these. -/
structure FirstMarked (opening closing text : List Char) (start length : Nat) : Prop
    extends MarkedAt opening closing text start length where
  earliest : ∀ i < start, ∀ n, ¬ MarkedAt opening closing text i n
  shortest : ∀ n < length, ¬ OccursAt closing text (start + opening.length + n)

variable {opening closing text version : List Char} {start length : Nat}

/-- What is written between two marks is marked. -/
lemma markedAt_append (before marked after : List Char) (hline : '\n' ∉ marked) :
    MarkedAt opening closing (before ++ opening ++ marked ++ closing ++ after) before.length
      marked.length where
  opens := by
    simpa only [List.append_assoc] using
      occursAt_append before opening (marked ++ (closing ++ after))
  unbroken := by
    intro k hk
    have hmarked := occursAt_append (before ++ opening) marked (closing ++ after) k hk
    rw [List.length_append, ← List.append_assoc, List.getElem?_eq_getElem hk] at hmarked
    exact ⟨marked[k], hmarked, fun heq => hline (heq ▸ List.getElem_mem hk)⟩
  closes := by
    simpa only [List.length_append] using
      occursAt_append (before ++ opening ++ marked) closing after

/-- What is marked is written between two marks. -/
lemma MarkedAt.exists_append (h : MarkedAt opening closing text start length)
    (hopening : opening ≠ []) :
    ∃ before marked after, text = before ++ opening ++ marked ++ closing ++ after ∧
      '\n' ∉ marked ∧ before.length = start ∧ marked.length = length := by
  have hstart := h.opens.le_length hopening
  have hrest := List.take_append_drop length (text.drop (start + opening.length))
  rw [List.drop_drop] at hrest
  have hinside : ∀ k < length, start + opening.length + k < text.length := by
    intro k hk
    obtain ⟨c, hc, -⟩ := h.unbroken k hk
    exact (List.getElem?_eq_some_iff.1 hc).1
  have hmarked : ((text.drop (start + opening.length)).take length).length = length := by
    rw [List.length_take, List.length_drop]
    rcases Nat.eq_zero_or_pos length with hzero | hpos
    · omega
    · have := hinside (length - 1) (by omega)
      omega
  refine ⟨text.take start, (text.drop (start + opening.length)).take length,
    text.drop (start + opening.length + length + closing.length), ?_, ?_,
    List.length_take_of_le (by omega), hmarked⟩
  · calc text = text.take start ++ text.drop start := (List.take_append_drop start text).symm
      _ = text.take start ++ (opening ++ text.drop (start + opening.length)) := by
          rw [h.opens.drop_eq]
      _ = text.take start ++ (opening ++ ((text.drop (start + opening.length)).take length ++
            text.drop (start + opening.length + length))) := by
          rw [hrest]
      _ = _ := by
          rw [h.closes.drop_eq]
          simp only [List.append_assoc]
  · intro hmem
    obtain ⟨k, hk⟩ := List.mem_iff_getElem?.1 hmem
    rw [List.getElem?_take] at hk
    split_ifs at hk with hlt
    obtain ⟨c, hc, hne⟩ := h.unbroken k hlt
    rw [List.getElem?_drop, hc, Option.some.injEq] at hk
    exact hne hk

/-- Where something is marked, something is marked first. -/
lemma MarkedAt.exists_first {i n : Nat} (h : MarkedAt opening closing text i n) :
    ∃ start length, FirstMarked opening closing text start length := by
  classical
  have hsome : ∃ i n, MarkedAt opening closing text i n := ⟨i, n, h⟩
  have hclosed := Nat.find_spec hsome
  refine ⟨Nat.find hsome, Nat.find hclosed, Nat.find_spec hclosed, ?_, ?_⟩
  · intro i hi n hmarked
    exact Nat.find_min hsome hi ⟨n, hmarked⟩
  · intro n hn hcloses
    have hlong := Nat.find_spec hclosed
    refine Nat.find_min hclosed hn ⟨hlong.opens, ?_, hcloses⟩
    exact fun k hk => hlong.unbroken k (by omega)

/-! ## Replacing the marked part -/

section splice

variable {span : Span} {replacement : List Char} {k : Nat}

lemma getElem?_splice_before (hspan : span.start ≤ text.length) (hk : k < span.start) :
    (splice text span replacement)[k]? = text[k]? := by
  have hlength : (text.take span.start).length = span.start := List.length_take_of_le hspan
  rw [splice, List.append_assoc, List.getElem?_append_left (by omega), List.getElem?_take,
    if_pos hk]

lemma getElem?_splice_inside (hspan : span.start ≤ text.length) (hk : k < replacement.length) :
    (splice text span replacement)[span.start + k]? = replacement[k]? := by
  have hlength : (text.take span.start).length = span.start := List.length_take_of_le hspan
  rw [splice, List.append_assoc, List.getElem?_append_right (by omega), hlength,
    Nat.add_sub_cancel_left, List.getElem?_append_left hk]

lemma getElem?_splice_after (hspan : span.start ≤ text.length) :
    (splice text span replacement)[span.start + replacement.length + k]?
      = text[span.stop + k]? := by
  have hlength : (text.take span.start ++ replacement).length
      = span.start + replacement.length := by
    rw [List.length_append, List.length_take_of_le hspan]
  rw [splice, List.getElem?_append_right (by omega), hlength, Nat.add_sub_cancel_left,
    List.getElem?_drop]

end splice

/-- The place of the marked part. -/
def markedSpan (opening : List Char) (start length : Nat) : Span :=
  ⟨start + opening.length, start + opening.length + length⟩

/-- A line break before which a marked part starts is after it, with its closing mark. -/
lemma MarkedAt.le_of_break (h : MarkedAt opening closing text start length)
    (hline : '\n' ∉ closing) {k : Nat} (hk : start + opening.length ≤ k)
    (hbreak : text[k]? = some '\n') : start + opening.length + length + closing.length ≤ k := by
  by_contra hlt
  obtain ⟨d, rfl⟩ := Nat.exists_eq_add_of_le hk
  by_cases hd : d < length
  · obtain ⟨c, hc, hne⟩ := h.unbroken d hd
    rw [hbreak, Option.some.injEq] at hc
    exact hne hc.symm
  · obtain ⟨e, rfl⟩ := Nat.exists_eq_add_of_le (Nat.le_of_not_lt hd)
    have hcloses := h.closes e (by omega)
    rw [Nat.add_assoc (start + opening.length), hbreak] at hcloses
    exact hline (List.mem_of_getElem? hcloses.symm)

/-- **No earlier mark.**  What follows the opening mark of the first marked part does not decide
whether something is marked earlier. -/
lemma FirstMarked.earliest_of_agree (h : FirstMarked opening closing text start length)
    (hopening : StartsFresh opening) (hline : '\n' ∉ closing) {text' : List Char}
    (hagree : ∀ k < start + opening.length, text'[k]? = text[k]?) :
    ∀ i < start, ∀ n, ¬ MarkedAt opening closing text' i n := by
  intro i hi n hmarked
  have hopens : OccursAt opening text' start := h.opens.congr fun k hk => hagree _ (by omega)
  have hapart : i + opening.length ≤ start := hopening.apart hmarked.opens hopens hi
  have hopens' : OccursAt opening text i := hmarked.opens.congr fun k hk =>
    (hagree _ (by omega)).symm
  by_cases hbreak : ∃ d < start - i, text[i + opening.length + d]? = some '\n'
  · -- the line ends before the part, so what is marked in it lies where the texts agree
    obtain ⟨d, hd, hbreak⟩ := hbreak
    have hend := hmarked.le_of_break hline (Nat.le_add_right _ d)
      (by rw [hagree _ (by omega), hbreak])
    refine h.earliest i hi n ⟨hopens', ?_, ?_⟩
    · intro k hk
      rw [← hagree _ (by omega)]
      exact hmarked.unbroken k hk
    · exact hmarked.closes.congr fun k hk => (hagree _ (by omega)).symm
  · -- the line goes on to the part, whose closing mark then serves the earlier opening mark
    have hlength := h.opens.le_length hopening.ne_nil
    refine h.earliest i hi (start - i + length) ⟨hopens', ?_, ?_⟩
    · intro k hk
      by_cases hlt : k < start - i
      · have hinside : i + opening.length + k < text.length := by omega
        refine ⟨text[i + opening.length + k], List.getElem?_eq_getElem hinside, fun heq => ?_⟩
        exact hbreak ⟨k, hlt, by rw [List.getElem?_eq_getElem hinside, heq]⟩
      · have hpart := h.unbroken (k - (start - i)) (by omega)
        rwa [show start + opening.length + (k - (start - i)) = i + opening.length + k by omega]
          at hpart
    · have hcloses := h.closes
      rwa [show start + opening.length + length = i + opening.length + (start - i + length) by
        omega] at hcloses

/-- **The replacement is marked first.**  A new part without a line break and without the closing
mark takes the place of the old one as the first marked part. -/
theorem FirstMarked.after_splice (h : FirstMarked opening closing text start length)
    (hopening : StartsFresh opening) (hclosing : StartsFresh closing) (hline : '\n' ∉ closing)
    (hversion : '\n' ∉ version) (hfree : ¬ closing <:+: version) :
    FirstMarked opening closing (splice text (markedSpan opening start length) version) start
      version.length := by
  have hspan : (markedSpan opening start length).start ≤ text.length :=
    h.opens.le_length hopening.ne_nil
  have hagree : ∀ k < start + opening.length,
      (splice text (markedSpan opening start length) version)[k]? = text[k]? :=
    fun k hk => getElem?_splice_before hspan hk
  have hinside : ∀ k < version.length,
      (splice text (markedSpan opening start length) version)[start + opening.length + k]?
        = version[k]? :=
    fun k hk => getElem?_splice_inside hspan hk
  have hcloses : OccursAt closing (splice text (markedSpan opening start length) version)
      (start + opening.length + version.length) :=
    h.closes.congr fun k _ => getElem?_splice_after hspan
  refine ⟨⟨h.opens.congr fun k hk => hagree _ (by omega), ?_, hcloses⟩,
    h.earliest_of_agree hopening hline hagree, ?_⟩
  · intro k hk
    refine ⟨version[k], by rw [hinside k hk, List.getElem?_eq_getElem hk], fun heq => ?_⟩
    exact hversion (heq ▸ List.getElem_mem hk)
  · intro n hn hearly
    -- the closing mark after the new part does not overlap with an earlier one
    have hapart := hclosing.apart hearly hcloses (by omega)
    have hinner : OccursAt closing version n := hearly.congr fun k hk => by
      rw [← hinside _ (by omega), ← Nat.add_assoc]
    exact hfree hinner.isInfix

end VersionBump.Text
