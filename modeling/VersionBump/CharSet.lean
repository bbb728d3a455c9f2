/-!
# Sets of characters

A pattern reads one character at a time, and what it accepts there is a set of characters.  A set
is held as a list of ranges of ordinals: `Char.ordinal` numbers the characters in the order of their
code points, with no gap where code points stand for no character.

* `CharSet.contains`: membership of a character.
* `CharSet.insert`, `union`, `complement`: the operations from which the others are built;
  intersection and difference come from them by De Morgan's laws.

Every operation has a lemma that says which characters are in its result.  Ranges are not empty,
ascend and do not touch each other, so a set is determined by its characters (`CharSet.ext`).
-/

namespace VersionBump

/-- The characters with ordinals from `start` up to `stop`, which is not included. -/
structure CharRange where
  start : Nat
  stop : Nat
  start_lt_stop : start < stop
  stop_le : stop ≤ Char.numCodePoints
deriving DecidableEq

namespace CharRange

/-- Whether an ordinal lies in a range. -/
def has (r : CharRange) (n : Nat) : Bool :=
  decide (r.start ≤ n) && decide (n < r.stop)

@[simp] theorem has_iff {r : CharRange} {n : Nat} :
    r.has n = true ↔ r.start ≤ n ∧ n < r.stop := by
  simp [has]

/-- The least range around two ranges. -/
def hull (r s : CharRange) : CharRange where
  start := min r.start s.start
  stop := max r.stop s.stop
  start_lt_stop := by
    have := r.start_lt_stop
    omega
  stop_le := Nat.max_le.2 ⟨r.stop_le, s.stop_le⟩

/-- If two ranges meet or touch, there is nothing between them. -/
theorem has_hull {r s : CharRange} (hrs : ¬ r.stop < s.start) (hsr : ¬ s.stop < r.start) (n : Nat) :
    (r.hull s).has n = (r.has n || s.has n) := by
  rw [Bool.eq_iff_iff]
  simp only [Bool.or_eq_true, has_iff, hull]
  omega

end CharRange

/-- **Ascending ranges** that do not touch: between two of them is a character. -/
abbrev Apart (ranges : List CharRange) : Prop :=
  ranges.Pairwise fun r s => r.stop < s.start

/-- A set of characters. -/
structure CharSet where
  ranges : List CharRange
  apart : Apart ranges
deriving DecidableEq

namespace CharSet

/-- Whether the character with a given ordinal is in the set. -/
def hasOrdinal (set : CharSet) (n : Nat) : Bool :=
  set.ranges.any (·.has n)

/-- **Membership.**  Whether a character is in the set. -/
def contains (set : CharSet) (c : Char) : Bool :=
  set.hasOrdinal c.ordinal

/-! ## Sets are determined by their characters -/

theorem any_has_start (r : CharRange) (ranges : List CharRange) :
    (r :: ranges).any (·.has r.start) = true := by
  rw [List.any_cons, Bool.or_eq_true]
  exact Or.inl (CharRange.has_iff.2 ⟨Nat.le_refl _, r.start_lt_stop⟩)

/-- What lies in a later range lies beyond the first one. -/
theorem stop_lt_of_any_has {r : CharRange} {ranges : List CharRange} (h : Apart (r :: ranges))
    {n : Nat} (hn : ranges.any (·.has n) = true) : r.stop < n := by
  obtain ⟨s, hs, hhas⟩ := List.any_eq_true.1 hn
  have := (List.pairwise_cons.1 h).1 s hs
  have := CharRange.has_iff.1 hhas
  omega

/-- What lies in one of several ranges does not lie before the first of them. -/
theorem start_le_of_any_has {r : CharRange} {ranges : List CharRange} (h : Apart (r :: ranges))
    {n : Nat} (hn : (r :: ranges).any (·.has n) = true) : r.start ≤ n := by
  rw [List.any_cons, Bool.or_eq_true] at hn
  rcases hn with hn | hn
  · exact (CharRange.has_iff.1 hn).1
  · have := r.start_lt_stop
    have := stop_lt_of_any_has h hn
    omega

/-- The first range ends where its set has a gap. -/
theorem any_has_stop {r : CharRange} {ranges : List CharRange} (h : Apart (r :: ranges)) :
    ¬ (r :: ranges).any (·.has r.stop) = true := by
  rw [List.any_cons, Bool.or_eq_true]
  rintro (hn | hn)
  · exact Nat.lt_irrefl _ (CharRange.has_iff.1 hn).2
  · exact Nat.lt_irrefl _ (stop_lt_of_any_has h hn)

/-- Of two lists of ranges with the same ordinals, neither starts first, and the first range of
neither goes further. -/
theorem first_le {r s : CharRange} {rs ss : List CharRange} (hr : Apart (r :: rs))
    (hs : Apart (s :: ss))
    (hsame : ∀ n, (r :: rs).any (·.has n) = (s :: ss).any (·.has n)) :
    r.start ≤ s.start ∧ s.stop ≤ r.stop := by
  have hrs : r.start ≤ s.start :=
    start_le_of_any_has hr (by rw [hsame, any_has_start])
  have hsr : s.start ≤ r.start :=
    start_le_of_any_has hs (by rw [← hsame, any_has_start])
  refine ⟨hrs, Nat.le_of_not_lt fun hlt => any_has_stop hr ?_⟩
  rw [hsame, List.any_cons, Bool.or_eq_true]
  exact Or.inl (CharRange.has_iff.2 ⟨Nat.le_trans hsr (Nat.le_of_lt r.start_lt_stop), hlt⟩)

theorem ranges_eq {rs ss : List CharRange} (hr : Apart rs) (hs : Apart ss)
    (hsame : ∀ n, rs.any (·.has n) = ss.any (·.has n)) : rs = ss := by
  induction rs generalizing ss with
  | nil =>
    cases ss with
    | nil => rfl
    | cons s ss =>
      have hstart := any_has_start s ss
      rw [← hsame] at hstart
      cases hstart
  | cons r rs ih =>
    cases ss with
    | nil =>
      have hstart := any_has_start r rs
      rw [hsame] at hstart
      cases hstart
    | cons s ss =>
      have hrs := first_le hr hs hsame
      have hsr := first_le hs hr fun n => (hsame n).symm
      have hfirst : r = s := by
        cases r
        cases s
        simp only [CharRange.mk.injEq]
        simp only at hrs hsr
        omega
      subst hfirst
      have htail : ∀ n, rs.any (·.has n) = ss.any (·.has n) := by
        intro n
        have hn := hsame n
        rw [List.any_cons, List.any_cons] at hn
        cases hhas : r.has n with
        | false => simpa only [hhas, Bool.false_or] using hn
        | true =>
          -- what is in the first range is in no other
          have hlt := (CharRange.has_iff.1 hhas).2
          have hnone : ∀ rest, Apart (r :: rest) → rest.any (·.has n) = false := fun rest h =>
            Bool.eq_false_iff.2 fun hrest => Nat.lt_asymm hlt (stop_lt_of_any_has h hrest)
          rw [hnone rs hr, hnone ss hs]
      rw [ih (List.pairwise_cons.1 hr).2 (List.pairwise_cons.1 hs).2 htail]

/-- **Extensionality.**  Sets with the same characters are equal. -/
@[ext] theorem ext {a b : CharSet} (h : ∀ c, a.contains c = b.contains c) : a = b := by
  obtain ⟨rs, hr⟩ := a
  obtain ⟨ss, hs⟩ := b
  have hout : ∀ (ranges : List CharRange) (n : Nat), Char.numCodePoints ≤ n →
      ranges.any (·.has n) = false := by
    intro ranges n hn
    rw [List.any_eq_false]
    intro r _ hhas
    have := r.stop_le
    have := CharRange.has_iff.1 hhas
    omega
  simp only [mk.injEq]
  refine ranges_eq hr hs fun n => ?_
  by_cases hn : n < Char.numCodePoints
  · have hc := h (Char.ofOrdinal ⟨n, hn⟩)
    simpa only [contains, hasOrdinal, Char.ordinal_ofOrdinal] using hc
  · rw [hout rs n (by omega), hout ss n (by omega)]

/-! ## Intervals -/

/-- The range of the ordinals from `start` up to `stop`, if there are any. -/
def between (start stop : Nat) : List CharRange :=
  if h : start < min stop Char.numCodePoints then
    [⟨start, min stop Char.numCodePoints, h, Nat.min_le_right _ _⟩]
  else []

theorem apart_between (start stop : Nat) : Apart (between start stop) := by
  unfold between
  split <;> simp [Apart]

theorem any_has_between {start stop n : Nat} :
    (between start stop).any (·.has n) = true ↔
      start ≤ n ∧ n < stop ∧ n < Char.numCodePoints := by
  unfold between
  split
  · simp only [List.any_cons, List.any_nil, Bool.or_false, CharRange.has_iff]
    omega
  · simp only [List.any_nil, Bool.false_eq_true, false_iff]
    omega

/-- The characters with ordinals from `start` up to `stop`. -/
def interval (start stop : Nat) : CharSet :=
  ⟨between start stop, apart_between start stop⟩

theorem contains_interval {start stop : Nat} {c : Char} :
    (interval start stop).contains c = true ↔ start ≤ c.ordinal ∧ c.ordinal < stop := by
  have := c.ordinal.isLt
  simp only [contains, hasOrdinal, interval, any_has_between]
  omega

/-- No character. -/
def empty : CharSet := ⟨[], .nil⟩

/-- Every character. -/
def all : CharSet := interval 0 Char.numCodePoints

/-- The characters from `first` to `last`, both included. -/
def ofRange (first last : Char) : CharSet := interval first.ordinal (last.ordinal + 1)

/-- One character. -/
def singleton (c : Char) : CharSet := ofRange c c

@[simp] theorem contains_empty (c : Char) : empty.contains c = false := rfl

@[simp] theorem contains_all (c : Char) : all.contains c = true :=
  contains_interval.2 ⟨Nat.zero_le _, c.ordinal.isLt⟩

@[simp] theorem contains_ofRange {first last c : Char} :
    (ofRange first last).contains c = true ↔ first ≤ c ∧ c ≤ last := by
  rw [ofRange, contains_interval, Char.le_iff_ordinal_le, Char.le_iff_ordinal_le, Fin.le_def,
    Fin.le_def, Nat.lt_succ_iff]

@[simp] theorem contains_singleton {c d : Char} : (singleton c).contains d = true ↔ d = c := by
  rw [singleton, contains_ofRange]
  constructor
  · rintro ⟨hle, hge⟩
    exact Char.le_antisymm hge hle
  · rintro rfl
    exact ⟨Char.le_refl _, Char.le_refl _⟩

/-- Whether the set is one character. -/
def isSingleton (set : CharSet) : Bool :=
  match set.ranges with
  | [r] => r.stop == r.start + 1
  | _ => false

theorem isSingleton_iff {set : CharSet} : set.isSingleton = true ↔ ∃ c, set = singleton c := by
  constructor
  · intro h
    obtain ⟨ranges, hapart⟩ := set
    rw [isSingleton] at h
    split at h
    · next r hranges =>
      obtain rfl : ranges = [r] := hranges
      have hstop := eq_of_beq h
      have hstart := Nat.lt_of_lt_of_le r.start_lt_stop r.stop_le
      refine ⟨Char.ofOrdinal ⟨r.start, hstart⟩, ext fun d => ?_⟩
      rw [Bool.eq_iff_iff, singleton, ofRange, contains_interval, Char.ordinal_ofOrdinal]
      simp only [contains, hasOrdinal, List.any_cons, List.any_nil, Bool.or_false,
        CharRange.has_iff, hstop]
    · cases h
  · rintro ⟨c, rfl⟩
    rw [singleton, ofRange]
    obtain ⟨n, hn⟩ := c.ordinal
    have hmin : min (n + 1) Char.numCodePoints = n + 1 := Nat.min_eq_left hn
    simp [isSingleton, interval, between, hmin]

/-! ## Code points -/

/-- How many characters have a code point below `n`: those from `0xD800` to `0xDFFF` have none. -/
def charsBelow (n : Nat) : Nat :=
  if n ≤ 0xD800 then n else max n 0xE000 - Char.numSurrogates

/-- The characters with code points from `first` to `last`, both included. -/
def ofCodePoints (first last : Nat) : CharSet := interval (charsBelow first) (charsBelow (last + 1))

theorem val_ordinal (c : Char) :
    (c.ordinal : Nat) = if c.toNat < 0xD800 then c.toNat else c.toNat - Char.numSurrogates := by
  have hval : c.val < 0xD800 ↔ c.toNat < 0xD800 := Iff.rfl
  rw [Char.ordinal]
  split
  · next h => rw [if_pos (hval.1 h)]; rfl
  · next h => rw [if_neg (mt hval.2 h)]; rfl

theorem ordinal_lt_charsBelow {c : Char} {n : Nat} : c.ordinal < charsBelow n ↔ c.toNat < n := by
  have hvalid : c.toNat < 0xD800 ∨ 0xDFFF < c.toNat ∧ c.toNat < 0x110000 := c.valid
  rw [val_ordinal, charsBelow, Char.numSurrogates]
  split <;> split <;> omega

@[simp] theorem contains_ofCodePoints {first last : Nat} {c : Char} :
    (ofCodePoints first last).contains c = true ↔ first ≤ c.toNat ∧ c.toNat ≤ last := by
  rw [ofCodePoints, contains_interval, ordinal_lt_charsBelow, ← Nat.not_lt,
    ordinal_lt_charsBelow, Nat.not_lt, Nat.lt_succ_iff]

/-! ## Union -/

/-- Adds a range to ascending ranges, joining it with those that it meets or touches. -/
def insertRange (r : CharRange) : List CharRange → List CharRange
  | [] => [r]
  | x :: xs =>
    if r.stop < x.start then r :: x :: xs
    else if x.stop < r.start then x :: insertRange r xs
    else insertRange (r.hull x) xs

theorem any_has_insertRange (r : CharRange) (ranges : List CharRange) (n : Nat) :
    (insertRange r ranges).any (·.has n) = (r.has n || ranges.any (·.has n)) := by
  fun_induction insertRange r ranges with
  | case1 r => simp
  | case2 r x xs hbefore => rfl
  | case3 r x xs hbefore hafter ih => rw [List.any_cons, ih, List.any_cons, Bool.or_left_comm]
  | case4 r x xs hbefore hafter ih =>
    rw [ih, CharRange.has_hull hbefore hafter, List.any_cons, Bool.or_assoc]

/-- What is added lies beyond a place if the range and the ranges do. -/
theorem lt_start_of_mem_insertRange {m : Nat} {r : CharRange} {ranges : List CharRange}
    (hr : m < r.start) (hranges : ∀ s ∈ ranges, m < s.start) :
    ∀ s ∈ insertRange r ranges, m < s.start := by
  fun_induction insertRange r ranges with
  | case1 r => simpa using hr
  | case2 r x xs hbefore => simpa using ⟨hr, by simpa using hranges⟩
  | case3 r x xs hbefore hafter ih =>
    rw [List.forall_mem_cons] at hranges ⊢
    exact ⟨hranges.1, ih hr hranges.2⟩
  | case4 r x xs hbefore hafter ih =>
    rw [List.forall_mem_cons] at hranges
    exact ih (Nat.lt_min.2 ⟨hr, hranges.1⟩) hranges.2

/-- **Ranges stay apart** when one is added. -/
theorem apart_insertRange {r : CharRange} {ranges : List CharRange} (h : Apart ranges) :
    Apart (insertRange r ranges) := by
  fun_induction insertRange r ranges with
  | case1 r => simp [Apart]
  | case2 r x xs hbefore =>
    refine List.pairwise_cons.2 ⟨?_, h⟩
    rw [List.forall_mem_cons]
    refine ⟨hbefore, fun s hs => ?_⟩
    have := (List.pairwise_cons.1 h).1 s hs
    have := x.start_lt_stop
    omega
  | case3 r x xs hbefore hafter ih =>
    obtain ⟨hx, hxs⟩ := List.pairwise_cons.1 h
    exact List.pairwise_cons.2 ⟨lt_start_of_mem_insertRange hafter hx, ih hxs⟩
  | case4 r x xs hbefore hafter ih => exact ih (List.pairwise_cons.1 h).2

/-- Adds a range. -/
def insert (r : CharRange) (set : CharSet) : CharSet :=
  ⟨insertRange r set.ranges, apart_insertRange set.apart⟩

/-- The characters in either set. -/
def union (a b : CharSet) : CharSet :=
  a.ranges.foldr insert b

/-- The characters in any of the sets. -/
def unions (sets : List CharSet) : CharSet :=
  sets.foldr union empty

/-- The characters of a list. -/
def ofChars (cs : List Char) : CharSet :=
  unions (cs.map singleton)

/-- The characters with code points in the given ranges, both ends included. -/
def ofRanges (ranges : List (Nat × Nat)) : CharSet :=
  unions (ranges.map fun r => ofCodePoints r.1 r.2)

theorem contains_insert (r : CharRange) (set : CharSet) (c : Char) :
    (insert r set).contains c = (r.has c.ordinal || set.contains c) :=
  any_has_insertRange r set.ranges c.ordinal

@[simp] theorem contains_union (a b : CharSet) (c : Char) :
    (a.union b).contains c = (a.contains c || b.contains c) := by
  have hfold : ∀ ranges : List CharRange, (ranges.foldr insert b).contains c =
      (ranges.any (·.has c.ordinal) || b.contains c) := by
    intro ranges
    induction ranges with
    | nil => simp
    | cons r ranges ih => rw [List.foldr_cons, contains_insert, ih, List.any_cons, Bool.or_assoc]
  exact hfold a.ranges

@[simp] theorem contains_unions (sets : List CharSet) (c : Char) :
    (unions sets).contains c = sets.any (·.contains c) := by
  induction sets with
  | nil => rfl
  | cons set sets ih => rw [List.any_cons, ← ih, ← contains_union]; rfl

@[simp] theorem contains_ofChars {cs : List Char} {c : Char} :
    (ofChars cs).contains c = true ↔ c ∈ cs := by
  simp [ofChars]

theorem contains_ofRanges {ranges : List (Nat × Nat)} {c : Char} :
    (ofRanges ranges).contains c = true ↔ ∃ r ∈ ranges, r.1 ≤ c.toNat ∧ c.toNat ≤ r.2 := by
  simp [ofRanges]

/-! ## Complement, intersection and difference -/

/-- The ordinals from `next` on that lie in none of the ascending ranges. -/
def gaps (next : Nat) : List CharRange → List CharRange
  | [] => between next Char.numCodePoints
  | x :: xs => between next x.start ++ gaps x.stop xs

theorem any_has_gaps {next : Nat} {ranges : List CharRange} (h : Apart ranges)
    (hnext : ∀ s ∈ ranges, next ≤ s.start) {n : Nat} :
    (gaps next ranges).any (·.has n) = true ↔
      next ≤ n ∧ n < Char.numCodePoints ∧ ¬ ranges.any (·.has n) = true := by
  induction ranges generalizing next with
  | nil =>
    rw [gaps, any_has_between]
    simp
  | cons x xs ih =>
    obtain ⟨hx, hxs⟩ := List.pairwise_cons.1 h
    have hbeyond := @stop_lt_of_any_has x xs h n
    have := hnext x List.mem_cons_self
    have := x.start_lt_stop
    have := x.stop_le
    rw [gaps, List.any_append, Bool.or_eq_true, any_has_between,
      ih hxs fun s hs => Nat.le_of_lt (hx s hs), List.any_cons, Bool.or_eq_true, CharRange.has_iff]
    cases hrest : xs.any (·.has n) with
    | true =>
      have := hbeyond hrest
      simp only [not_true_eq_false, or_true, and_false, or_false, iff_false]
      omega
    | false =>
      simp only [Bool.false_eq_true, not_false_eq_true, and_true, or_false]
      omega

theorem le_start_of_mem_gaps {next : Nat} {ranges : List CharRange} (h : Apart ranges)
    (hnext : ∀ s ∈ ranges, next ≤ s.start) {r : CharRange} (hr : r ∈ gaps next ranges) :
    next ≤ r.start := by
  have hany : (gaps next ranges).any (·.has r.start) = true :=
    List.any_eq_true.2 ⟨r, hr, CharRange.has_iff.2 ⟨Nat.le_refl _, r.start_lt_stop⟩⟩
  exact ((any_has_gaps h hnext).1 hany).1

/-- **What lies between ranges** is itself ascending and apart. -/
theorem apart_gaps {ranges : List CharRange} (h : Apart ranges) (next : Nat) :
    Apart (gaps next ranges) := by
  induction ranges generalizing next with
  | nil => exact apart_between _ _
  | cons x xs ih =>
    obtain ⟨hx, hxs⟩ := List.pairwise_cons.1 h
    refine List.pairwise_append.2 ⟨apart_between _ _, ih hxs _, fun r hr s hs => ?_⟩
    have hs := le_start_of_mem_gaps hxs (fun s hs => Nat.le_of_lt (hx s hs)) hs
    have := x.start_lt_stop
    unfold between at hr
    split at hr
    · obtain rfl := List.mem_singleton.1 hr
      simp only
      omega
    · cases hr

/-- The characters that are not in the set. -/
def complement (set : CharSet) : CharSet :=
  ⟨gaps 0 set.ranges, apart_gaps set.apart 0⟩

/-- The characters in both sets. -/
def inter (a b : CharSet) : CharSet :=
  (a.complement.union b.complement).complement

/-- The characters of the first set that are not in the second. -/
def diff (a b : CharSet) : CharSet :=
  a.inter b.complement

/-- The characters in exactly one of the sets. -/
def symmDiff (a b : CharSet) : CharSet :=
  (a.diff b).union (b.diff a)

@[simp] theorem contains_complement (set : CharSet) (c : Char) :
    set.complement.contains c = !set.contains c := by
  rw [Bool.eq_iff_iff, Bool.not_eq_true', ← Bool.not_eq_true]
  refine (any_has_gaps set.apart fun s _ => Nat.zero_le _).trans ?_
  simp only [Nat.zero_le, c.ordinal.isLt, true_and]
  rfl

@[simp] theorem contains_inter (a b : CharSet) (c : Char) :
    (a.inter b).contains c = (a.contains c && b.contains c) := by
  simp [inter]

@[simp] theorem contains_diff (a b : CharSet) (c : Char) :
    (a.diff b).contains c = (a.contains c && !b.contains c) := by
  simp [diff]

@[simp] theorem contains_symmDiff (a b : CharSet) (c : Char) :
    (a.symmDiff b).contains c = (a.contains c != b.contains c) := by
  rw [symmDiff, contains_union, contains_diff, contains_diff]
  cases a.contains c <;> cases b.contains c <;> rfl

end CharSet

end VersionBump
