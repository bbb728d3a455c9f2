import VersionBump.Rounding

/-!
# Similar words

`Text.similarity` measures how alike two words are, to find the option that a mistyped one was
meant to be.  Two equal characters match if they stand at nearly the same place; the measure is
the mean of three ratios: matches to the length of either word, and matches in the same order to
all matches.
-/

namespace VersionBump.Text

/-- Marks the first character of `word` from place `low` to place `high` that equals `c` and is
not yet marked.  `here` is the place of the first character given. -/
def markMatch (c : Char) (low high : Nat) :
    Nat → List (Char × Bool) → Option (List (Char × Bool))
  | _, [] => none
  | here, (d, marked) :: word =>
    if low ≤ here ∧ here ≤ high ∧ c = d ∧ marked = false then some ((d, true) :: word)
    else (markMatch c low high (here + 1) word).map ((d, marked) :: ·)

/-- Matches the characters of a word, from place `here` on, with those of another: the matched
characters of the first, and the second with its matched characters marked. -/
def matchChars (window : Nat) :
    Nat → List Char → List (Char × Bool) → List Char × List (Char × Bool)
  | _, [], other => ([], other)
  | here, c :: word, other =>
    match markMatch c (here - window) (here + window) 0 other with
    | some other =>
      let (matched, other) := matchChars window (here + 1) word other
      (c :: matched, other)
    | none => matchChars window (here + 1) word other

/-- **Similarity** of two words, between zero and one. -/
def similarity (a b : List Char) : Fraction :=
  let (left, marked) := matchChars (max a.length b.length / 2 - 1) 0 a (b.map (·, false))
  let right := (marked.filter (·.2)).map (·.1)
  let matched := left.length
  let inOrder := matched - ((left.zip right).filter fun (c, d) => c ≠ d).length / 2
  if matched = 0 then ⟨0, 1⟩
  else
    let ofFirst := Fraction.round ⟨matched, a.length⟩
    let ofSecond := Fraction.round ⟨matched, b.length⟩
    ((ofFirst.add ofSecond).add (Fraction.round ⟨inOrder, matched⟩)).divide 3

/-- Whether two words are similar enough to suggest one for the other: the similarity is more than
seven tenths. -/
def areSimilar (a b : List Char) : Bool :=
  (Fraction.round ⟨7, 10⟩).less (similarity a b)

end VersionBump.Text
