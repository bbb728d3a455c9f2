import VersionBump.Pattern.Basic

/-!
# What a pattern matches

`Pattern.Matches p text i j` says that `p` can match `text` from position `i` to position `j`.  It
is defined by recursion on the pattern and says nothing about preference: which of the possible
matches is chosen is the matter of the search.
-/

namespace VersionBump

/-- `Repeats R n i j`: `n` steps of the relation `R` lead from `i` to `j`. -/
def Repeats {α : Type} (R : α → α → Prop) : Nat → α → α → Prop
  | 0, i, j => i = j
  | n + 1, i, j => ∃ k, R i k ∧ Repeats R n k j

/-- **Possible matches.**  Whether a pattern can match a text between two positions. -/
def Pattern.Matches (text : Array Char) : Pattern → Nat → Nat → Prop
  | .empty, i, j => i = j
  | .char set, i, j => j = i + 1 ∧ ∃ c, text[i]? = some c ∧ set.contains c = true
  | .look a, i, j => i = j ∧ a.holds text i = true
  | .cat p q, i, j => ∃ k, p.Matches text i k ∧ q.Matches text k j
  | .alt p q, i, j => p.Matches text i j ∨ q.Matches text i j
  | .rep p least extra _, i, j =>
    ∃ n, least ≤ n ∧ (∀ m, extra = some m → n ≤ least + m) ∧ Repeats (p.Matches text) n i j
  | .group _ p, i, j => p.Matches text i j

end VersionBump
