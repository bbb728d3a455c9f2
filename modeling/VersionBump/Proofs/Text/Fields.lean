import Mathlib.Tactic.Common
import VersionBump.Text.Fields

/-!
# Texts put together again

Taking a text apart loses nothing, and a text put together from parts without the separator comes
apart into these.  Both directions are one statement each: `fields_eq_iff` for fields, and
`cutAt_eq_iff` for a text cut in two.
-/

namespace VersionBump.Text

/-! ## Fields -/

/-- Fields are what the library calls a split. -/
lemma fields_eq_splitOn (separator : Char) (text : List Char) :
    fields separator text = text.splitOn separator := by
  induction text with
  | nil => rfl
  | cons c text ih =>
      rw [fields, ih, List.splitOn_cons_eq_if_modifyHead]
      by_cases hc : c = separator
      · simp [hc]
      · rw [if_neg hc, if_neg (by simpa using hc)]
        cases hsplit : text.splitOn separator with
        | nil => exact absurd hsplit (List.splitOn_ne_nil separator text)
        | cons field rest => rfl

/-- No field has the separator in it. -/
lemma separator_notMem_of_fields {separator : Char} {text field : List Char}
    (h : field ∈ fields separator text) : separator ∉ field := by
  induction text generalizing field with
  | nil =>
      simp only [fields, List.mem_singleton] at h
      simp [h]
  | cons c text ih =>
      rw [fields] at h
      split_ifs at h with hc
      · rcases List.mem_cons.1 h with rfl | h
        · simp
        · exact ih h
      · split at h
        · simp only [List.mem_singleton] at h
          simpa [h] using Ne.symm hc
        · next first rest hfields =>
            rw [hfields] at ih
            rcases List.mem_cons.1 h with rfl | h
            · have hfirst : separator ∉ first := ih (by simp)
              simpa [hfirst] using Ne.symm hc
            · exact ih (List.mem_cons_of_mem _ h)

/-- **Fields and their text.** -/
theorem fields_eq_iff {separator : Char} {text : List Char} {parts : List (List Char)} :
    fields separator text = parts ↔
      parts ≠ [] ∧ (∀ part ∈ parts, separator ∉ part) ∧ text = [separator].intercalate parts := by
  constructor
  · rintro rfl
    refine ⟨?_, fun part => separator_notMem_of_fields, ?_⟩
    · rw [fields_eq_splitOn]
      exact List.splitOn_ne_nil _ _
    · rw [fields_eq_splitOn, List.intercalate_splitOn]
  · rintro ⟨hparts, hseparator, rfl⟩
    rw [fields_eq_splitOn, List.splitOn_intercalate separator hseparator hparts]

lemma fields_ne_nil (separator : Char) (text : List Char) : fields separator text ≠ [] :=
  (fields_eq_iff.1 rfl).1

/-- One field is the whole text. -/
lemma fields_eq_singleton_iff {separator : Char} {text part : List Char} :
    fields separator text = [part] ↔ separator ∉ part ∧ text = part := by
  simp [fields_eq_iff]

lemma fields_eq_pair_iff {separator : Char} {text first second : List Char} :
    fields separator text = [first, second] ↔
      (separator ∉ first ∧ separator ∉ second) ∧ text = first ++ separator :: second := by
  simp [fields_eq_iff, List.intercalate]

/-- The fields of two texts with a separator between them. -/
lemma fields_append (separator : Char) (first second : List Char) :
    fields separator (first ++ separator :: second)
      = fields separator first ++ fields separator second := by
  induction first with
  | nil => simp [fields]
  | cons c first ih =>
      rw [List.cons_append, fields, ih, fields]
      split_ifs with hc
      · rfl
      · cases hfields : fields separator first with
        | nil => exact absurd hfields (fields_ne_nil _ _)
        | cons field rest => rfl

/-- The fields have the characters of the text, but for the separator. -/
lemma exists_mem_fields_iff {separator c : Char} (hc : c ≠ separator) {text : List Char} :
    (∃ field ∈ fields separator text, c ∈ field) ↔ c ∈ text := by
  induction text with
  | nil => simp [fields]
  | cons d text ih =>
      rw [fields, List.mem_cons, ← ih]
      split_ifs with hd
      · simp [hd, hc]
      · cases hfields : fields separator text with
        | nil => exact absurd hfields (fields_ne_nil _ _)
        | cons field rest => simp [or_assoc]

/-! ## Two halves -/

/-- What a mark and the text after it add to a text: nothing if there is no mark. -/
def withMark (mark : Char) : Option (List Char) → List Char
  | none => []
  | some after => mark :: after

lemma append_cutAt (mark : Char) (text : List Char) :
    (cutAt mark text).1 ++ withMark mark (cutAt mark text).2 = text := by
  induction text with
  | nil => rfl
  | cons c text ih =>
      rw [cutAt]
      split_ifs with hc
      · rw [hc]
        rfl
      · exact congrArg (c :: ·) ih

lemma mark_notMem_cutAt (mark : Char) (text : List Char) : mark ∉ (cutAt mark text).1 := by
  induction text with
  | nil => simp [cutAt]
  | cons c text ih =>
      rw [cutAt]
      split_ifs with hc
      · simp
      · simpa [ih] using Ne.symm hc

lemma cutAt_append {mark : Char} {before : List Char} (h : mark ∉ before)
    (after : Option (List Char)) : cutAt mark (before ++ withMark mark after) = (before, after) := by
  induction before with
  | nil => cases after <;> simp [withMark, cutAt]
  | cons c before ih =>
      simp only [List.mem_cons, not_or] at h
      simp [cutAt, Ne.symm h.1, ih h.2]

/-- **Two halves and their text.** -/
theorem cutAt_eq_iff {mark : Char} {text before : List Char} {after : Option (List Char)} :
    cutAt mark text = (before, after) ↔ mark ∉ before ∧ text = before ++ withMark mark after := by
  constructor
  · intro h
    have happend := append_cutAt mark text
    have hmark := mark_notMem_cutAt mark text
    rw [h] at happend hmark
    exact ⟨hmark, happend.symm⟩
  · rintro ⟨hmark, rfl⟩
    exact cutAt_append hmark after

end VersionBump.Text
