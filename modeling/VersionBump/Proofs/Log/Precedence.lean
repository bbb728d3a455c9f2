import Mathlib.Data.List.Induction
import VersionBump.Proofs.Log.Parts

/-!
# Which part of the settings decides

A text of log settings may say several things about one source.  This file says which of them
counts, in terms of the parts of the text and not of the lists that the reader builds.

* `InForce`: of several directives for one name, the last one.  These are what is left after all
  directives were inserted (`mem_foldl_insertDirective_iff`), and the order of different names among
  them is of no account (`inForce_swap`).
* `decisive_of_longest`: among these the longest name decides.  Two different names of the same
  length cannot both fit, with one exception: the empty name is as short as no name at all.
* `Governs`: what is in force under the settings of a text, the default included.
* **`settings_precedence`**: a part that names the source itself and comes last decides, whatever
  stands before it; without any part that fits, the default does; and the order of parts for
  different names does not matter.
-/

namespace VersionBump.Log

open Text

/-! ## What is in force -/

/-- **In force.**  A directive stands in a list, and none with the same name comes after it. -/
def InForce (directives : List Directive) (d : Directive) : Prop :=
  ∃ before after, directives = before ++ d :: after ∧ ∀ e ∈ after, e.name ≠ d.name

variable {directives : List Directive} {d e : Directive}

lemma not_inForce_nil : ¬ InForce [] d := by
  rintro ⟨before, after, heq, -⟩
  simp at heq

/-- What the last directive leaves in force. -/
lemma inForce_concat :
    InForce (directives ++ [e]) d ↔ d = e ∨ InForce directives d ∧ d.name ≠ e.name := by
  constructor
  · rintro ⟨before, after, heq, hafter⟩
    rcases List.eq_nil_or_concat after with rfl | ⟨after, last, rfl⟩
    · obtain ⟨-, hlast⟩ := List.append_inj' heq rfl
      exact Or.inl (by simpa using hlast.symm)
    · rw [List.concat_eq_append, ← List.cons_append, ← List.append_assoc] at heq
      obtain ⟨hdirectives, hlast⟩ := List.append_inj' heq rfl
      obtain rfl : e = last := by simpa using hlast
      refine Or.inr ⟨⟨before, after, hdirectives, fun x hx => hafter x (by simp [hx])⟩, ?_⟩
      exact (hafter e (by simp)).symm
  · rintro (rfl | ⟨⟨before, after, rfl, hafter⟩, hname⟩)
    · exact ⟨directives, [], rfl, by simp⟩
    · refine ⟨before, after ++ [e], by simp, fun x hx => ?_⟩
      rcases List.mem_append.1 hx with hx | hx
      · exact hafter x hx
      · rw [List.mem_singleton.1 hx]
        exact hname.symm

/-- One name, one directive. -/
lemma InForce.eq_of_name (hd : InForce directives d) (he : InForce directives e)
    (hname : d.name = e.name) : d = e := by
  induction directives using List.reverseRecOn with
  | nil => exact absurd hd not_inForce_nil
  | append_singleton directives last ih =>
      rcases inForce_concat.1 hd with rfl | ⟨hd, hdlast⟩
      · rcases inForce_concat.1 he with rfl | ⟨-, helast⟩
        · rfl
        · exact absurd hname.symm helast
      · rcases inForce_concat.1 he with rfl | ⟨he, -⟩
        · exact absurd hname hdlast
        · exact ih hd he

lemma InForce.mem (h : InForce directives d) : d ∈ directives := by
  obtain ⟨before, after, rfl, -⟩ := h
  simp

/-- **Different names may be exchanged.** -/
lemma inForce_swap {left right : List Directive} {a b : Directive} (hname : a.name ≠ b.name) :
    InForce (left ++ a :: b :: right) d ↔ InForce (left ++ b :: a :: right) d := by
  induction right using List.reverseRecOn with
  | nil =>
      have hsplit : ∀ x y : Directive, left ++ [x, y] = left ++ [x] ++ [y] := by simp
      rw [hsplit, hsplit, inForce_concat, inForce_concat, inForce_concat, inForce_concat]
      constructor
      · rintro (rfl | ⟨rfl | ⟨hd, ha⟩, hb⟩)
        · exact Or.inr ⟨Or.inl rfl, hname.symm⟩
        · exact Or.inl rfl
        · exact Or.inr ⟨Or.inr ⟨hd, hb⟩, ha⟩
      · rintro (rfl | ⟨rfl | ⟨hd, hb⟩, ha⟩)
        · exact Or.inr ⟨Or.inl rfl, hname⟩
        · exact Or.inl rfl
        · exact Or.inr ⟨Or.inr ⟨hd, ha⟩, hb⟩
  | append_singleton right last ih =>
      simp only [← List.cons_append, ← List.append_assoc, inForce_concat] at ih ⊢
      rw [ih]

lemma mem_insertDirective_iff :
    d ∈ insertDirective directives e ↔ d = e ∨ d ∈ directives ∧ d.name ≠ e.name := by
  rw [insertDirective]
  split_ifs with hany
  · rw [List.any_eq_true] at hany
    obtain ⟨old, hold, hsame⟩ := hany
    rw [List.mem_map]
    constructor
    · rintro ⟨x, hx, rfl⟩
      by_cases hname : x.name = e.name
      · simp [hname]
      · simp [hname, hx]
    · rintro (rfl | ⟨hd, hname⟩)
      · exact ⟨old, hold, if_pos (by simpa using hsame)⟩
      · exact ⟨d, hd, if_neg hname⟩
  · rw [List.mem_append, List.mem_singleton, or_comm]
    refine or_congr_right (iff_self_and.2 fun hd hname => hany ?_)
    exact List.any_eq_true.2 ⟨d, hd, by simpa using hname⟩

/-- **What insertion leaves** is what is in force. -/
lemma mem_foldl_insertDirective_iff :
    d ∈ directives.foldl insertDirective [] ↔ InForce directives d := by
  induction directives using List.reverseRecOn generalizing d with
  | nil => simp [not_inForce_nil]
  | append_singleton directives last ih =>
      rw [List.foldl_append, List.foldl_cons, List.foldl_nil, mem_insertDirective_iff,
        inForce_concat, ih]

/-! ## Which directive decides -/

/-- What the last directive decides. -/
lemma decisive_concat (directives : List Directive) (e : Directive) :
    decisive (directives ++ [e]) =
      if e.applies then
        match decisive directives with
        | some d => if d.length ≤ e.length then some e else some d
        | none => some e
      else decisive directives := by
  simp only [decisive, List.filter_append, List.foldl_append]
  by_cases happlies : e.applies = true
  · rw [if_pos happlies, List.filter_cons_of_pos happlies]
    rfl
  · rw [if_neg happlies, List.filter_cons_of_neg happlies]
    rfl

/-- **What decides is one of the longest** among the directives that apply. -/
lemma decisive_spec (directives : List Directive) :
    (decisive directives = none ∧ ∀ e ∈ directives, ¬ e.applies = true) ∨
      ∃ d ∈ directives, decisive directives = some d ∧ d.applies = true ∧
        ∀ e ∈ directives, e.applies = true → e.length ≤ d.length := by
  induction directives using List.reverseRecOn with
  | nil => exact Or.inl ⟨rfl, by simp⟩
  | append_singleton directives last ih =>
      have hlast : last ∈ directives ++ [last] := by simp
      rw [decisive_concat]
      simp only [List.forall_mem_append, List.forall_mem_singleton]
      by_cases happlies : last.applies = true
      · rw [if_pos happlies]
        rcases ih with ⟨hnone, hothers⟩ | ⟨d, hd, hsome, hdapplies, hlongest⟩
        · rw [hnone]
          exact Or.inr ⟨last, hlast, rfl, happlies,
            fun e he heapplies => absurd heapplies (hothers e he), fun _ => Nat.le_refl _⟩
        · rw [hsome]
          by_cases hlonger : d.length ≤ last.length
          · refine Or.inr ⟨last, hlast, if_pos hlonger, happlies, fun e he heapplies => ?_,
              fun _ => Nat.le_refl _⟩
            exact Nat.le_trans (hlongest e he heapplies) hlonger
          · exact Or.inr ⟨d, List.mem_append_left _ hd, if_neg hlonger, hdapplies, hlongest,
              fun _ => Nat.le_of_not_le hlonger⟩
      · rw [if_neg happlies]
        rcases ih with ⟨hnone, hothers⟩ | ⟨d, hd, hsome, hdapplies, hlongest⟩
        · exact Or.inl ⟨hnone, hothers, happlies⟩
        · exact Or.inr ⟨d, List.mem_append_left _ hd, hsome, hdapplies, hlongest,
            fun h => absurd h happlies⟩

/-- **The longest name decides**, if only one has its length. -/
lemma decisive_of_longest (hd : d ∈ directives) (happlies : d.applies = true)
    (hlongest : ∀ e ∈ directives, e.applies = true → d.length ≤ e.length → e = d) :
    decisive directives = some d := by
  rcases decisive_spec directives with ⟨-, hothers⟩ | ⟨e, he, hsome, heapplies, hmax⟩
  · exact absurd happlies (hothers d hd)
  · rw [hsome, hlongest e he heapplies (hmax d hd happlies)]

/-- **Names that fit have different lengths**, the empty name aside. -/
lemma Directive.name_eq_of_length (hd : d.applies = true) (he : e.applies = true)
    (hdname : d.name ≠ some []) (hename : e.name ≠ some []) (hlength : d.length = e.length) :
    d.name = e.name := by
  obtain ⟨dname, dverbosity⟩ := d
  obtain ⟨ename, everbosity⟩ := e
  cases dname with
  | none =>
      cases ename with
      | none => rfl
      | some m =>
          have hempty : m = [] := List.length_eq_zero_iff.1 hlength.symm
          exact absurd (congrArg some hempty) hename
  | some n =>
      cases ename with
      | none =>
          have hempty : n = [] := List.length_eq_zero_iff.1 hlength
          exact absurd (congrArg some hempty) hdname
      | some m =>
          simp only [applies, List.isPrefixOf_iff_prefix] at hd he
          exact congrArg some ((List.prefix_of_prefix_length_le hd he
            (Nat.le_of_eq hlength)).eq_of_length hlength)

/-- Lists with the same members decide alike, if what applies in them has different lengths. -/
lemma decisive_congr {directives' : List Directive} (hmem : ∀ d, d ∈ directives ↔ d ∈ directives')
    (hlengths : ∀ d ∈ directives, ∀ e ∈ directives, d.applies = true → e.applies = true →
      d.length = e.length → d = e) :
    decisive directives = decisive directives' := by
  rcases decisive_spec directives with ⟨hnone, hothers⟩ | ⟨d, hd, hsome, happlies, hmax⟩
  · rcases decisive_spec directives' with ⟨hnone', -⟩ | ⟨e, he, -, heapplies, -⟩
    · rw [hnone, hnone']
    · exact absurd heapplies (hothers e ((hmem e).2 he))
  · rw [hsome]
    refine (decisive_of_longest ((hmem d).1 hd) happlies fun e he heapplies hle => ?_).symm
    have hedirectives := (hmem e).2 he
    exact hlengths e hedirectives d hd heapplies happlies
      (Nat.le_antisymm (hmax e hedirectives heapplies) hle)

/-! ## The settings of a text -/

/-- Without a slash a text is all directives, which are inserted before and after the default. -/
lemma read_eq {text : String} (hslash : '/' ∉ text.toList) :
    ∃ warnings, Settings.read (some text) =
      ⟨(directivesOf text.toList ++ defaultDirective :: directivesOf text.toList).foldl
        insertDirective [], none, warnings⟩ := by
  let warnings := String.join ((readParts text.toList).filterMap Part.warning?)
  have hreading : Reading.ofText text.toList = ⟨directivesOf text.toList, none, warnings⟩ := by
    simp only [Reading.ofText, fields_eq_singleton_iff.2 ⟨hslash, rfl⟩]
    rfl
  refine ⟨warnings ++ warnings, ?_⟩
  rw [List.foldl_append, List.foldl_cons, Settings.read, hreading]

/-- **What governs.**  The directives in force under the settings of a text. -/
def Governs (text : List Char) (d : Directive) : Prop :=
  InForce (directivesOf text ++ defaultDirective :: directivesOf text) d

/-- What governs is said in the text, or is the default. -/
lemma Governs.mem {text : List Char} (h : Governs text d) :
    d ∈ directivesOf text ∨ d = defaultDirective := by
  have hmem := InForce.mem h
  simp only [List.mem_append, List.mem_cons] at hmem
  tauto

/-- **What is shown** is up to the longest name in force. -/
lemma shows_read {text : String} (hslash : '/' ∉ text.toList) (hd : Governs text.toList d)
    (happlies : d.applies = true)
    (hlongest : ∀ e, Governs text.toList e → e.applies = true → d.length ≤ e.length → e = d)
    (record : Record) :
    (Settings.read (some text)).shows record = d.verbosity.shows record.level := by
  obtain ⟨warnings, hread⟩ := read_eq hslash
  rw [hread, Settings.shows, decisive_of_longest (mem_foldl_insertDirective_iff.2 hd) happlies
    fun e he => hlongest e (mem_foldl_insertDirective_iff.1 he)]
  simp

/-! ## The parts that decide -/

/-- Of the names that fit, only the source's own is as long as the source. -/
lemma Directive.name_eq_source (happlies : d.applies = true)
    (hlength : source.toList.length ≤ d.length) : d.name = some source.toList := by
  obtain ⟨name, verbosity⟩ := d
  cases name with
  | none =>
      have hlong : ¬ source.toList.length ≤ 0 := by decide
      exact absurd hlength hlong
  | some name =>
      simp only [applies, List.isPrefixOf_iff_prefix] at happlies
      exact congrArg some (happlies.eq_of_length_le hlength)

/-- **The source by its name.**  A part at the end that names the source itself decides. -/
lemma shows_source {spec word : String} {verbosity : Verbosity} (hslash : '/' ∉ spec.toList)
    (hword : Verbosity.ofName? word.toList = some verbosity) (record : Record) :
    (Settings.read (some (spec ++ "," ++ source ++ "=" ++ word))).shows record
      = verbosity.shows record.level := by
  have hplain := plain_of_ofName? hword
  set part := source.toList ++ '=' :: word.toList with hpart
  have hchars : ∀ c ∈ part, c ≠ ',' ∧ c ≠ '/' ∧ Unicode.isWhiteSpace c = false := by
    intro c hc
    rcases List.mem_append.1 hc with hc | hc
    · exact ⟨(plain_source c hc).1, (plain_source c hc).2.1, (plain_source c hc).2.2.2⟩
    · rcases List.mem_cons.1 hc with rfl | hc
      · decide +kernel
      · exact ⟨(hplain c hc).1, (hplain c hc).2.1, (hplain c hc).2.2.2⟩
  have htext : (spec ++ "," ++ source ++ "=" ++ word).toList = spec.toList ++ ',' :: part := by
    simp [hpart]
  have hsets : Sets part (some source.toList) verbosity :=
    .assigned (fun h => (plain_source _ h).2.2.1 rfl) (fun h => (hplain _ h).2.2.1 rfl)
      (by rw [trim_of_forall fun c hc => (hplain c hc).2.2.2, hword])
  have hparts : parts part = [part] :=
    parts_of_forall (by simp [hpart]) fun c hc => ⟨(hchars c hc).1, (hchars c hc).2.2⟩
  have hdirectives : directivesOf (spec.toList ++ ',' :: part)
      = directivesOf spec.toList ++ [⟨some source.toList, verbosity⟩] := by
    rw [directivesOf_append, directivesOf, directivesOf, readParts_eq, readParts_eq, hparts,
      List.map_singleton, read_eq_directive_iff.2 hsets]
    rfl
  have hgoverns : Governs (spec.toList ++ ',' :: part) ⟨some source.toList, verbosity⟩ := by
    rw [Governs, hdirectives, ← List.cons_append, ← List.append_assoc]
    exact ⟨_, [], rfl, by simp⟩
  rw [← htext] at hgoverns
  refine shows_read ?_ hgoverns (List.isPrefixOf_iff_prefix.2 List.prefix_rfl) ?_ record
  · rw [htext]
    simpa [hslash] using fun h => (hchars _ h).2.1 rfl
  · intro e he happlies hlength
    exact InForce.eq_of_name he hgoverns (e.name_eq_source happlies hlength)

/-- **The default.**  Where no part speaks of the source, records are shown down to `info`. -/
lemma shows_default {spec : String} (hslash : '/' ∉ spec.toList)
    (hbare : ∀ part ∈ parts spec.toList, ∀ verbosity, ¬ Sets part none verbosity)
    (hnames : ∀ part ∈ parts spec.toList, ∀ name verbosity,
      Sets part (some name) verbosity → ¬ name <+: source.toList) (record : Record) :
    (Settings.read (some spec)).shows record
      = (Verbosity.upTo .info).shows record.level := by
  have hothers : ∀ e ∈ directivesOf spec.toList, e.name ≠ none ∧ ¬ e.applies = true := by
    intro e he
    obtain ⟨part, hpart, hsets⟩ := mem_directivesOf_iff.1 he
    obtain ⟨name, verbosity⟩ := e
    cases name with
    | none => exact absurd hsets (hbare part hpart verbosity)
    | some name =>
        refine ⟨by simp, fun happlies => hnames part hpart name verbosity hsets ?_⟩
        exact List.isPrefixOf_iff_prefix.1 happlies
  have hgoverns : Governs spec.toList defaultDirective :=
    ⟨_, _, rfl, fun e he => (hothers e he).1⟩
  refine shows_read hslash hgoverns rfl (fun e he happlies _ => ?_) record
  rcases Governs.mem he with hmem | rfl
  · exact absurd happlies (hothers e hmem).2
  · rfl

/-- **Parts for different names may be exchanged.** -/
lemma governs_swap {text text' a b : List Char} {left right : List (List Char)}
    {name name' : Option (List Char)} {verbosity verbosity' : Verbosity}
    (hparts : parts text = left ++ a :: b :: right)
    (hparts' : parts text' = left ++ b :: a :: right) (ha : Sets a name verbosity)
    (hb : Sets b name' verbosity') (hname : name ≠ name') :
    Governs text d ↔ Governs text' d := by
  set before := (left.map Part.read).filterMap Part.directive? with hbefore
  set after := (right.map Part.read).filterMap Part.directive? with hafter
  set first : Directive := ⟨name, verbosity⟩ with hfirst
  set second : Directive := ⟨name', verbosity'⟩ with hsecond
  have hread := read_eq_directive_iff.2 ha
  have hread' := read_eq_directive_iff.2 hb
  have hdirectives : directivesOf text = before ++ first :: second :: after := by
    simp [directivesOf, readParts_eq, hparts, hread, hread', Part.directive?, hbefore, hafter,
      hfirst, hsecond]
  have hdirectives' : directivesOf text' = before ++ second :: first :: after := by
    simp [directivesOf, readParts_eq, hparts', hread, hread', Part.directive?, hbefore, hafter,
      hfirst, hsecond]
  rw [Governs, Governs, hdirectives, hdirectives']
  -- the directives stand on both sides of the default, and are exchanged on both
  calc InForce (before ++ first :: second :: after ++
          defaultDirective :: (before ++ first :: second :: after)) d
      ↔ InForce (before ++ first :: second :: (after ++
          defaultDirective :: (before ++ first :: second :: after))) d := by
        simp only [List.append_assoc, List.cons_append]
    _ ↔ InForce (before ++ second :: first :: (after ++
          defaultDirective :: (before ++ first :: second :: after))) d := inForce_swap hname
    _ ↔ InForce ((before ++ second :: first :: after ++ defaultDirective :: before) ++
          first :: second :: after) d := by
        simp only [List.append_assoc, List.cons_append]
    _ ↔ InForce ((before ++ second :: first :: after ++ defaultDirective :: before) ++
          second :: first :: after) d := inForce_swap hname
    _ ↔ InForce (before ++ second :: first :: after ++
          defaultDirective :: (before ++ second :: first :: after)) d := by
        simp only [List.append_assoc, List.cons_append]

/-- Texts under which the same directives govern show the same, if no part is for the empty name. -/
lemma shows_congr {spec spec' : String} (hslash : '/' ∉ spec.toList) (hslash' : '/' ∉ spec'.toList)
    (hempty : ∀ part ∈ parts spec.toList, ∀ verbosity, ¬ Sets part (some []) verbosity)
    (hgoverns : ∀ d, Governs spec.toList d ↔ Governs spec'.toList d) (record : Record) :
    (Settings.read (some spec)).shows record = (Settings.read (some spec')).shows record := by
  obtain ⟨warnings, hread⟩ := read_eq hslash
  obtain ⟨warnings', hread'⟩ := read_eq hslash'
  have hname : ∀ d, Governs spec.toList d → d.name ≠ some [] := by
    rintro d hd hnone
    rcases hd.mem with hmem | rfl
    · obtain ⟨part, hpart, hsets⟩ := mem_directivesOf_iff.1 hmem
      exact hempty part hpart d.verbosity (hnone ▸ hsets)
    · cases hnone
  have hdecisive := decisive_congr (fun d =>
    mem_foldl_insertDirective_iff.trans ((hgoverns d).trans mem_foldl_insertDirective_iff.symm))
    fun d hd e he happlies heapplies hlength =>
      InForce.eq_of_name (mem_foldl_insertDirective_iff.1 hd) (mem_foldl_insertDirective_iff.1 he)
        (Directive.name_eq_of_length happlies heapplies
          (hname d (mem_foldl_insertDirective_iff.1 hd))
          (hname e (mem_foldl_insertDirective_iff.1 he)) hlength)
  rw [hread, hread', Settings.shows, Settings.shows, hdecisive]

/-! ## The main statement -/

/-- **The longest name decides, and the last part for it.**  In a text of settings without a slash:

* after a further part that gives the source itself a level, exactly the records up to that level
  are shown, whatever the text says;
* if no part is a bare level or for the beginning of the source's name, exactly the records up to
  `info` are shown;
* if no part is for the empty name, the same records are shown after two neighbouring parts for
  different names were exchanged. -/
theorem settings_precedence (spec : String) (hslash : '/' ∉ spec.toList) :
    (∀ (word : String) (verbosity : Verbosity),
      Verbosity.ofName? word.toList = some verbosity → ∀ record,
        (Settings.read (some (spec ++ "," ++ source ++ "=" ++ word))).shows record
          = verbosity.shows record.level) ∧
    ((∀ part ∈ parts spec.toList, ∀ verbosity, ¬ Sets part none verbosity) →
      (∀ part ∈ parts spec.toList, ∀ name verbosity,
        Sets part (some name) verbosity → ¬ name <+: source.toList) → ∀ record,
          (Settings.read (some spec)).shows record
            = (Verbosity.upTo .info).shows record.level) ∧
    ((∀ part ∈ parts spec.toList, ∀ verbosity, ¬ Sets part (some []) verbosity) →
      ∀ (spec' : String) (left right : List (List Char)) (a b : List Char)
        (name name' : Option (List Char)) (verbosity verbosity' : Verbosity),
        parts spec.toList = left ++ a :: b :: right →
        parts spec'.toList = left ++ b :: a :: right →
        Sets a name verbosity → Sets b name' verbosity' → name ≠ name' → ∀ record,
          (Settings.read (some spec')).shows record
            = (Settings.read (some spec)).shows record) := by
  refine ⟨fun word verbosity => shows_source hslash, shows_default hslash, ?_⟩
  intro hempty spec' left right a b name name' verbosity verbosity' hparts hparts' ha hb hname
    record
  have hslash' : '/' ∉ spec'.toList := by
    rw [← slash_mem_iff] at hslash ⊢
    rintro ⟨part, hpart, hmem⟩
    refine hslash ⟨part, ?_, hmem⟩
    rw [hparts'] at hpart
    rw [hparts]
    simp only [List.mem_append, List.mem_cons] at hpart ⊢
    tauto
  exact (shows_congr hslash hslash' hempty
    (fun d => governs_swap hparts hparts' ha hb hname) record).symm

/-- A level for the source after three others and a malformed part; names that do not fit; and an
exchange of two names that both fit. -/
theorem settings_precedence_on_sample :
    let crowded := "off,up=loud,up_version=debug,up_version::updater=trace"
    let unfit := "regex=trace,up_version::updater::file=off,up=loud"
    let nested := "trace,up=off,up_version=warn"
    let exchanged := "trace, up_version=warn,,up=off"
    ('/' ∉ crowded.toList ∧ '/' ∉ unfit.toList ∧ '/' ∉ nested.toList) ∧
      (∀ record, (Settings.read (some (crowded ++ "," ++ source ++ "=" ++ "Info"))).shows record
        = (Verbosity.upTo .info).shows record.level) ∧
      (∀ record, (Settings.read (some unfit)).shows record
        = (Verbosity.upTo .info).shows record.level) ∧
      ∀ record, (Settings.read (some exchanged)).shows record
        = (Settings.read (some nested)).shows record := by
  intro crowded unfit nested exchanged
  have hcrowded : '/' ∉ crowded.toList := by decide
  have hunfit : '/' ∉ unfit.toList := by decide
  have hnested : '/' ∉ nested.toList := by decide
  have hunfitParts : parts unfit.toList
      = ["regex=trace".toList, "up_version::updater::file=off".toList, "up=loud".toList] := by
    decide +kernel
  have hnestedParts : parts nested.toList
      = ["trace".toList, "up=off".toList, "up_version=warn".toList] := by
    decide +kernel
  have hexchangedParts : parts exchanged.toList
      = ["trace".toList, "up_version=warn".toList, "up=off".toList] := by
    decide +kernel
  refine ⟨⟨hcrowded, hunfit, hnested⟩, fun record => ?_, fun record => ?_, fun record => ?_⟩
  · exact (settings_precedence crowded hcrowded).1 "Info" (.upTo .info) rfl record
  · refine (settings_precedence unfit hunfit).2.1 (fun part hpart verbosity hsets => ?_)
      (fun part hpart name verbosity hsets => ?_) record
    all_goals
      rw [hunfitParts] at hpart
      rw [← read_eq_directive_iff] at hsets
      simp only [List.mem_cons, List.not_mem_nil, or_false] at hpart
    · rcases hpart with rfl | rfl | rfl <;> cases hsets
    · rcases hpart with rfl | rfl | rfl
      · cases hsets
        decide
      · cases hsets
        decide
      · cases hsets
  · refine (settings_precedence nested hnested).2.2 (fun part hpart verbosity hsets => ?_) exchanged
      ["trace".toList] [] "up=off".toList "up_version=warn".toList (some "up".toList)
      (some "up_version".toList) .off (.upTo .warn) hnestedParts hexchangedParts
      (read_eq_directive_iff.1 rfl) (read_eq_directive_iff.1 rfl) (by decide) record
    rw [hnestedParts] at hpart
    rw [← read_eq_directive_iff] at hsets
    simp only [List.mem_cons, List.not_mem_nil, or_false] at hpart
    rcases hpart with rfl | rfl | rfl <;> cases hsets

end VersionBump.Log
