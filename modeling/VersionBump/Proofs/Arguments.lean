import Mathlib.Data.List.Forall2
import VersionBump.Arguments
import VersionBump.Proofs.Update.Access

/-!
# Which arguments ask for an update

The parser looks at the first argument byte by byte.  Here its decision is told in texts:

* `IsRequest` — the argument asks for a text: `--help`, `--version`, or a hyphen with letters `h`
  and `V` after it.
* `IsSpecial` — the argument is not taken for a value when it comes first.
* **`Shape.fits_of`** — what the first argument must look like for each shape that the parser finds
  in it, and `Shape.of_eq_value_iff`: it finds a value exactly in arguments that are not special.

From this follows what the whole list comes to.  `parse_eq_singleton_iff` says that a single version
is found in two kinds of lists only, a text that is not special, or any text after `--`;
`exists_parse_eq_request_iff` says that a text is asked for by the first argument alone.
-/

namespace VersionBump.Arguments

/-! ## Texts and their bytes -/

/-- The bytes of a text. -/
def bytes (text : String) : List UInt8 := text.toUTF8.data.toList

/-- Bytes that write a text. -/
def Textual (argument : List UInt8) : Prop := ∃ text, argument = bytes text

lemma decode?_eq_some_iff {argument : List UInt8} {text : String} :
    Text.decode? argument = some text ↔ argument = bytes text := by
  rw [Text.decode?, fromUTF8?_eq_some_iff, bytes]
  constructor
  · intro h
    rw [← h]
  · rintro rfl
    rfl

lemma decode?_eq_none_iff {argument : List UInt8} :
    Text.decode? argument = none ↔ ¬ Textual argument := by
  rw [Option.eq_none_iff_forall_ne_some, Textual, not_exists]
  exact forall_congr' fun text => not_congr decode?_eq_some_iff

/-- A hyphen before some bytes does not change whether they write a text. -/
lemma textual_hyphen_cons {argument : List UInt8} :
    Textual (0x2D :: argument) ↔ Textual argument := by
  have hvalid : ∀ a : List UInt8, Textual a ↔ (ByteArray.mk a.toArray).IsValidUTF8 := by
    intro a
    constructor
    · rintro ⟨text, rfl⟩
      exact text.isValidUTF8
    · intro h
      exact ⟨.ofByteArray _ h, rfl⟩
  have happend : ByteArray.mk (0x2D :: argument).toArray
      = ['-'].utf8Encode ++ ByteArray.mk argument.toArray := by
    refine ByteArray.ext ?_
    rw [ByteArray.data_append]
    simp [List.utf8Encode, String.utf8EncodeChar]
  rw [hvalid, hvalid, happend, ByteArray.isValidUTF8_utf8Encode_singleton_append_iff]

/-- A list is worked through if each of its parts is. -/
lemma mapM_eq_some_iff {α β : Type} {f : α → Option β} {inputs : List α} {outputs : List β} :
    inputs.mapM f = some outputs ↔ List.Forall₂ (fun a b => f a = some b) inputs outputs := by
  induction inputs generalizing outputs with
  | nil => simp [eq_comm]
  | cons a inputs ih =>
      simp only [List.mapM_cons, List.forall₂_cons_left_iff, ← ih]
      cases f a <;> cases inputs.mapM f <;> simp [eq_comm]

/-- **Values are texts.** -/
lemma decodeValues_eq_ok_iff {values : List (List UInt8)} {texts : List String} :
    decodeValues values = .ok texts ↔ values = texts.map bytes := by
  have hmap : values.mapM Text.decode? = some texts ↔ values = texts.map bytes := by
    simp only [mapM_eq_some_iff, decode?_eq_some_iff]
    rw [← List.forall₂_map_right_iff (R := Eq), List.forall₂_eq_eq_eq]
  rw [← hmap, decodeValues]
  cases values.mapM Text.decode? with
  | none => simp
  | some _ => simp

/-! ## Special arguments -/

/-- **Requests for a text.**  `--help`, `--version`, or a hyphen and then one or more of the letters
`h` and `V`. -/
def IsRequest (argument : List UInt8) : Prop :=
  argument = bytes "--help" ∨ argument = bytes "--version" ∨
    ∃ letters, letters ≠ [] ∧ (∀ letter ∈ letters, letter ∈ bytes "hV") ∧
      argument = bytes "-" ++ letters

/-- **Special arguments**, which are not values when they come first: `--`, requests, options with a
value, and long options with a name that is not text. -/
def IsSpecial (argument : List UInt8) : Prop :=
  argument = bytes "--" ∨ IsRequest argument ∨
    bytes "--help=" <+: argument ∨ bytes "--version=" <+: argument ∨
    bytes "--" <+: argument ∧ ¬ Textual (argument.takeWhile (· ≠ '='.toUInt8))

/-! ## The options -/

lemma Builtin.ofName?_eq_some_iff {name : List UInt8} {builtin : Builtin} :
    Builtin.ofName? name = some builtin ↔ name = bytes builtin.name := by
  rw [Builtin.ofName?]
  constructor
  · intro h
    split_ifs at h with hhelp hversion
    · cases h
      exact hhelp
    · cases h
      exact hversion
  · rintro rfl
    cases builtin <;> rfl

lemma Builtin.exists_ofLetter?_eq_some_iff {letter : UInt8} :
    (∃ builtin, Builtin.ofLetter? letter = some builtin) ↔ letter ∈ bytes "hV" := by
  have hletters : bytes "hV" = [0x68, 0x56] := rfl
  rw [Builtin.ofLetter?, hletters]
  split_ifs with hh hv <;> simp [*]

/-- No name has the sign in it that starts a value. -/
lemma Builtin.equals_notMem_name (builtin : Builtin) :
    ∀ byte ∈ bytes builtin.name, decide (byte ≠ 0x3D) = true := by
  have hhelp : bytes "help" = [0x68, 0x65, 0x6C, 0x70] := rfl
  have hversion : bytes "version" = [0x76, 0x65, 0x72, 0x73, 0x69, 0x6F, 0x6E] := rfl
  cases builtin with
  | help => simp [Builtin.name, hhelp]
  | version => simp [Builtin.name, hversion]

/-! ## From a special argument to its shape -/

lemma Shape.of_name (builtin : Builtin) :
    Shape.of (0x2D :: 0x2D :: bytes builtin.name) = .option builtin := by
  cases builtin <;> rfl

lemma Shape.of_assigned (builtin : Builtin) (value : List UInt8) :
    Shape.of (0x2D :: 0x2D :: (bytes builtin.name ++ 0x3D :: value))
      = .optionWithValue builtin value := by
  have htake : (bytes builtin.name ++ 0x3D :: value).takeWhile (· ≠ 0x3D) = bytes builtin.name := by
    rw [List.takeWhile_append_of_pos builtin.equals_notMem_name]
    simp
  have hdrop : (bytes builtin.name ++ 0x3D :: value).dropWhile (· ≠ 0x3D) = 0x3D :: value := by
    rw [List.dropWhile_append_of_pos builtin.equals_notMem_name]
    simp
  have hname := Builtin.ofName?_eq_some_iff.2 (rfl : bytes builtin.name = _)
  have htext : Text.decode? (bytes builtin.name) = some builtin.name := decode?_eq_some_iff.2 rfl
  simp only [Shape.of, Shape.ofLong, htake, hdrop, hname, htext]
  simp

lemma Shape.of_short {letters : List UInt8} (h : letters.head? ≠ some 0x2D) :
    Shape.of (0x2D :: letters) = .ofShort letters := by
  rw [Shape.of.eq_def]
  split
  · next heq =>
      cases heq
      simp at h
  · next heq =>
      cases heq
      rfl
  · next hno => exact absurd rfl (hno letters)

/-- Letters of options can be read together. -/
lemma exists_mapM_ofLetter? {letters : List UInt8}
    (h : ∀ letter ∈ letters, letter ∈ bytes "hV") :
    ∃ builtins, letters.mapM Builtin.ofLetter? = some builtins := by
  simp only [mapM_eq_some_iff]
  induction letters with
  | nil => exact ⟨[], .nil⟩
  | cons letter letters ih =>
      obtain ⟨builtin, hbuiltin⟩ := Builtin.exists_ofLetter?_eq_some_iff.2 (h letter (by simp))
      obtain ⟨builtins, hbuiltins⟩ := ih fun l hl => h l (by simp [hl])
      exact ⟨builtin :: builtins, .cons hbuiltin hbuiltins⟩

/-- **Requests** are seen as options. -/
lemma Shape.of_request {argument : List UInt8} (h : IsRequest argument) :
    ∃ builtin, Shape.of argument = .option builtin := by
  rcases h with rfl | rfl | ⟨letters, hne, hletters, rfl⟩
  · exact ⟨.help, Shape.of_name .help⟩
  · exact ⟨.version, Shape.of_name .version⟩
  · have hhead : letters.head? ≠ some 0x2D := by
      intro hmem
      exact absurd (hletters _ (List.mem_of_head? hmem)) (by decide)
    obtain ⟨builtins, hbuiltins⟩ := exists_mapM_ofLetter? hletters
    cases builtins with
    | nil =>
        rw [mapM_eq_some_iff, List.forall₂_nil_right_iff] at hbuiltins
        exact absurd hbuiltins hne
    | cons builtin builtins =>
        refine ⟨builtin, ?_⟩
        show Shape.of (0x2D :: letters) = _
        rw [Shape.of_short hhead, Shape.ofShort, hbuiltins]

/-- **Special arguments are not values.** -/
lemma Shape.of_ne_value {argument : List UInt8} (h : IsSpecial argument) :
    Shape.of argument ≠ .value := by
  rcases h with rfl | hrequest | ⟨value, rfl⟩ | ⟨value, rfl⟩ | ⟨⟨rest, rfl⟩, hname⟩
  · simp [show Shape.of (bytes "--") = .separator from rfl]
  · obtain ⟨builtin, hof⟩ := Shape.of_request hrequest
    simp [hof]
  · have hof := Shape.of_assigned .help value
    simp [show Shape.of (bytes "--help=" ++ value) = _ from hof]
  · have hof := Shape.of_assigned .version value
    simp [show Shape.of (bytes "--version=" ++ value) = _ from hof]
  · have hnone : Text.decode? (rest.takeWhile (· ≠ 0x3D)) = none := by
      rw [decode?_eq_none_iff, ← textual_hyphen_cons, ← textual_hyphen_cons]
      exact hname
    show Shape.ofLong rest ≠ _
    simp only [Shape.ofLong, hnone, Option.isNone_none, if_true]
    split_ifs <;> simp

/-! ## From the shape to the argument -/

/-- What an argument of a shape looks like. -/
def Shape.Fits (argument : List UInt8) (shape : Shape) : Prop :=
  match shape with
  | .separator => argument = bytes "--"
  | .option _ => IsRequest argument
  | .optionWithValue builtin _ =>
    bytes "--" ++ (bytes builtin.name ++ bytes "=") <+: argument
  | .unknownOption _ =>
    bytes "--" <+: argument ∧ ¬ Textual (argument.takeWhile (· ≠ '='.toUInt8))
  | .value => ¬ IsSpecial argument

lemma Shape.fits_ofLong {rest : List UInt8} (hvalue : Shape.ofLong rest ≠ .value) :
    (Shape.ofLong rest).Fits (bytes "--" ++ rest) := by
  have hsplit := List.takeWhile_append_dropWhile (p := (· ≠ 0x3D)) (l := rest)
  simp only [Shape.ofLong] at hvalue ⊢
  split_ifs at hvalue ⊢ with hempty hname
  · rw [List.isEmpty_iff.1 hempty]
    rfl
  · refine ⟨List.prefix_append _ _, ?_⟩
    rw [Option.isNone_iff_eq_none, decode?_eq_none_iff, ← textual_hyphen_cons,
      ← textual_hyphen_cons] at hname
    exact hname
  · split at hvalue
    · next builtin hbuiltin hdrop =>
        rw [hdrop, List.append_nil, Builtin.ofName?_eq_some_iff.1 hbuiltin] at hsplit
        subst hsplit
        cases builtin with
        | help => exact Or.inl rfl
        | version => exact Or.inr (Or.inl rfl)
    · next builtin byte given hbuiltin hdrop =>
        have hbyte := List.head?_dropWhile_not (· ≠ 0x3D) rest
        simp only [hdrop, List.head?_cons, ne_eq, decide_eq_false_iff_not, not_not] at hbyte
        rw [hdrop, hbyte, Builtin.ofName?_eq_some_iff.1 hbuiltin] at hsplit
        refine ⟨given, ?_⟩
        rw [← hsplit, List.append_assoc, List.append_assoc]
        rfl
    · simp at hvalue

lemma Shape.fits_ofShort {letters : List UInt8} (hvalue : Shape.ofShort letters ≠ .value) :
    (Shape.ofShort letters).Fits (bytes "-" ++ letters) := by
  rw [Shape.ofShort] at hvalue ⊢
  split at hvalue
  · next builtin builtins hread =>
      have hall := (mapM_eq_some_iff.1 hread).imp fun letter b hletter =>
        (⟨Builtin.exists_ofLetter?_eq_some_iff.1 ⟨b, hletter⟩, hletter⟩ :
          letter ∈ bytes "hV" ∧ Builtin.ofLetter? letter = some b)
      refine Or.inr (Or.inr ⟨letters, ?_, ((List.forall₂_and_left _ _).1 hall).1, rfl⟩)
      rintro rfl
      cases hall
  · simp at hvalue

/-- **The shape tells the argument.** -/
theorem Shape.fits_of (argument : List UInt8) : (Shape.of argument).Fits argument := by
  by_cases hvalue : Shape.of argument = .value
  · rw [hvalue]
    exact fun hspecial => Shape.of_ne_value hspecial hvalue
  · rw [Shape.of.eq_def] at hvalue ⊢
    split at hvalue
    · exact Shape.fits_ofLong hvalue
    · exact Shape.fits_ofShort hvalue
    · simp at hvalue

lemma Shape.of_eq_value_iff {argument : List UInt8} :
    Shape.of argument = .value ↔ ¬ IsSpecial argument := by
  constructor
  · intro h hspecial
    exact Shape.of_ne_value hspecial h
  · intro h
    have hfits := Shape.fits_of argument
    cases hshape : Shape.of argument with
    | separator =>
        rw [hshape] at hfits
        exact absurd (Or.inl hfits) h
    | option builtin =>
        rw [hshape] at hfits
        exact absurd (Or.inr (Or.inl hfits)) h
    | optionWithValue builtin value =>
        rw [hshape] at hfits
        cases builtin with
        | help => exact absurd (Or.inr (Or.inr (Or.inl hfits))) h
        | version => exact absurd (Or.inr (Or.inr (Or.inr (Or.inl hfits)))) h
    | unknownOption name =>
        rw [hshape] at hfits
        exact absurd (Or.inr (Or.inr (Or.inr (Or.inr hfits)))) h
    | value => rfl

/-! ## Lists of arguments -/

section parsing

variable {arguments : List (List UInt8)} {first : List UInt8} {version : String}

/-- After a value all arguments are values. -/
lemma parse_value_cons (h : ¬ IsSpecial first) (rest : List (List UInt8)) :
    parse (first :: rest) = decodeValues (first :: rest) := by
  simp only [parse, Shape.of_eq_value_iff.2 h]

/-- After `--` too, but it is not one itself. -/
lemma parse_separator_cons (rest : List (List UInt8)) :
    parse (bytes "--" :: rest) = decodeValues rest := rfl

/-- After any other special argument nothing is looked at. -/
lemma parse_special_cons (h : IsSpecial first) (hseparator : first ≠ bytes "--")
    (rest : List (List UInt8)) :
    ∃ stop, parse (first :: rest) = .error stop ∧ (stop.isError = false ↔ IsRequest first) := by
  have hfits := Shape.fits_of first
  simp only [parse]
  cases hshape : Shape.of first with
  | separator =>
      rw [hshape] at hfits
      exact absurd hfits hseparator
  | option builtin =>
      rw [hshape] at hfits
      exact ⟨_, rfl, iff_of_true rfl hfits⟩
  | optionWithValue builtin value =>
      refine ⟨_, rfl, iff_of_false (by simp [Stop.isError]) fun hrequest => ?_⟩
      obtain ⟨_, hoption⟩ := Shape.of_request hrequest
      simp [hshape] at hoption
  | unknownOption name =>
      refine ⟨_, rfl, iff_of_false (by simp [Stop.isError]) fun hrequest => ?_⟩
      obtain ⟨_, hoption⟩ := Shape.of_request hrequest
      simp [hshape] at hoption
  | value => exact absurd h (Shape.of_eq_value_iff.1 hshape)

/-- Values that are not text are an error. -/
lemma isError_of_decodeValues {values : List (List UInt8)} {stop : Stop}
    (h : decodeValues values = .error stop) : stop.isError = true := by
  rw [decodeValues] at h
  split at h
  · simp at h
  · cases h
    rfl

/-- **A request for an update** with a version: the version alone, if it is not special, or after
`--`. -/
def AsksForUpdate (arguments : List (List UInt8)) (version : String) : Prop :=
  arguments = [bytes version] ∧ ¬ IsSpecial (bytes version) ∨
    arguments = [bytes "--", bytes version]

/-- Such a list is all text. -/
lemma AsksForUpdate.textual (h : AsksForUpdate arguments version) :
    ∀ argument ∈ arguments, Textual argument := by
  rcases h with ⟨rfl, -⟩ | rfl
  · simp [Textual]
  · simp [Textual]

/-- **A request for a text**, whatever follows it. -/
def AsksForText (arguments : List (List UInt8)) : Prop :=
  ∃ first rest, arguments = first :: rest ∧ IsRequest first

/-- What is not seen as an option does not ask for a text. -/
lemma not_asksForText (h : ∀ builtin, Shape.of first ≠ .option builtin)
    (rest : List (List UInt8)) : ¬ AsksForText (first :: rest) := by
  rintro ⟨_, _, hsame, hrequest⟩
  cases hsame
  obtain ⟨builtin, hoption⟩ := Shape.of_request hrequest
  exact h builtin hoption

/-- **One version** is found in the arguments exactly if they ask for an update with it. -/
theorem parse_eq_singleton_iff :
    parse arguments = .ok [version] ↔ AsksForUpdate arguments version := by
  rw [AsksForUpdate]
  cases arguments with
  | nil => simp [parse]
  | cons first rest =>
      by_cases hseparator : first = bytes "--"
      · subst hseparator
        rw [parse_separator_cons, decodeValues_eq_ok_iff]
        constructor
        · rintro rfl
          exact Or.inr rfl
        · rintro (⟨hsame, hplain⟩ | hsame)
          · exact absurd (Or.inl (List.cons.inj hsame).1.symm) hplain
          · exact (List.cons.inj hsame).2
      by_cases hspecial : IsSpecial first
      · obtain ⟨stop, hstop, -⟩ := parse_special_cons hspecial hseparator rest
        rw [hstop]
        refine iff_of_false (by simp) ?_
        rintro (⟨hsame, hplain⟩ | hsame)
        · exact hplain ((List.cons.inj hsame).1 ▸ hspecial)
        · exact hseparator (List.cons.inj hsame).1
      · rw [parse_value_cons hspecial, decodeValues_eq_ok_iff]
        constructor
        · intro hsame
          exact Or.inl ⟨hsame, (List.cons.inj hsame).1 ▸ hspecial⟩
        · rintro (⟨hsame, -⟩ | hsame)
          · exact hsame
          · exact absurd (List.cons.inj hsame).1 hseparator

/-- **A text** is asked for by the first argument alone. -/
theorem exists_parse_eq_request_iff :
    (∃ stop, parse arguments = .error stop ∧ stop.isError = false) ↔ AsksForText arguments := by
  have hvalues : ∀ values, ¬ ∃ stop, decodeValues values = .error stop ∧ stop.isError = false := by
    rintro values ⟨stop, hstop, hrequest⟩
    simp [isError_of_decodeValues hstop] at hrequest
  cases arguments with
  | nil => simp [parse, AsksForText]
  | cons first rest =>
      have hfirst : AsksForText (first :: rest) ↔ IsRequest first := by
        simp [AsksForText]
      rw [hfirst]
      by_cases hseparator : first = bytes "--"
      · subst hseparator
        refine iff_of_false (hvalues rest) fun hrequest => ?_
        obtain ⟨_, hoption⟩ := Shape.of_request hrequest
        cases hoption
      by_cases hspecial : IsSpecial first
      · obtain ⟨stop, hstop, hrequest⟩ := parse_special_cons hspecial hseparator rest
        simp [hstop, hrequest]
      · rw [parse_value_cons hspecial]
        exact iff_of_false (hvalues _) fun hrequest => hspecial (Or.inr (Or.inl hrequest))

end parsing

end VersionBump.Arguments
