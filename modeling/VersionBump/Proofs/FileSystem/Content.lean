import VersionBump.Proofs.FileSystem.Resolution

/-!
# Reading and writing the file that a path leads to

`FileSystem.Opens fs path location text mode` says that a path can be read as text: it leads,
perhaps through links, to the file at `location`, which holds `text` and may be read.
`readText_eq_ok_iff` says that this is exactly when `readText` gives the text.

A file that can be read is there, so writing to its path never makes a file: `Opens.writeFile`
leaves two outcomes, new content at that one location or a refusal.  Of writing in general
`get?_writeFile` says that nothing but the one file is touched.

`FileSystem.overwrite` is what many writes come to: other content at some locations.  What a path
then holds is a matter of its location alone (`Opens.overwrite`).
-/

namespace VersionBump

/-- Bytes are read as a text exactly when they are the bytes of that text. -/
lemma fromUTF8?_eq_some_iff {content : ByteArray} {text : String} :
    String.fromUTF8? content = some text ↔ content = text.toUTF8 := by
  constructor
  · intro h
    rw [String.fromUTF8?] at h
    split at h
    · simp only [Option.some.injEq] at h
      rw [← h]
      rfl
    · simp at h
  · rintro rfl
    rw [String.fromUTF8?, dif_pos (by simpa using text.isValidUTF8)]
    rfl

namespace FileSystem

/-- The text that opening an entry gives. -/
def openText : Option Entry → Except AccessError String
  | some (.file content mode) =>
    if mode.read then
      match String.fromUTF8? content with
      | some text => .ok text
      | none => .error .notText
    else .error .permissionDenied
  | some (.directory mode) => .error (if mode.read then .isADirectory else .permissionDenied)
  | some (.link _) => .error .tooManyLinks
  | none => .error .notFound

/-- Reading finds the location and opens what stands there. -/
lemma readText_eq_openText (fs : FileSystem) (path : String) :
    fs.readText path = (fs.locate path).bind fun location => openText (fs.get? location) := by
  rw [readText, readFile, resolve_eq_locate]
  cases fs.locate path with
  | error e => rfl
  | ok location =>
      simp only [Except.map, Except.bind, bind]
      cases fs.get? location with
      | none => rfl
      | some entry =>
          cases entry with
          | link _ => rfl
          | directory _ => rfl
          | file content mode =>
              obtain ⟨read, write, search⟩ := mode
              cases read with
              | false => rfl
              | true => cases h : String.fromUTF8? content <;> simp [openText, h]

/-- **A readable text.**  The path leads to the file at `location`, which holds `text` and may be
read. -/
structure Opens (fs : FileSystem) (path : String) (location : Location) (text : String)
    (mode : Mode) : Prop where
  located : fs.locate path = .ok location
  holds : fs.get? location = some (.file text.toUTF8 mode)
  readable : mode.read = true

theorem readText_eq_ok_iff {fs : FileSystem} {path text : String} :
    fs.readText path = .ok text ↔ ∃ location mode, fs.Opens path location text mode := by
  rw [readText_eq_openText]
  constructor
  · intro h
    cases hl : fs.locate path with
    | error e => simp [hl, Except.bind] at h
    | ok location =>
        simp only [hl, Except.bind] at h
        rw [openText.eq_def] at h
        split at h
        · next content mode hget =>
            split_ifs at h with hread
            split at h
            · next text' htext =>
                cases h
                rw [fromUTF8?_eq_some_iff.1 htext] at hget
                exact ⟨location, mode, hl, hget, hread⟩
            · simp at h
        · simp at h
        · simp at h
        · simp at h
  · rintro ⟨location, mode, h⟩
    simp only [h.located, Except.bind, openText, h.holds, h.readable, if_true,
      fromUTF8?_eq_some_iff.2 rfl]

namespace Opens

variable {fs : FileSystem} {path : String} {location : Location} {text : String} {mode : Mode}

lemma readText (h : fs.Opens path location text mode) : fs.readText path = .ok text :=
  readText_eq_ok_iff.2 ⟨location, mode, h⟩

/-- A path that can be read resolves to its file. -/
lemma resolve_eq_ok (h : fs.Opens path location text mode) :
    fs.resolve path = .ok ⟨location, some (.file text.toUTF8 mode)⟩ := by
  rw [resolve_eq_locate, h.located]
  simp only [Except.map, h.holds]

/-- **Writing where one can read.**  The file is overwritten or the write refused; none is made. -/
lemma writeFile (h : fs.Opens path location text mode) (content : ByteArray) :
    fs.writeFile path content =
      if mode.write then .ok (fs.setContent location content) else .error .permissionDenied := by
  rw [FileSystem.writeFile, h.resolve_eq_ok]
  rfl

end Opens

/-- **Writing** puts the content where the path leads, and touches nothing else. -/
theorem get?_writeFile {fs fs' : FileSystem} {path : String} {content : ByteArray}
    (h : fs.writeFile path content = .ok fs') :
    ∃ location, fs.locate path = .ok location ∧
      (∃ mode, fs'.get? location = some (.file content mode)) ∧
      ∀ l, l ≠ location → fs'.get? l = fs.get? l := by
  rw [FileSystem.writeFile, resolve_eq_locate] at h
  cases hlocate : fs.locate path with
  | error e => simp [hlocate, Except.map, bind, Except.bind] at h
  | ok location =>
      simp only [hlocate, Except.map, bind, Except.bind] at h
      refine ⟨location, rfl, ?_⟩
      split at h
      · next old mode hget =>
          split_ifs at h
          cases h
          refine ⟨⟨mode, ?_⟩, fun l hl => ?_⟩
          · rw [get?_setContent, if_pos rfl, hget]
            rfl
          · rw [get?_setContent, if_neg hl]
      · cases h
      · cases h
      · next hget =>
          split at h
          · split_ifs at h
            cases h
            refine ⟨⟨.newFile, ?_⟩, fun l hl => ?_⟩
            · rw [get?_add, if_pos rfl, hget]
              rfl
            · rw [get?_add, if_neg hl]
          · cases h

/-! ## Which file a path leads to -/

/-- The location of the regular file that a path leads to, if it leads to one. -/
def fileLocation? (fs : FileSystem) (path : String) : Option Location :=
  match fs.resolve path with
  | .ok ⟨location, some (.file _ _)⟩ => some location
  | _ => none

lemma fileLocation?_eq_some_iff {fs : FileSystem} {path : String} {location : Location} :
    fs.fileLocation? path = some location ↔
      fs.locate path = .ok location ∧
        ∃ content mode, fs.get? location = some (.file content mode) := by
  rw [fileLocation?, resolve_eq_locate]
  cases fs.locate path with
  | error e => simp [Except.map]
  | ok l =>
      simp only [Except.map, Except.ok.injEq]
      constructor
      · intro h
        split at h
        · next l' content mode heq =>
            simp only [Except.ok.injEq, Place.mk.injEq] at heq
            simp only [Option.some.injEq] at h
            obtain ⟨rfl, hget⟩ := heq
            subst h
            exact ⟨rfl, content, mode, hget⟩
        · simp at h
      · rintro ⟨rfl, content, mode, hget⟩
        rw [hget]

lemma Opens.fileLocation? {fs : FileSystem} {path : String} {location : Location} {text : String}
    {mode : Mode} (h : fs.Opens path location text mode) :
    fs.fileLocation? path = some location :=
  fileLocation?_eq_some_iff.2 ⟨h.located, _, _, h.holds⟩

/-! ## New content in several files -/

/-- The file system with other content in the files at some locations. -/
def overwrite (fs : FileSystem) (content? : Location → Option ByteArray) : FileSystem :=
  fs.mapEntries fun l e =>
    match content? l with
    | some content => e.withContent content
    | none => e

lemma overwrite_none (fs : FileSystem) : fs.overwrite (fun _ => none) = fs :=
  mapEntries_eq_self fun _ _ _ => rfl

/-- One more write is one more location with other content. -/
lemma setContent_overwrite (fs : FileSystem) (content? : Location → Option ByteArray)
    (location : Location) (content : ByteArray) :
    (fs.overwrite content?).setContent location content
      = fs.overwrite fun l => if l = location then some content else content? l := by
  rw [overwrite, setContent, mapEntries_mapEntries]
  refine mapEntries_congr fun l e _ => ?_
  by_cases hl : l = location
  · simp only [if_pos hl]
    cases content? l with
    | none => rfl
    | some old => exact e.withContent_withContent old content
  · simp only [if_neg hl]

lemma get?_overwrite (fs : FileSystem) (content? : Location → Option ByteArray)
    (location : Location) :
    (fs.overwrite content?).get? location =
      match content? location with
      | some content => (fs.get? location).map (Entry.withContent content)
      | none => fs.get? location := by
  rw [overwrite, get?_mapEntries]
  cases content? location with
  | none => exact Option.map_id'
  | some content => rfl

lemma skeleton_overwrite (fs : FileSystem) (content? : Location → Option ByteArray) :
    (fs.overwrite content?).skeleton = fs.skeleton := by
  refine skeleton_mapEntries fun l e => ?_
  cases content? l with
  | none => rfl
  | some content => exact e.skeleton_withContent content

/-- What a path holds then: the new text of its file if there is one, else the old. -/
lemma Opens.overwrite {fs : FileSystem} {path : String} {location : Location}
    {text newText : String} {mode : Mode} (h : fs.Opens path location text mode)
    {content? : Location → Option ByteArray}
    (hcontent : (content? location).getD text.toUTF8 = newText.toUTF8) :
    (fs.overwrite content?).Opens path location newText mode where
  located := by rw [locate_eq_of_skeleton_eq (fs.skeleton_overwrite content?), h.located]
  holds := by
    rw [get?_overwrite]
    cases hc : content? location with
    | none =>
        rw [hc, Option.getD_none] at hcontent
        rw [← hcontent]
        exact h.holds
    | some content =>
        rw [hc, Option.getD_some] at hcontent
        simp only [h.holds, hcontent, Option.map_some, Entry.withContent]
  readable := h.readable

end FileSystem

end VersionBump
