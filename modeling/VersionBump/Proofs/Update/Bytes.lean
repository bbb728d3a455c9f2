import VersionBump.Proofs.Replacement.Splice
import VersionBump.Proofs.Update.Step

/-!
# A successful update is a splice of bytes

A file holds bytes, and a version is put into the text that they encode.  Encoding turns an append
of texts into an append of bytes, so the splice of the text is one of the bytes
(`toUTF8_append_append`): what stands around the version, byte-order marks and line ends included, is
written back as it was.

`updateFile_splices_bytes` says so of the file system: the file at the end of the path is spliced or
stays, and no other entry is touched, the links on the way there among them.
-/

namespace VersionBump

/-- Writing back what a file holds changes nothing. -/
lemma FileSystem.setContent_self {fs : FileSystem} {location : Location} {content : ByteArray}
    {mode : Mode} (h : fs.get? location = some (.file content mode)) :
    fs.setContent location content = fs := by
  refine mapEntries_eq_self fun l e he => ?_
  split_ifs with hl
  · rw [hl, h, Option.some.injEq] at he
    rw [← he]
    rfl
  · rfl

/-! ## The bytes of a splice -/

/-- **The part of a text that a version replaces**, with what stands before and after it. -/
structure Parts (pattern : Pattern) (text before part after : String) : Prop where
  eq_append : text = before ++ part ++ after
  /-- It is the place of the version in the match that is found. -/
  found : ∃ found, pattern.search markerGroup text.toList.toArray = some found ∧
    before.length = found.versionSpan.start ∧ (before ++ part).length = found.versionSpan.stop
  replaced : ∀ version, replaceFirst pattern text version = (before ++ version ++ after, 1)

lemma toUTF8_append_append (before part after : String) :
    (before ++ part ++ after).toUTF8 = before.toUTF8 ++ part.toUTF8 ++ after.toUTF8 := by
  simp only [String.toUTF8_eq_toByteArray, String.toByteArray_append]

/-- Where something is replaced it is one part of the text. -/
lemma Target.exists_parts (target : Target) {text version : String}
    (h : (replaceFirst target.pattern text version).2 = 1) :
    ∃ before part after, Parts target.pattern text before part after := by
  cases hsearch : target.pattern.search markerGroup text.toList.toArray with
  | none =>
      rw [replaceFirst_of_search_none hsearch] at h
      cases h
  | some found =>
      have hplaced := Match.placed_of_search hsearch (Pattern.nodup_groupNames target.reads)
      obtain ⟨before, part, after, htext, hstart, hstop, hsplice⟩ := exists_append_of_span
        hplaced.start_le_stop (Nat.le_trans hplaced.stop_le hplaced.stop_le_length)
      refine ⟨before, part, after, htext, ⟨found, hsearch, hstart, hstop⟩, fun version => ?_⟩
      rw [replaceFirst_of_search_some hsearch, hsplice]

/-! ## The main statement -/

/-- **One splice of bytes in one file.**  A successful update leads to a regular file that holds a
text.  If nothing was replaced, the file system is as it was.  If something was, the bytes of the
file are those of three texts, the middle one being the part that the replacement picks, and the
bytes of the version are put in its place.  No other entry is touched, and there are the same paths,
kinds, link targets and modes. -/
theorem updateFile_splices_bytes (fs : FileSystem) (target : Target) (version : String)
    (substitution : Substitution)
    (hok : (updateFile fs target version).result = .ok substitution) :
    ∃ location content mode text,
      fs.resolve target.path = .ok ⟨location, some (.file content mode)⟩ ∧
      String.fromUTF8? content = some text ∧
      (updateFile fs target version).files.skeleton = fs.skeleton ∧
      (∀ l, l ≠ location → (updateFile fs target version).files.get? l = fs.get? l) ∧
      (substitution.replaced = 0 ∧ (updateFile fs target version).files = fs ∨
        substitution.replaced = 1 ∧
          ∃ before part after, Parts target.pattern text before part after ∧
            content = before.toUTF8 ++ part.toUTF8 ++ after.toUTF8 ∧
            (updateFile fs target version).files.get? location
              = some (.file (before.toUTF8 ++ version.toUTF8 ++ after.toUTF8) mode)) := by
  have hskeleton := skeleton_updateFile fs target version
  have hattempt := updateFile_attempt fs target version
  generalize updateFile fs target version = run at hok hskeleton hattempt ⊢
  cases hattempt with
  | unreadable _ => cases hok
  | unwritable _ _ => cases hok
  | @written location text mode hopens _ =>
      cases hok
      refine ⟨location, text.toUTF8, mode, text, hopens.resolve_eq_ok,
        fromUTF8?_eq_some_iff.2 rfl, hskeleton,
        fun l hl => by rw [FileSystem.get?_setContent, if_neg hl], ?_⟩
      rcases replaceFirst_snd target.pattern text version with hzero | hone
      · have hsame := (search_eq_none_of_replaceFirst hzero).2
        rw [hsame]
        exact Or.inl ⟨hzero, FileSystem.setContent_self hopens.holds⟩
      · obtain ⟨before, part, after, hparts⟩ := target.exists_parts hone
        refine Or.inr ⟨hone, before, part, after, hparts, ?_, ?_⟩
        · rw [← toUTF8_append_append, ← hparts.eq_append]
        · rw [FileSystem.get?_setContent, if_pos rfl, hopens.holds, hparts.replaced version,
            toUTF8_append_append]
          rfl

/-- A text with a byte-order mark, characters of one to four bytes, a NUL and a line end of two
characters, behind two links. -/
def mixedText : String := "\ufeff𝒗é Version=\"𝟏\"\x00\r\n"

/-- A directory in which two links lead to the text. -/
def mixedFiles : FileSystem where
  entries :=
    [([], .directory .newDirectory),
      (["README.md"], .link "docs/current"),
      (["docs"], .directory .newDirectory),
      (["docs", "current"], .link "../text"),
      (["text"], .file mixedText.toUTF8 .newFile)]
  workingDirectory := []

/-- The version behind the links is replaced, and what stands around it stays. -/
theorem updateFile_splices_bytes_behind_links :
    (updateFile mixedFiles documentTarget "²").result = .ok ⟨"./README.md", 1⟩ ∧
    (∃ before part after,
      mixedText.toUTF8 = before ++ part ++ after ∧
      (updateFile mixedFiles documentTarget "²").files.get? ["text"]
        = some (.file (before ++ "²".toUTF8 ++ after) .newFile)) ∧
    ∀ l, l ≠ ["text"] →
      (updateFile mixedFiles documentTarget "²").files.get? l = mixedFiles.get? l := by
  have hopens : mixedFiles.Opens documentTarget.path ["text"] mixedText .newFile :=
    ⟨(FileSystem.fileLocation?_eq_some_iff.1 (by decide)).1, rfl, rfl⟩
  have hone : (replaceFirst documentTarget.pattern mixedText "²").2 = 1 :=
    @Marking.replaced_of_markedAt .quoted _ _ _
      (Text.markedAt_append "\ufeff𝒗é ".toList ['𝟏'] "\x00\r\n".toList (by decide)) _
  have hok : (updateFile mixedFiles documentTarget "²").result = .ok ⟨"./README.md", 1⟩ := by
    rw [hopens.updateFile rfl "²", hone]
    rfl
  obtain ⟨location, content, mode, text, hresolve, -, -, hframe, hcase⟩ :=
    updateFile_splices_bytes mixedFiles documentTarget "²" _ hok
  rw [hopens.resolve_eq_ok, Except.ok.injEq] at hresolve
  cases hresolve
  rcases hcase with ⟨hzero, -⟩ | ⟨-, before, part, after, -, hcontent, hget⟩
  · cases hzero
  · exact ⟨hok, ⟨_, _, _, hcontent, hget⟩, hframe⟩

end VersionBump
