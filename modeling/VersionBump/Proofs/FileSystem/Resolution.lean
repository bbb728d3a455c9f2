import Mathlib.Tactic.Common
import VersionBump.FileSystem.Basic

/-!
# Where a path leads does not depend on what the files hold

Resolution looks at three things only: which locations have an entry, of what kind the entries are,
and the modes and link targets.  `FileSystem.skeleton` keeps these and forgets the contents, and a
change of content leaves the skeleton alone (`skeleton_setContent`).

**`locate_eq_of_skeleton_eq`** is what every argument about several updates rests on: two file
systems with one skeleton send each path to the same location, so a write through one path, links
included, never moves another path.  `resolve_eq_locate` then splits resolution in two: find the
location, and look what stands there.
-/

namespace VersionBump

/-- Of two contents the later one is left. -/
lemma Entry.withContent_withContent (entry : Entry) (old new : ByteArray) :
    (entry.withContent old).withContent new = entry.withContent new := by
  cases entry <;> rfl

/-- An entry without its content: kind, mode and link target. -/
def Entry.skeleton (entry : Entry) : Entry := entry.withContent ByteArray.empty

@[simp] lemma Entry.skeleton_withContent (entry : Entry) (content : ByteArray) :
    (entry.withContent content).skeleton = entry.skeleton :=
  entry.withContent_withContent content ByteArray.empty

namespace FileSystem

/-- A file system with all files emptied. -/
def skeleton (fs : FileSystem) : FileSystem :=
  fs.mapEntries fun _ entry => entry.skeleton

@[simp] lemma workingDirectory_skeleton (fs : FileSystem) :
    fs.skeleton.workingDirectory = fs.workingDirectory := rfl

@[simp] lemma get?_skeleton (fs : FileSystem) (location : Location) :
    fs.skeleton.get? location = (fs.get? location).map Entry.skeleton :=
  fs.get?_mapEntries _ location

/-- **New content leaves the skeleton** alone, wherever it is put. -/
lemma skeleton_mapEntries {fs : FileSystem} {f : Location → Entry → Entry}
    (h : ∀ l e, (f l e).skeleton = e.skeleton) : (fs.mapEntries f).skeleton = fs.skeleton := by
  rw [skeleton, mapEntries_mapEntries]
  exact mapEntries_congr fun l e _ => h l e

@[simp] lemma skeleton_setContent (fs : FileSystem) (location : Location) (content : ByteArray) :
    (fs.setContent location content).skeleton = fs.skeleton := by
  refine skeleton_mapEntries fun l e => ?_
  split_ifs
  · exact e.skeleton_withContent content
  · rfl

/-! ## The location of a path -/

/-- The location that a path leads to. -/
def locate (fs : FileSystem) (path : String) : Except AccessError Location :=
  (fs.resolve path).map Place.location

/-- Names lead to a place with the entry that stands at its location, if links do. -/
lemma walk_entry (fs : FileSystem)
    {through : Location → String → List String → Except AccessError Place}
    (hthrough : ∀ here target rest place, through here target rest = .ok place →
      place.entry = fs.get? place.location)
    {here : Location} {names : List String} {place : Place}
    (h : fs.walk through here names = .ok place) : place.entry = fs.get? place.location := by
  induction names generalizing here with
  | nil =>
      simp only [walk, Except.ok.injEq] at h
      rw [← h]
  | cons name rest ih =>
      rw [walk] at h
      split at h
      · simp at h
      · simp at h
      · simp at h
      · split at h
        · exact ih h
        split at h
        · simp at h
        split at h
        · exact ih h
        split at h
        · exact ih h
        split at h
        · simp at h
        split at h
        · exact hthrough _ _ _ _ h
        · exact ih h
        · next hnone =>
            split at h
            · simp only [Except.ok.injEq] at h
              rw [← h, hnone]
            · simp at h

lemma follow_entry (fs : FileSystem) (links : Nat) {here : Location} {names : List String}
    {place : Place} (h : fs.follow links here names = .ok place) :
    place.entry = fs.get? place.location := by
  induction links generalizing here names place with
  | zero => exact fs.walk_entry (fun _ _ _ _ h => by simp at h) h
  | succ links ih => exact fs.walk_entry (fun _ _ _ _ h => ih h) h

/-- **Resolution is location and look-up.** -/
theorem resolve_eq_locate (fs : FileSystem) (path : String) :
    fs.resolve path = (fs.locate path).map fun location => ⟨location, fs.get? location⟩ := by
  have hentry : ∀ place, fs.resolve path = .ok place → place.entry = fs.get? place.location := by
    intro place h
    rw [resolve] at h
    split_ifs at h
    exact fs.follow_entry _ h
  rw [locate]
  cases h : fs.resolve path with
  | error e => rfl
  | ok place =>
      obtain ⟨location, entry⟩ := place
      simp only [Except.map, ← hentry _ h]

/-! ## Locations and skeletons -/

/-- Names lead to the same location in the skeleton, if links do. -/
lemma walk_skeleton (fs : FileSystem)
    {through through' : Location → String → List String → Except AccessError Place}
    (hthrough : ∀ here target rest,
      (through' here target rest).map Place.location
        = (through here target rest).map Place.location)
    (here : Location) (names : List String) :
    (fs.skeleton.walk through' here names).map Place.location
      = (fs.walk through here names).map Place.location := by
  induction names generalizing here with
  | nil => rfl
  | cons name rest ih =>
      rw [walk, walk, get?_skeleton, get?_skeleton]
      cases fs.get? here with
      | none => rfl
      | some entry =>
          cases entry with
          | file _ _ => rfl
          | link _ => rfl
          | directory mode =>
              simp only [Option.map_some, Entry.skeleton, Entry.withContent]
              split
              · exact ih _
              split
              · rfl
              split
              · exact ih _
              split
              · exact ih _
              split
              · rfl
              -- a name below a directory: here links are followed
              cases fs.get? (here ++ [name]) with
              | none => rfl
              | some entry =>
                  cases entry with
                  | file _ _ => exact ih _
                  | directory _ => exact ih _
                  | link target => exact hthrough _ _ _

lemma follow_skeleton (fs : FileSystem) (links : Nat) (here : Location) (names : List String) :
    (fs.skeleton.follow links here names).map Place.location
      = (fs.follow links here names).map Place.location := by
  induction links generalizing here names with
  | zero => exact fs.walk_skeleton (fun _ _ _ => rfl) here names
  | succ links ih => exact fs.walk_skeleton (fun _ _ _ => ih _ _) here names

@[simp] lemma locate_skeleton (fs : FileSystem) (path : String) :
    fs.skeleton.locate path = fs.locate path := by
  rw [locate, locate, resolve, resolve]
  split_ifs
  · rfl
  · rfl
  · rfl
  · exact fs.follow_skeleton _ _ _

/-- **One skeleton, one map of paths.** -/
theorem locate_eq_of_skeleton_eq {fs gs : FileSystem} (h : fs.skeleton = gs.skeleton)
    (path : String) : fs.locate path = gs.locate path := by
  rw [← locate_skeleton fs, h, locate_skeleton]

end FileSystem

end VersionBump
