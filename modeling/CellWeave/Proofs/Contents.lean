import CellWeave.FileTree
import Mathlib.Data.List.Basic
/-!
# What files hold

Making folders changes no file, since a folder is only made where nothing is. Bytes that are added
at the end of a file are in that file and in no other.
-/

namespace CellWeave

namespace FileTree

/-- The bytes in a file, none if it is not there. -/
def bytesAt (tree : FileTree) (place : Place) : List UInt8 :=
  (tree.content? place).getD []

variable {tree made : FileTree} {place target : Place} {folder : AbsolutePath} {path : Text}

theorem lookup_cons_eq (entry : Place × FileEntry) (rest : List (Place × FileEntry))
    (place : Place) :
    (entry :: rest).lookup place = if place = entry.1 then some entry.2 else rest.lookup place := by
  by_cases h : place = entry.1
  · rw [if_pos h, List.lookup_cons, beq_iff_eq.2 h]
  · rw [if_neg h, List.lookup_cons, beq_eq_false_iff_ne.2 h]

/-- Leaving one place out does not change what is at another. -/
theorem lookup_filter_ne (entries : List (Place × FileEntry)) (h : place ≠ target) :
    (entries.filter (·.1 != target)).lookup place = entries.lookup place := by
  induction entries with
  | nil => rfl
  | cons entry rest ih =>
    rw [List.filter_cons, lookup_cons_eq]
    by_cases hentry : entry.1 = target
    · rw [if_neg (by simpa using hentry), ih, if_neg (fun heq ↦ h (heq.trans hentry))]
    · rw [if_pos (by simpa using hentry), lookup_cons_eq, ih]

/-- An entry that is put somewhere is the one there, and no other place changes. -/
theorem entry?_put (htarget : target ≠ []) (entry : FileEntry) (place : Place) :
    FileTree.entry? (tree.put target entry) place =
      if place = target then some entry else tree.entry? place := by
  rw [ entry?, put, lookup_cons_eq]
  by_cases h : place = target
  · rw [if_neg (h ▸ htarget), if_pos h, if_pos h]
  · rw [if_neg h, if_neg h, lookup_filter_ne _ h, entry?]

/-- Bytes are appended to one file, which is made if it is not there. -/
theorem content?_append (htarget : target ≠ []) (bytes : List UInt8) (place : Place) :
    (tree.append target bytes).content? place =
      if place = target then some (tree.bytesAt target ++ bytes) else tree.content? place := by
  unfold content? append
  rw [entry?_put htarget]
  by_cases h : place = target
  · simp [h, bytesAt]
  · simp [h]

/-- A place that has no file counts as an empty one. -/
theorem bytesAt_append (htarget : target ≠ []) (bytes : List UInt8) (place : Place) :
    (tree.append target bytes).bytesAt place =
      tree.bytesAt place ++ if place = target then bytes else [] := by
  rw [bytesAt, content?_append htarget]
  split
  · next h => rw [h, Option.getD_some]
  · rw [List.append_nil, bytesAt]

theorem ne_nil_of_isSome_content? (h : (tree.content? place).isSome) : place ≠ [] := by
  rintro rfl
  simp [content?, entry?] at h

/-! ## Making folders -/

/-- Making a folder changes no file. -/
theorem content?_makeFolder (h : tree.makeFolder folder path = .ok made) (place : Place) :
    made.content? place = tree.content? place := by
  unfold makeFolder at h
  split at h
  · simp at h
  · next target _ =>
    split at h
    · simp at h
    · next hnone =>
      obtain rfl := Except.ok.inj h
      have htarget : target ≠ [] := by
        rintro rfl
        simp [ entry?] at hnone
      unfold content?
      rw [entry?_put htarget]
      by_cases heq : place = target
      · simp [heq, hnone]
      · simp [heq]

theorem content?_settleFolder (tree : FileTree) (folder : AbsolutePath) (path : Text)
    (place : Place) :
    (tree.settleFolder folder path).2.content? place = tree.content? place := by
  unfold settleFolder
  split
  · next h => exact content?_makeFolder h place
  · rfl

/-- A chain of folders may be made in part, and no file changes. -/
theorem content?_makeFoldersFrom (tree : FileTree) (folder : AbsolutePath) (path : Text)
    (place : Place) (fuel : Nat) :
    (tree.makeFoldersFrom folder path fuel).2.content? place = tree.content? place := by
  induction fuel generalizing path with
  | zero => rfl
  | succ fuel ih =>
    have hhead := ih (FilePath.split path).1
    simp only [makeFoldersFrom]
    split
    · exact content?_settleFolder tree folder path place
    · split
      · next made hmade =>
        rw [hmade] at hhead
        split
        · exact hhead
        · rw [content?_settleFolder, hhead]
      · next name made hmade =>
        rw [hmade] at hhead
        split
        · exact hhead
        · rw [content?_settleFolder, hhead]
      · exact hhead

/-- Making the folders of a path, also if it fails on the way, changes no file. -/
theorem content?_makeFolders (tree : FileTree) (folder : AbsolutePath) (path : Text)
    (place : Place) : (tree.makeFolders folder path).2.content? place = tree.content? place :=
  content?_makeFoldersFrom tree folder path place _

end FileTree

end CellWeave
