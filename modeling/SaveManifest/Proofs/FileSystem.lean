import SaveManifest.FileSystem

/-!
# Reading what was written

A file is put where nothing or a file stood before, so the directories on the way to it are the
same afterwards, and the path of a text that was written leads to that text.
-/

namespace SaveManifest.FileSystem

variable {files after : FileSystem} {place : Place} {node : FileNode} {path text : String}

theorem node?_put (visible : place ≠ []) : (files.put place node).node? place = some node := by
  rw [node?, if_neg (by simpa using visible), put, Catalog.get?_insert, if_pos rfl]

/-- Where a file was put instead of no directory, the directories stay. -/
theorem isDirectoryAt_put {other : Place} (free : files.isDirectoryAt place = false)
    (directory : files.isDirectoryAt other = true) :
    (files.put place node).isDirectoryAt other = true := by
  rw [isDirectoryAt, beq_iff_eq] at directory ⊢
  rw [isDirectoryAt, beq_eq_false_iff_ne] at free
  unfold node? at directory free ⊢
  split
  · rfl
  · next visible =>
    rw [if_neg visible] at directory
    rw [put, Catalog.get?_insert]
    split
    · next same =>
      -- The same text names both places, so a directory would have stood where the file is put.
      rw [same] at directory
      split at free
      · exact absurd rfl free
      · exact absurd directory free
    · exact directory

/-- The way along a path stays the same. -/
theorem walk?_put (free : files.isDirectoryAt place = false) {target : Place}
    (found : files.walk? path = some target) : (files.put place node).walk? path = some target := by
  have along : ∀ (parts : List String) (start : Place),
      parts.foldlM (fun place part =>
        if files.isDirectoryAt place then some (step place part) else none) start = some target →
      parts.foldlM (fun other part =>
        if (files.put place node).isDirectoryAt other then some (step other part) else none) start =
          some target := by
    intro parts
    induction parts with
    | nil => exact fun _ same => same
    | cons part parts ih =>
      intro start found
      rw [List.foldlM_cons] at found ⊢
      split at found
      · next directory =>
        rw [isDirectoryAt_put free directory]
        exact ih _ found
      · cases found
  unfold walk? at found ⊢
  split at found
  · cases found
  · next visible =>
    rw [if_neg visible]
    exact along _ _ found

/-- A text is put where a path leads, if no directory is there. -/
theorem write?_eq_some (written : files.write? path text = some after) :
    ∃ place, files.walk? path = some place ∧ asksForDirectory path = false ∧
      files.isDirectoryAt place = false ∧ after = files.put place (.file (some text)) := by
  unfold write? at written
  cases found : files.walk? path with
  | none =>
    rw [found] at written
    cases written
  | some place =>
    rw [found, Option.bind_eq_bind, Option.bind_some] at written
    split at written
    · cases written
    · next taken =>
      cases written
      rw [Bool.not_eq_true, Bool.or_eq_false_iff] at taken
      exact ⟨place, rfl, taken.1, taken.2, rfl⟩

/-- A path leads to the text that was written to it. -/
theorem find?_write (written : files.write? path text = some after) :
    after.find? path = some (.file (some text)) := by
  obtain ⟨place, found, file, free, rfl⟩ := write?_eq_some written
  have visible : place ≠ [] := by
    rintro rfl
    cases free
  rw [find?, walk?_put free found, Option.bind_eq_bind, Option.bind_some, node?_put visible,
    Option.bind_eq_bind, Option.bind_some, file]
  rfl

theorem read?_write (written : files.write? path text = some after) :
    after.read? path = some text := by
  rw [read?, find?_write written]

theorem fileExists_write (written : files.write? path text = some after) :
    after.fileExists path = true := by
  rw [fileExists, find?_write written]
  rfl

end SaveManifest.FileSystem
