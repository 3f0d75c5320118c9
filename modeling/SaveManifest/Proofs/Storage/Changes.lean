import SaveManifest.Proofs.FileSystem.Directories
import SaveManifest.Storage

/-!
# What a save changes

A save changes the file it is for and no other one, and it changes no file where it fails
(`changesOnly_save`). Where one file could be saved in a directory, another one beside it can be
saved as well, unless a directory has its name (`save_beside`). Where there was no such directory
before, only creating the directories of a path that leads upwards somewhere can put one there
(`mem_parts_of_blocked`).
-/

namespace SaveManifest

namespace FileSystem

variable {files before middle after : FileSystem} {path text : String}

/-- What is in the file at the place of a text; the inner option is empty where the bytes are not
UTF-8. -/
def fileAt? (files : FileSystem) (place : String) : Option (Option String) :=
  match files.nodes.get? place with
  | some (.file text) => some text
  | some .directory => none
  | none => none

/-- All files that are not as before stand where some paths lead. -/
def ChangesOnly (paths : List String) (before after : FileSystem) : Prop :=
  ∀ place, after.fileAt? place ≠ before.fileAt? place →
    ∃ path ∈ paths, (after.walk? path).map placeText = some place

/-- With a directory created, a path leads to a directory. -/
def IsBlocked (files : FileSystem) (directory path : String) : Prop :=
  (files.createDirectories directory).1.find? path = some .directory

instance (files : FileSystem) (directory path : String) :
    Decidable (files.IsBlocked directory path) :=
  inferInstanceAs (Decidable (_ = _))

theorem ChangesOnly.trans {paths others : List String} (early : ChangesOnly paths before middle)
    (late : ChangesOnly others middle after)
    (kept : ∀ path ∈ paths, ∀ target, middle.walk? path = some target →
      after.walk? path = some target) : ChangesOnly (paths ++ others) before after := by
  intro place changed
  by_cases again : after.fileAt? place = middle.fileAt? place
  · obtain ⟨path, listed, leads⟩ := early place (again ▸ changed)
    obtain ⟨target, found, text⟩ := Option.map_eq_some_iff.1 leads
    refine ⟨path, List.mem_append_left _ listed, ?_⟩
    rw [kept path listed target found, Option.map_some, text]
  · obtain ⟨path, listed, leads⟩ := late place again
    exact ⟨path, List.mem_append_right _ listed, leads⟩

/-- Creating directories changes no file. -/
theorem changesOnly_createDirectories (files : FileSystem) (directory : String) :
    ChangesOnly [] files (files.createDirectories directory).1 := by
  intro place changed
  refine absurd ?_ changed
  unfold fileAt?
  rcases get?_createAlong files (files.start directory) (parts directory) place with
    same | ⟨absent, made, -⟩
  · rw [createDirectories, same]
  · rw [createDirectories, absent, made]

theorem changesOnly_write (written : files.write? path text = some after) :
    ChangesOnly [path] files after := by
  obtain ⟨target, found, -, free, rfl⟩ := write?_eq_some written
  intro place changed
  refine ⟨path, List.mem_singleton_self path, ?_⟩
  rw [walk?_put free found, Option.map_some]
  by_cases here : place = placeText target
  · rw [here]
  · refine absurd ?_ changed
    rw [fileAt?, get?_put, if_neg here, fileAt?]

/-- A place that holds a directory after a file was put elsewhere held it before. -/
theorem isDirectoryAt_of_put {place target : Place} {content : Option String}
    (directory : (files.put place (.file content)).isDirectoryAt target = true) :
    files.isDirectoryAt target = true := by
  rw [isDirectoryAt, beq_iff_eq] at directory ⊢
  unfold node? at directory ⊢
  split
  · rfl
  · next visible =>
    rw [if_neg visible, get?_put] at directory
    split at directory
    · cases directory
    · exact directory

end FileSystem

namespace Storage

open FileSystem Workspace

variable {files after : FileSystem} {text other directory path name second : String}

/-- A save creates the directory first; the file is written only where that succeeds. -/
theorem save_cases {outcome : Except Failure Unit}
    (saved : save text directory path files = (outcome, after)) :
    (∃ failure, outcome = .error failure) ∧ after = (files.createDirectories directory).1 ∨
      outcome = .ok () ∧ (files.createDirectories directory).2 = true ∧
        (files.createDirectories directory).1.write? path text = some after := by
  unfold save at saved
  split at saved
  · next made incomplete =>
    cases saved
    exact Or.inl ⟨⟨_, rfl⟩, by rw [incomplete]⟩
  · next made complete =>
    split at saved
    · cases saved
      exact Or.inl ⟨⟨_, rfl⟩, by rw [complete]⟩
    · next written =>
      cases saved
      rw [complete]
      exact Or.inr ⟨rfl, rfl, written⟩

theorem changesOnly_failed {failure : Failure}
    (refused : save text directory path files = (.error failure, after)) :
    ChangesOnly [] files after := by
  rcases save_cases refused with ⟨-, rfl⟩ | ⟨impossible, -⟩
  · exact changesOnly_createDirectories files directory
  · cases impossible

theorem changesOnly_save (saved : save text directory path files = (.ok (), after)) :
    ChangesOnly [path] files after := by
  rcases save_cases saved with ⟨⟨failure, impossible⟩, -⟩ | ⟨-, -, written⟩
  · cases impossible
  · apply (changesOnly_createDirectories files directory).trans (changesOnly_write written)
    intro path listed
    cases listed

theorem read?_save (saved : save text directory path files = (.ok (), after)) :
    after.read? path = some text := by
  rcases save_cases saved with ⟨⟨failure, impossible⟩, -⟩ | ⟨-, -, written⟩
  · cases impossible
  · exact read?_write written

/-- What a save leaves of the tree, for a file that is named below its directory. -/
theorem save_eq_ok (plain : IsName name)
    (saved : save text directory (join directory name) files = (.ok (), after)) :
    (files.createDirectories directory).2 = true ∧
      (files.createDirectories directory).1.isDirectoryAt (files.placeOf directory ++ [name]) =
        false ∧
      after = (files.createDirectories directory).1.put (files.placeOf directory ++ [name])
        (.file (some text)) := by
  rcases save_cases saved with ⟨⟨failure, impossible⟩, -⟩ | ⟨-, complete, written⟩
  · cases impossible
  · obtain ⟨place, found, -, free, stored⟩ := write?_eq_some written
    obtain ⟨-, target⟩ := (walk?_join directory plain).1 found
    rw [placeOf_createDirectories] at target
    subst target
    exact ⟨complete, free, stored⟩

theorem isWayTo_save (plain : IsName name)
    (saved : save text directory (join directory name) files = (.ok (), after)) :
    after.IsWayTo directory ∧ after.placeOf directory = files.placeOf directory := by
  obtain ⟨complete, free, rfl⟩ := save_eq_ok plain saved
  have start : (files.createDirectories directory).1.start directory = files.start directory :=
    start_createDirectories files directory directory
  constructor
  · exact (isWayTo_createDirectories complete).mono fun place => isDirectoryAt_put free
  · change (parts directory).foldl step ((files.createDirectories directory).1.start directory) = _
    rw [start, placeOf]

/-- After a save, there are no directories to create for another file. -/
theorem createDirectories_save (plain : IsName name)
    (saved : save text directory (join directory name) files = (.ok (), after)) :
    after.createDirectories directory = (after, true) :=
  createAlong_of_isWay (isWayTo_save plain saved).1

theorem find?_createDirectories (plain : IsName name)
    (complete : (files.createDirectories directory).2 = true) :
    (files.createDirectories directory).1.find? (join directory name) =
      (files.createDirectories directory).1.node? (files.placeOf directory ++ [name]) := by
  rw [find?_join directory plain (isWayTo_createDirectories complete), placeOf_createDirectories]

/-- Once the first of two files was saved, a directory stands at the name of the second one exactly
if it stood there once the directory of both was created. -/
theorem isDirectoryAt_save (plain : IsName name) (plainToo : IsName second)
    (saved : save text directory (join directory name) files = (.ok (), after)) :
    after.isDirectoryAt (files.placeOf directory ++ [second]) = true ↔
      files.IsBlocked directory (join directory second) := by
  obtain ⟨complete, free, rfl⟩ := save_eq_ok plain saved
  rw [IsBlocked, find?_createDirectories plainToo complete]
  constructor
  · exact fun blocked => beq_iff_eq.1 (isDirectoryAt_of_put blocked)
  · exact fun blocked => isDirectoryAt_put free (beq_iff_eq.2 blocked)

/-- Beside a saved file another one can be saved, unless a directory has its name. -/
theorem save_beside (plain : IsName name) (plainToo : IsName second)
    (saved : save text directory (join directory name) files = (.ok (), after)) :
    save other directory (join directory second) after =
      if files.IsBlocked directory (join directory second) then
        (.error (.cannotWrite (join directory second)), after)
      else (.ok (), after.put (files.placeOf directory ++ [second]) (.file (some other))) := by
  obtain ⟨isWay, place⟩ := isWayTo_save plain saved
  have leads : after.walk? (join directory second) =
      some (files.placeOf directory ++ [second]) :=
    (walk?_join directory plainToo).2 ⟨isWay, by rw [place]⟩
  rw [save, createDirectories_save plain saved]
  simp only [write?, leads, Option.bind_eq_bind, Option.bind_some,
    asksForDirectory_join directory plainToo, Bool.false_or,
    ← isDirectoryAt_save plain plainToo saved]
  cases after.isDirectoryAt (files.placeOf directory ++ [second]) with
  | false => rfl
  | true => rfl

section Beside

variable {last : FileSystem} (plain : IsName name) (plainToo : IsName second)
  (saved : save text directory (join directory name) files = (.ok (), after))
  (savedToo : save other directory (join directory second) after = (.ok (), last))

include plain plainToo saved savedToo

/-- The second of two saves in a directory only puts its file. -/
theorem save_beside_eq_ok :
    after.isDirectoryAt (files.placeOf directory ++ [second]) = false ∧
      last = after.put (files.placeOf directory ++ [second]) (.file (some other)) := by
  obtain ⟨-, free, stored⟩ := save_eq_ok plainToo savedToo
  rw [createDirectories_save plain saved, (isWayTo_save plain saved).2] at free stored
  exact ⟨free, stored⟩

/-- The first of two files beside each other stays as it was saved. -/
theorem read?_beside (distinct : name ≠ second) :
    last.read? (join directory name) = some text := by
  obtain ⟨-, -, stored⟩ := save_eq_ok plain saved
  obtain ⟨-, storedToo⟩ := save_beside_eq_ok plain plainToo saved savedToo
  obtain ⟨isWay, place⟩ := isWayTo_save plainToo savedToo
  have elsewhere : placeText (files.placeOf directory ++ [name]) ≠
      placeText (files.placeOf directory ++ [second]) :=
    fun same => distinct (placeText_concat_inj same)
  rw [FileSystem.read?, find?_join directory plain isWay, place, (isWayTo_save plain saved).2,
    storedToo, node?, if_neg (by simp), get?_put, if_neg elsewhere, stored, get?_put, if_pos rfl]

theorem changesOnly_beside :
    ChangesOnly [join directory name, join directory second] files last := by
  obtain ⟨free, storedToo⟩ := save_beside_eq_ok plain plainToo saved savedToo
  apply (changesOnly_save saved).trans (changesOnly_save savedToo)
  intro path _ target found
  rw [storedToo]
  exact walk?_put free found

end Beside

/-- What could be loaded is no directory. -/
theorem find?_of_load {α : Type} {read? : String → Option α} {absent value : α}
    (loaded : load read? absent files path = .ok value) :
    files.find? path ≠ some .directory := by
  intro found
  have present : files.fileExists path = true := by rw [fileExists, found]; rfl
  have unread : files.read? path = none := by rw [FileSystem.read?, found]
  rw [load, present, unread] at loaded
  cases loaded

/-- Where a directory was there before, its creation puts nothing in the way of a file in it. -/
theorem find?_of_blocked {root : String} (plainRoot : IsName directory)
    (complete : (files.createDirectories (join root directory)).2 = true)
    (free : files.find? (join (join root directory) name) ≠ some .directory)
    (blocked : files.IsBlocked (join root directory) (join (join root directory) name)) :
    files.find? (join root directory) = none := by
  cases found : files.find? (join root directory) with
  | none => rfl
  | some node =>
    exfalso
    have isWay : files.IsWayTo root := by
      cases leads : files.walk? (join root directory) with
      | none =>
        rw [find?, leads] at found
        cases found
      | some place => exact ((walk?_join root plainRoot).1 leads).1
    rw [find?_join root plainRoot isWay, ← placeOf_join files root plainRoot] at found
    -- Creation went through the node, so it is a directory, and all of the way stood before.
    have kept := node?_createAlong_of_eq_some found (files.start (join root directory))
      (parts (join root directory))
    have last := (isWayTo_createDirectories complete).last
    rw [start_createDirectories] at last
    have whole : files.IsWayTo (join root directory) := by
      refine (isWayTo_join root plainRoot).2 ⟨isWay, ?_⟩
      rw [isDirectoryAt, beq_iff_eq] at last ⊢
      rw [← placeOf_join files root plainRoot, found, ← kept]
      exact last
    rw [IsBlocked, createDirectories, createAlong_of_isWay whole] at blocked
    exact free blocked

/-- In a tree, only a path that leads upwards somewhere has something new in the way of a file once
its directories are there. -/
theorem mem_parts_of_blocked (plain : IsName name) (tree : files.IsTree)
    (complete : (files.createDirectories directory).2 = true)
    (free : files.find? (join directory name) ≠ some .directory)
    (blocked : files.IsBlocked directory (join directory name)) :
    ".." ∈ parts directory := by
  by_contra down
  have made : (files.createDirectories directory).1.node? (files.placeOf directory ++ [name]) =
      some .directory := by
    rw [← find?_createDirectories plain complete, blocked]
  have before : files.node? (files.placeOf directory ++ [name]) = some .directory := by
    rw [← made]
    exact (node?_createAlong_beyond down plain.2.1 files _).symm
  have above : files.isDirectoryAt (files.placeOf directory) = true := by
    apply tree.parent _ name
    rw [before]
    rfl
  have whole : files.IsWayTo directory := tree.isWay down above
  exact free ((find?_join _ plain whole).trans before)

end Storage

end SaveManifest
