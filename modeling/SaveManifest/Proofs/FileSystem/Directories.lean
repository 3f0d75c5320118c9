import Mathlib.Data.List.Induction
import SaveManifest.Proofs.FileSystem
import SaveManifest.Proofs.Text.Blank
import SaveManifest.Workspace

/-!
# Directories along a path

A path leads to a place below a directory where every part before the last is a directory
(`walk?_join`). Creating the directories of a path makes just these (`isWay_createAlong`), leaves
all that stood before (`get?_createAlong`) and puts nothing beyond the end of the path, unless
the path leads upwards somewhere (`node?_createAlong_beyond`).
-/

namespace SaveManifest.FileSystem

open SaveManifest.Text

variable {files : FileSystem} {place : Place} {parts : List String}

/-- A name that a path can end in to name what stands below a directory. -/
def IsName (name : String) : Prop :=
  '/' ∉ name.toList ∧ name ≠ "" ∧ name ≠ "." ∧ name ≠ ".."

instance (name : String) : Decidable (IsName name) :=
  inferInstanceAs (Decidable ('/' ∉ name.toList ∧ name ≠ "" ∧ name ≠ "." ∧ name ≠ ".."))

/-- Every place on the way along some parts is a directory, the last one included. -/
def IsWay (files : FileSystem) (place : Place) : List String → Prop
  | [] => files.isDirectoryAt place = true
  | part :: parts => files.isDirectoryAt place = true ∧ files.IsWay (step place part) parts

/-- A path and every place on the way along it are directories. -/
def IsWayTo (files : FileSystem) (path : String) : Prop :=
  files.IsWay (files.start path) (FileSystem.parts path)

def placeOf (files : FileSystem) (path : String) : Place :=
  (FileSystem.parts path).foldl step (files.start path)

/-! ### Ways -/

theorem IsWay.first (isWay : files.IsWay place parts) : files.isDirectoryAt place = true := by
  cases parts with
  | nil => exact isWay
  | cons part parts => exact isWay.1

theorem IsWay.last (isWay : files.IsWay place parts) :
    files.isDirectoryAt (parts.foldl step place) = true := by
  induction parts generalizing place with
  | nil => exact isWay
  | cons part parts ih => exact ih isWay.2

theorem IsWay.mono {after : FileSystem} (isWay : files.IsWay place parts)
    (kept : ∀ place, files.isDirectoryAt place = true → after.isDirectoryAt place = true) :
    after.IsWay place parts := by
  induction parts generalizing place with
  | nil => exact kept place isWay
  | cons part parts ih => exact ⟨kept place isWay.1, ih isWay.2⟩

theorem isWay_concat {part : String} :
    files.IsWay place (parts ++ [part]) ↔
      files.IsWay place parts ∧
        files.isDirectoryAt (step (parts.foldl step place) part) = true := by
  induction parts generalizing place with
  | nil => rfl
  | cons first parts ih => rw [List.cons_append, IsWay, IsWay, ih, List.foldl_cons, and_assoc]

/-- The walk of `walk?` along some parts and one more goes through directories. -/
theorem foldlM_concat_eq_some_iff {name : String} {target : Place} :
    (parts ++ [name]).foldlM (fun place part =>
        if files.isDirectoryAt place then some (step place part) else none) place = some target ↔
      files.IsWay place parts ∧ target = step (parts.foldl step place) name := by
  induction parts generalizing place with
  | nil =>
    rw [List.nil_append, List.foldlM_cons]
    cases directory : files.isDirectoryAt place with
    | false => simp [IsWay, directory]
    | true =>
      rw [if_pos rfl, IsWay, directory, List.foldl_nil]
      simp only [true_and]
      exact Option.some_inj.trans eq_comm
  | cons part parts ih =>
    rw [List.cons_append, List.foldlM_cons]
    cases directory : files.isDirectoryAt place with
    | false => simp [IsWay, directory]
    | true =>
      rw [if_pos rfl, Option.bind_eq_bind, Option.bind_some, ih, IsWay, directory, List.foldl_cons]
      simp only [true_and]

/-! ### Paths below a directory -/

theorem toList_join (directory name : String) :
    (Workspace.join directory name).toList = directory.toList ++
      (if directory.isEmpty || directory.toList.getLast? == some '/' then name.toList
      else '/' :: name.toList) := by
  unfold Workspace.join
  split
  · rw [String.toList_append]
  · rw [String.toList_append, String.toList_append, List.append_assoc]
    rfl

theorem parts_of_isName {name : String} (plain : IsName name) : FileSystem.parts name = [name] := by
  have whole : splitOn (· == '/') name.toList = [name.toList] := by
    refine splitOn_eq_singleton fun c member => beq_eq_false_iff_ne.2 ?_
    rintro rfl
    exact plain.1 member
  have visible : name.toList.isEmpty = false := by
    rw [List.isEmpty_eq_false_iff]
    exact fun nothing => plain.2.1 (String.toList_inj.1 nothing)
  rw [FileSystem.parts, whole, List.filter_cons, visible]
  simp

/-- What stands behind a slash adds its parts. -/
theorem filter_splitOn_append (front back : List Char)
    (ends : front = [] ∨ front.getLast? = some '/') :
    (splitOn (· == '/') (front ++ back)).filter (fun part => !part.isEmpty) =
      (splitOn (· == '/') front).filter (fun part => !part.isEmpty) ++
        (splitOn (· == '/') back).filter (fun part => !part.isEmpty) := by
  rcases ends with rfl | ends
  · rfl
  · obtain ⟨others, rfl⟩ := List.getLast?_eq_some_iff.1 ends
    rw [List.append_assoc, List.singleton_append, splitOn_append rfl, splitOn_append rfl,
      List.filter_append, List.filter_append]
    have nothing : (splitOn (· == '/') []).filter (fun part => !part.isEmpty) = [] := rfl
    rw [nothing, List.append_nil]

theorem parts_join (directory : String) {name : String} (plain : IsName name) :
    FileSystem.parts (Workspace.join directory name) = FileSystem.parts directory ++ [name] := by
  rw [← parts_of_isName plain]
  unfold FileSystem.parts
  rw [toList_join, ← List.map_append]
  congr 1
  split
  · next ends =>
    apply filter_splitOn_append
    rw [Bool.or_eq_true, String.isEmpty_iff, beq_iff_eq] at ends
    exact ends.imp_left fun empty => by rw [empty]; rfl
  · rw [splitOn_append rfl, List.filter_append]

theorem start_join (files : FileSystem) (directory : String) {name : String}
    (plain : IsName name) :
    files.start (Workspace.join directory name) = files.start directory := by
  have head : (Workspace.join directory name).toList.head? == some '/' ↔
      directory.toList.head? == some '/' := by
    rw [toList_join]
    cases shape : directory.toList with
    | cons c rest => simp
    | nil =>
      have empty : directory.isEmpty = true := by
        rw [String.isEmpty_iff, ← String.toList_inj, shape]
        rfl
      rw [empty, Bool.true_or, if_pos rfl, List.nil_append]
      cases text : name.toList with
      | nil => simp
      | cons c rest =>
        have first := plain.1
        rw [text, List.mem_cons, not_or] at first
        simp [Ne.symm first.1]
  unfold start
  simp only [head]

theorem step_of_isName {name : String} (plain : IsName name) (place : Place) :
    step place name = place ++ [name] := by
  rw [step, if_neg plain.2.2.1, if_neg plain.2.2.2]

theorem placeOf_join (files : FileSystem) (directory : String) {name : String}
    (plain : IsName name) :
    files.placeOf (Workspace.join directory name) = files.placeOf directory ++ [name] := by
  rw [placeOf, parts_join directory plain, start_join files directory plain, List.foldl_append,
    List.foldl_cons, List.foldl_nil, step_of_isName plain, placeOf]

theorem isWayTo_join (directory : String) {name : String} (plain : IsName name) :
    files.IsWayTo (Workspace.join directory name) ↔
      files.IsWayTo directory ∧
        files.isDirectoryAt (files.placeOf directory ++ [name]) = true := by
  rw [IsWayTo, parts_join directory plain, start_join files directory plain, isWay_concat,
    step_of_isName plain, IsWayTo, placeOf]

/-- A name below a directory is reached where the way to the directory is one. -/
theorem walk?_join (directory : String) {name : String} (plain : IsName name) {target : Place} :
    files.walk? (Workspace.join directory name) = some target ↔
      files.IsWayTo directory ∧ target = files.placeOf directory ++ [name] := by
  have visible : (Workspace.join directory name).isEmpty = false := by
    rw [Bool.eq_false_iff, Ne, String.isEmpty_iff]
    intro nothing
    have none := parts_join directory plain
    rw [nothing] at none
    exact absurd none.symm (by simp [FileSystem.parts, splitOn])
  rw [walk?, visible, if_neg Bool.false_ne_true, parts_join directory plain,
    start_join files directory plain, foldlM_concat_eq_some_iff, step_of_isName plain]
  rfl

theorem asksForDirectory_join (directory : String) {name : String} (plain : IsName name) :
    asksForDirectory (Workspace.join directory name) = false := by
  have last : ∀ front : List Char, (front ++ name.toList).getLast? ≠ some '/' := by
    intro front ends
    cases shape : name.toList with
    | nil => exact plain.2.1 (String.toList_inj.1 shape)
    | cons c rest =>
      rw [shape, List.getLast?_append, List.getLast?_cons, Option.some_or, ← List.getLast?_cons]
        at ends
      exact plain.1 (shape ▸ List.mem_of_getLast? ends)
  rw [asksForDirectory, beq_eq_false_iff_ne, toList_join]
  split
  · exact last _
  · rw [List.append_cons]
    exact last _

/-- What a name below a directory finds, where the way to the directory is one. -/
theorem find?_join (directory : String) {name : String} (plain : IsName name)
    (isWay : files.IsWayTo directory) :
    files.find? (Workspace.join directory name) =
      files.node? (files.placeOf directory ++ [name]) := by
  rw [find?, (walk?_join directory plain).2 ⟨isWay, rfl⟩, Option.bind_eq_bind, Option.bind_some,
    asksForDirectory_join directory plain]
  cases files.node? (files.placeOf directory ++ [name]) with
  | none => rfl
  | some node => rfl

/-! ### Places and their texts -/

theorem placeText_concat (place : Place) (name : String) :
    placeText (place ++ [name]) =
      (if place = [] then placeText place else placeText place ++ "/") ++ name := by
  unfold placeText
  have behind : ∀ (first : String) (others : Place),
      "/".intercalate (first :: others ++ [name]) =
        "/".intercalate (first :: others) ++ "/" ++ name := by
    intro first others
    induction others generalizing first with
    | nil => rfl
    | cons second others ih =>
      rw [List.cons_append, List.cons_append, String.intercalate_cons_cons, ← List.cons_append, ih,
        String.intercalate_cons_cons, String.append_assoc, String.append_assoc, String.append_assoc,
        String.append_assoc, String.append_assoc]
  cases place with
  | nil => rfl
  | cons first others =>
    rw [if_neg (List.cons_ne_nil _ _), behind, String.append_assoc, String.append_assoc,
      String.append_assoc]

theorem placeText_concat_inj {first second : String}
    (same : placeText (place ++ [first]) = placeText (place ++ [second])) : first = second := by
  rw [placeText_concat, placeText_concat, ← String.toList_inj, String.toList_append,
    String.toList_append] at same
  exact String.toList_inj.1 (List.append_cancel_left same)

theorem length_placeText_le (place : Place) (name : String) :
    (placeText place).length + name.length ≤ (placeText (place ++ [name])).length := by
  rw [placeText_concat, String.length_append]
  split
  · exact Nat.le_refl _
  · rw [String.length_append]
    omega

theorem length_placeText_mono {lower upper : Place} (below : lower <+: upper) :
    (placeText lower).length ≤ (placeText upper).length := by
  obtain ⟨rest, rfl⟩ := below
  induction rest using List.reverseRecOn with
  | nil => exact Nat.le_of_eq (by rw [List.append_nil])
  | append_singleton rest name ih =>
    have further := length_placeText_le (lower ++ rest) name
    rw [List.append_assoc] at further
    omega

/-! ### Creating directories -/

theorem get?_put (files : FileSystem) (place : Place) (node : FileNode) (key : String) :
    (files.put place node).nodes.get? key =
      if key = placeText place then some node else files.nodes.get? key :=
  Catalog.get?_insert _ _ _ _

theorem get?_of_node?_eq_none (absent : files.node? place = none) :
    files.nodes.get? (placeText place) = none := by
  unfold node? at absent
  split at absent
  · cases absent
  · exact absent

theorem createAlong_cons (files : FileSystem) (place : Place) (part : String)
    (parts : List String) :
    files.createAlong place (part :: parts) =
      if !files.isDirectoryAt place then (files, false)
      else match files.node? (step place part) with
        | some _ => files.createAlong (step place part) parts
        | none => (files.put (step place part) .directory).createAlong (step place part) parts :=
  rfl

theorem current_createAlong (files : FileSystem) (place : Place) (parts : List String) :
    (files.createAlong place parts).1.current = files.current := by
  induction parts generalizing files place with
  | nil => rfl
  | cons part parts ih =>
    rw [createAlong_cons]
    split
    · rfl
    · split
      · exact ih _ _
      · exact ih _ _

/-- Creating directories keeps what stands anywhere; what is new is a directory on the way. -/
theorem get?_createAlong (files : FileSystem) (place : Place) (parts : List String)
    (key : String) :
    (files.createAlong place parts).1.nodes.get? key = files.nodes.get? key ∨
      files.nodes.get? key = none ∧
        (files.createAlong place parts).1.nodes.get? key = some .directory ∧
        ∃ front, front <+: parts ∧ placeText (front.foldl step place) = key := by
  induction parts generalizing files place with
  | nil => exact Or.inl rfl
  | cons part parts ih =>
    rw [createAlong_cons]
    split
    · exact Or.inl rfl
    · split
      · rcases ih files (step place part) with same | ⟨absent, made, front, inside, text⟩
        · exact Or.inl same
        · exact Or.inr ⟨absent, made, part :: front, List.cons_prefix_cons.2 ⟨rfl, inside⟩, text⟩
      · next free =>
        have before := get?_of_node?_eq_none free
        rcases ih (files.put (step place part) .directory) (step place part) with
          same | ⟨absent, made, front, inside, text⟩
        · rw [get?_put] at same
          split at same
          · next here =>
            -- This is the directory that was put for the part.
            exact Or.inr ⟨here ▸ before, same, [part],
              List.cons_prefix_cons.2 ⟨rfl, List.nil_prefix⟩, here.symm⟩
          · exact Or.inl same
        · rw [get?_put] at absent
          split at absent
          · cases absent
          · exact Or.inr ⟨absent, made, part :: front, List.cons_prefix_cons.2 ⟨rfl, inside⟩, text⟩

theorem get?_createAlong_of_eq_some {key : String} {node : FileNode}
    (stands : files.nodes.get? key = some node) (place : Place) (parts : List String) :
    (files.createAlong place parts).1.nodes.get? key = some node := by
  rcases get?_createAlong files place parts key with same | ⟨absent, -⟩
  · exact same.trans stands
  · rw [stands] at absent
    cases absent

theorem node?_createAlong_of_eq_some {target : Place} {node : FileNode}
    (stands : files.node? target = some node) (place : Place) (parts : List String) :
    (files.createAlong place parts).1.node? target = some node := by
  unfold node? at stands ⊢
  split
  · next root =>
    rwa [if_pos root] at stands
  · next visible =>
    rw [if_neg visible] at stands
    exact get?_createAlong_of_eq_some stands place parts

theorem isDirectoryAt_createAlong {target : Place} (directory : files.isDirectoryAt target = true)
    (place : Place) (parts : List String) :
    (files.createAlong place parts).1.isDirectoryAt target = true := by
  rw [isDirectoryAt, beq_iff_eq] at directory ⊢
  exact node?_createAlong_of_eq_some directory place parts

/-- Where all directories could be created, they are there. -/
theorem isWay_createAlong (files : FileSystem) (place : Place) (parts : List String)
    (complete : (files.createAlong place parts).2 = true) :
    (files.createAlong place parts).1.IsWay place parts := by
  induction parts generalizing files place with
  | nil => exact complete
  | cons part parts ih =>
    rw [createAlong_cons] at complete ⊢
    split at complete
    · cases complete
    · next directory =>
      rw [if_neg directory]
      rw [Bool.not_eq_true, Bool.not_eq_false'] at directory
      split at complete
      · exact ⟨isDirectoryAt_createAlong directory _ _, ih _ _ complete⟩
      · next free =>
        have unused : files.isDirectoryAt (step place part) = false := by
          rw [isDirectoryAt, free]
          rfl
        have still : (files.put (step place part) .directory).isDirectoryAt place = true :=
          isDirectoryAt_put unused directory
        exact ⟨isDirectoryAt_createAlong still _ _, ih _ _ complete⟩

/-- Where all directories are there, none is created. -/
theorem createAlong_of_isWay (isWay : files.IsWay place parts) :
    files.createAlong place parts = (files, true) := by
  induction parts generalizing place with
  | nil =>
    have directory : files.isDirectoryAt place = true := isWay
    rw [createAlong, directory]
  | cons part parts ih =>
    have next : files.node? (step place part) = some .directory := beq_iff_eq.1 isWay.2.first
    rw [createAlong_cons, isWay.1, Bool.not_true, if_neg Bool.false_ne_true, next]
    exact ih isWay.2

theorem start_createDirectories (files : FileSystem) (directory path : String) :
    (files.createDirectories directory).1.start path = files.start path := by
  unfold start
  rw [createDirectories, current_createAlong]

theorem placeOf_createDirectories (files : FileSystem) (directory path : String) :
    (files.createDirectories directory).1.placeOf path = files.placeOf path := by
  rw [placeOf, start_createDirectories, placeOf]

theorem isWayTo_createDirectories {directory : String}
    (complete : (files.createDirectories directory).2 = true) :
    (files.createDirectories directory).1.IsWayTo directory := by
  rw [IsWayTo, start_createDirectories]
  exact isWay_createAlong files _ _ complete

/-! ### Paths that lead only downwards -/

structure IsTree (files : FileSystem) : Prop where
  parent : ∀ place name, (files.node? (place ++ [name])).isSome = true →
    files.isDirectoryAt place = true

theorem IsTree.isDirectoryAt_of_prefix (tree : files.IsTree) {lower upper : Place}
    (below : lower <+: upper) (directory : files.isDirectoryAt upper = true) :
    files.isDirectoryAt lower = true := by
  obtain ⟨rest, rfl⟩ := below
  induction rest using List.reverseRecOn with
  | nil => rwa [List.append_nil] at directory
  | append_singleton rest name ih =>
    apply ih
    apply tree.parent _ name
    rw [isDirectoryAt, beq_iff_eq, ← List.append_assoc] at directory
    rw [directory]
    rfl

theorem prefix_step {part : String} (down : part ≠ "..") (place : Place) :
    place <+: step place part := by
  unfold step
  rw [if_neg down]
  split
  · exact List.prefix_rfl
  · exact List.prefix_append place [part]

theorem prefix_foldl_step (down : ".." ∉ parts) (place : Place) :
    place <+: parts.foldl step place := by
  induction parts generalizing place with
  | nil => exact List.prefix_rfl
  | cons part parts ih =>
    rw [List.mem_cons, not_or] at down
    exact (prefix_step (Ne.symm down.1) place).trans (ih down.2 _)

/-- In a tree, the way down to a directory goes through directories. -/
theorem IsTree.isWay (tree : files.IsTree) (down : ".." ∉ parts)
    (arrives : files.isDirectoryAt (parts.foldl step place) = true) : files.IsWay place parts := by
  induction parts generalizing place with
  | nil => exact arrives
  | cons part parts ih =>
    have whole := prefix_foldl_step down place
    rw [List.mem_cons, not_or] at down
    exact ⟨tree.isDirectoryAt_of_prefix whole arrives, ih down.2 arrives⟩

/-- On a way that only leads down, nothing is created below the last directory. -/
theorem node?_createAlong_beyond (down : ".." ∉ parts) {name : String} (visible : name ≠ "")
    (files : FileSystem) (place : Place) :
    (files.createAlong place parts).1.node? (parts.foldl step place ++ [name]) =
      files.node? (parts.foldl step place ++ [name]) := by
  have inside : (parts.foldl step place ++ [name]).isEmpty = false := by simp
  rw [node?, node?, inside, if_neg Bool.false_ne_true, if_neg Bool.false_ne_true]
  rcases get?_createAlong files place parts (placeText (parts.foldl step place ++ [name])) with
    same | ⟨-, -, front, ⟨rest, split⟩, text⟩
  · exact same
  · -- The text of a place on the way is not longer than that of the last one.
    have onward : front.foldl step place <+: parts.foldl step place := by
      rw [← split, List.foldl_append]
      apply prefix_foldl_step
      intro upward
      exact down (split ▸ List.mem_append_right front upward)
    have short := length_placeText_mono onward
    have long := length_placeText_le (parts.foldl step place) name
    have positive : name.length ≠ 0 := fun nothing => visible (String.length_eq_zero_iff.1 nothing)
    rw [text] at short
    omega

end SaveManifest.FileSystem
