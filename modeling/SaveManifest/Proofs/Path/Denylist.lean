import SaveManifest.Path.Denylist
import SaveManifest.Proofs.Path.Separators

/-!
# The denylist as a set

A denylist is a list that is searched before each addition. What it denies can be said without the
search: the paths it began with, and the normal form of each text that is not blank, up to the case
of ASCII letters (`contains_withExtra`). No path of it is empty, and no two are equal up to case
(`IsSet`), so its length too is determined by what it denies. In what order, how often and in how
many batches the texts are given makes no difference (`ofBatches_isSet`).
-/

namespace SaveManifest.Path

open SaveManifest.Text

namespace Denylist

/-- No path is empty, and no two are equal up to the case of ASCII letters. -/
structure IsSet (denylist : Denylist) : Prop where
  visible : ∀ path ∈ denylist.paths, path ≠ ""
  distinct : denylist.paths.Pairwise fun path later => sameIgnoringCase path later = false

def ofBatches (batches : List (List String)) : Denylist := batches.foldl withExtra standard

/-! ### One addition -/

theorem isEmpty_normalized (text : String) : (normalized text).isEmpty = isBlankText text := by
  rw [Bool.eq_iff_iff, String.isEmpty_iff, ← String.toList_eq_nil_iff, normalized, toList_onString,
    isBlankText, List.all_eq_true, ← trim_eq_nil_iff]
  constructor
  · intro nothing
    exact Decidable.not_not.1 fun visible => normalizeSeparators_ne_nil visible nothing
  · intro blank
    rw [blank]
    rfl

/-- The paths after an addition: one more, unless there is nothing to add. -/
theorem paths_add (denylist : Denylist) (text : String) :
    (denylist.add text).paths =
      if isBlankText text = true ∨ denylist.contains (normalized text) = true then denylist.paths
      else denylist.paths ++ [normalized text] := by
  unfold add
  simp only [isEmpty_normalized, Bool.or_eq_true]
  split
  · rfl
  · rfl

theorem contains_add (denylist : Denylist) (text path : String) :
    (denylist.add text).contains path = true ↔
      denylist.contains path = true ∨
        isBlankText text = false ∧ sameIgnoringCase (normalized text) path = true := by
  rw [contains, paths_add]
  split
  · next nothing =>
    rw [← contains]
    constructor
    · exact Or.inl
    · rintro (denied | ⟨visible, same⟩)
      · exact denied
      · -- The path is there already, in this or another case.
        rw [visible] at nothing
        have known := nothing.resolve_left Bool.false_ne_true
        rw [contains_iff] at known ⊢
        rw [sameIgnoringCase_iff] at same
        rwa [← same]
  · next more =>
    have visible : isBlankText text = false := Bool.eq_false_iff.2 fun blank => more (Or.inl blank)
    simp [contains, visible]

theorem IsSet.add {denylist : Denylist} (held : denylist.IsSet) (text : String) :
    (denylist.add text).IsSet := by
  obtain ⟨visible, distinct⟩ := held
  constructor
  · intro path member
    rw [paths_add] at member
    split at member
    · exact visible path member
    · next more =>
      rcases List.mem_append.1 member with old | new
      · exact visible path old
      · rw [List.mem_singleton.1 new]
        intro nothing
        apply more
        rw [← isEmpty_normalized, nothing]
        exact Or.inl rfl
  · rw [paths_add]
    split
    · exact distinct
    · next more =>
      rw [List.pairwise_append]
      refine ⟨distinct, List.pairwise_singleton _ _, ?_⟩
      intro path old new added
      rw [List.mem_singleton.1 added, Bool.eq_false_iff]
      intro same
      exact more (Or.inr (List.any_eq_true.2 ⟨path, old, same⟩))

theorem prefix_add (denylist : Denylist) (text : String) :
    denylist.paths <+: (denylist.add text).paths := by
  rw [paths_add]
  split
  · exact List.prefix_rfl
  · exact List.prefix_append _ _

/-! ### Several additions -/

theorem IsSet.withExtra {denylist : Denylist} (held : denylist.IsSet) (texts : List String) :
    (denylist.withExtra texts).IsSet := by
  unfold Denylist.withExtra
  induction texts generalizing denylist with
  | nil => exact held
  | cons text texts ih =>
    rw [List.foldl_cons]
    exact ih (held.add text)

theorem prefix_withExtra (denylist : Denylist) (texts : List String) :
    denylist.paths <+: (denylist.withExtra texts).paths := by
  unfold withExtra
  induction texts generalizing denylist with
  | nil => exact List.prefix_rfl
  | cons text texts ih =>
    rw [List.foldl_cons]
    exact (denylist.prefix_add text).trans (ih (denylist.add text))

/-- What is denied after additions is what was denied before, and what the texts name. -/
theorem contains_withExtra (denylist : Denylist) (texts : List String) (path : String) :
    (denylist.withExtra texts).contains path = true ↔
      denylist.contains path = true ∨
        ∃ text ∈ texts, isBlankText text = false ∧
          sameIgnoringCase (normalized text) path = true := by
  unfold withExtra
  induction texts generalizing denylist with
  | nil => simp
  | cons text texts ih =>
    rw [List.foldl_cons, ih, contains_add, or_assoc]
    simp only [List.mem_cons, exists_eq_or_imp]

/-- Batches are added like one batch of all their texts. -/
theorem ofBatches_eq (batches : List (List String)) :
    ofBatches batches = standard.withExtra batches.flatten := by
  unfold ofBatches withExtra
  exact List.foldl_flatten.symm

/-! ### The size -/

theorem isSet_standard : standard.IsSet where
  visible := by decide +kernel
  distinct := by decide +kernel

/-- A denylist without repetitions is as long as the set of what it denies is large. -/
theorem size_eq_of_contains {left right : Denylist} (leftHeld : left.IsSet)
    (rightHeld : right.IsSet) (same : ∀ path, left.contains path = right.contains path) :
    left.size = right.size := by
  let key (path : String) : List Char := lowered path.toList
  have nodup : ∀ {denylist : Denylist}, denylist.IsSet → (denylist.paths.map key).Nodup := by
    intro denylist held
    rw [List.Nodup, List.pairwise_map]
    apply held.distinct.imp
    intro path later other equal
    rw [(sameIgnoringCase_iff path later).2 equal] at other
    cases other
  have included : ∀ {early late : Denylist}, (∀ path, early.contains path = late.contains path) →
      ∀ k ∈ early.paths.map key, k ∈ late.paths.map key := by
    intro early late agree k member
    obtain ⟨path, inside, rfl⟩ := List.mem_map.1 member
    have denied : late.contains path = true := by
      rw [← agree, contains_iff]
      exact ⟨path, inside, rfl⟩
    obtain ⟨other, there, equal⟩ := (contains_iff late path).1 denied
    exact List.mem_map.2 ⟨other, there, equal⟩
  have perm : (left.paths.map key).Perm (right.paths.map key) := by
    rw [List.perm_ext_iff_of_nodup (nodup leftHeld) (nodup rightHeld)]
    intro k
    exact ⟨included same k, included (fun path => (same path).symm) k⟩
  simpa [size] using perm.length_eq

/-! ### Batches -/

/-- Whatever batches are given, the built-in paths stay in front, no path is empty and no two are
equal up to case. The denylist denies just the built-in paths and what the texts name, up to case;
so the same texts, in any order, number and division, deny the same, make the same paths too broad
and lead to the same size. -/
theorem ofBatches_isSet (batches : List (List String)) :
    builtIn <+: (ofBatches batches).paths ∧ (ofBatches batches).IsSet ∧
      (∀ path, (ofBatches batches).contains path = true ↔
        (∃ denied ∈ builtIn, sameIgnoringCase denied path = true) ∨
          ∃ text ∈ batches.flatten, isBlankText text = false ∧
            sameIgnoringCase (normalized text) path = true) ∧
      ∀ others : List (List String),
        (∀ text, text ∈ others.flatten ↔ text ∈ batches.flatten) →
          (∀ path, (ofBatches others).contains path = (ofBatches batches).contains path) ∧
          (∀ path, isTooBroad path (ofBatches others) = isTooBroad path (ofBatches batches)) ∧
          (ofBatches others).size = (ofBatches batches).size := by
  have held (batches : List (List String)) : (ofBatches batches).IsSet := by
    rw [ofBatches_eq]
    exact isSet_standard.withExtra _
  have denies (batches : List (List String)) (path : String) :
      (ofBatches batches).contains path = true ↔
        (∃ denied ∈ builtIn, sameIgnoringCase denied path = true) ∨
          ∃ text ∈ batches.flatten, isBlankText text = false ∧
            sameIgnoringCase (normalized text) path = true := by
    rw [ofBatches_eq, contains_withExtra, contains, List.any_eq_true]
    rfl
  refine ⟨?_, held batches, denies batches, ?_⟩
  · rw [ofBatches_eq]
    exact prefix_withExtra standard batches.flatten
  · intro others given
    have same : ∀ path, (ofBatches others).contains path = (ofBatches batches).contains path := by
      intro path
      rw [Bool.eq_iff_iff, denies, denies]
      simp only [given]
    refine ⟨same, ?_, size_eq_of_contains (held others) (held batches) same⟩
    intro path
    rw [isTooBroad, isTooBroad, same]

/-- The same texts in another order and division, one of them twice; of two that name one path the
first is kept. -/
theorem ofBatches_isSet_divided :
    let batches := [["C:\\Games\\"], ["", "~/saves", "c:/games"]]
    let others := [["c:/games"], [], ["", "~/saves", "C:\\Games\\", "~/saves"]]
    (∀ text, text ∈ others.flatten ↔ text ∈ batches.flatten) ∧
      (∀ path, (ofBatches others).contains path = (ofBatches batches).contains path) ∧
      (∀ path, isTooBroad path (ofBatches others) = isTooBroad path (ofBatches batches)) ∧
      (ofBatches others).size = (ofBatches batches).size ∧
      (ofBatches others).paths.drop 22 = ["c:/games", "<home>/saves"] := by
  intro batches others
  have given : ∀ text, text ∈ others.flatten ↔ text ∈ batches.flatten := by
    intro text
    simp only [batches, others, List.flatten_cons, List.flatten_nil, List.mem_append, List.mem_cons,
      List.not_mem_nil]
    grind
  obtain ⟨denied, broad, size⟩ := (ofBatches_isSet batches).2.2.2 others given
  exact ⟨given, denied, broad, size, by decide +kernel⟩

end Denylist

end SaveManifest.Path
