import SaveManifest.Proofs.Extraction.Entries
import SaveManifest.Proofs.Extraction.Verdict
import SaveManifest.Proofs.Path.Resolved

/-!
# Extracted records are well formed

What can be relied on in a record, whatever nodes and whatever denylist it was extracted with:
its paths can name a game (`IsGamePath`), each entry says what its path holds and where it
applies (`Entry.IsWellFormed`), and a Steam id is a positive number (`ofNodes_isWellFormed`).
-/

namespace SaveManifest

open SaveManifest.Path

/-- A path that can name a game in a manifest: in normal form, resolved and not too broad. -/
structure Path.IsGamePath (denylist : Denylist) (path : String) : Prop where
  visible : path ≠ ""
  slashes : '\\' ∉ path.toList
  single : ¬ ['/', '/'] <:+: path.toList
  trailing : path.toList.getLast? ≠ some '/'
  home : path.toList.takeWhile (· != '/') ≠ ['~']
  resolved : ∀ placeholder ∈ Placeholder.known,
    hasMarker placeholder.token.toList path.toList = false
  narrow : isTooBroad path denylist = false

/-- An entry that says what its path holds and, for a path of the file system, where it applies. -/
structure Entry.IsWellFormed (kind : PathKind) (entry : Entry) : Prop where
  nodup : entry.HasNodup
  tagged : entry.tags ≠ []
  bound : ∀ constraint ∈ entry.constraints, constraint.isUnconstrained = false
  fits : ∀ constraint ∈ entry.constraints, constraint.Fits kind
  placed : kind = .file → entry.constraints ≠ []

/-- A record whose paths can name a game and whose entries are well formed. -/
structure Record.IsWellFormed (denylist : Denylist) (record : Record) : Prop where
  path : record.Every fun _ path _ => IsGamePath denylist path
  root : record.Every fun kind path _ =>
    kind = .registry → ∃ root ∈ registryRoots, root.toList <:+: path.toList
  entry : record.Every fun kind _ entry => entry.IsWellFormed kind
  steam : ∀ id, record.steam = some id → 0 < id

theorem Entry.mem_addConstraint {entry : Entry} {constraint probe : Constraint} :
    probe ∈ (entry.addConstraint constraint).constraints ↔
      probe ∈ entry.constraints ∨ (probe = constraint ∧ constraint.isUnconstrained = false) := by
  unfold addConstraint
  cases free : constraint.isUnconstrained with
  | true => simp
  | false => simp [mem_adjoin]

/-- A constraint that fits, or binds nothing, and a tag make a well-formed entry of a new or a
well-formed one. -/
theorem Entry.isWellFormed_add {kind : PathKind} {old : Entry}
    (before : old = {} ∨ old.IsWellFormed kind) {constraint : Constraint}
    (fits : constraint.isUnconstrained = false → constraint.Fits kind)
    (placed : kind = .file → constraint.isUnconstrained = false) (tag : Tag) :
    ((old.addConstraint constraint).addTag tag).IsWellFormed kind := by
  obtain ⟨nodup, bound, fitting⟩ : old.HasNodup ∧
      (∀ constraint ∈ old.constraints, constraint.isUnconstrained = false) ∧
      ∀ constraint ∈ old.constraints, constraint.Fits kind := by
    rcases before with rfl | formed
    · exact ⟨hasNodup_empty, by simp, by simp⟩
    · exact ⟨formed.nodup, formed.bound, formed.fits⟩
  refine ⟨(nodup.addConstraint constraint).addTag tag, adjoin_ne_nil _ _, ?_, ?_, ?_⟩
  · intro probe member
    rcases mem_addConstraint.1 member with former | ⟨rfl, added⟩
    · exact bound probe former
    · exact added
  · intro probe member
    rcases mem_addConstraint.1 member with former | ⟨rfl, added⟩
    · exact fitting probe former
    · exact fits added
  · intro file nothing
    have member : constraint ∈ ((old.addConstraint constraint).addTag tag).constraints :=
      mem_addConstraint.2 (Or.inr ⟨rfl, placed file⟩)
    rw [nothing] at member
    cases member

namespace Extraction

open SaveManifest.Template SaveManifest.Text

variable {denylist : Denylist} {path : DataPath} {resolved : Resolved} {constraint : Constraint}

theorem trimmed_ne_empty (visible : isBlankText path.raw = false) : trimmed path.raw ≠ "" := by
  rw [← isEmpty_trimmed] at visible
  intro nothing
  rw [nothing] at visible
  cases visible

theorem isGamePath_of_accepted (visible : isBlankText path.raw = false)
    (accepted : path.verdict denylist = .accepted resolved constraint) :
    IsGamePath denylist resolved.path := by
  obtain ⟨success, narrow, -⟩ := judge_eq_accepted accepted
  have normal := isNormal_of_resolve success
  refine ⟨path_ne_empty_of_resolve success (trimmed_ne_empty visible), normal.slashes,
    normal.single, ?_, normal.home, fun _ known => hasMarker_of_resolve success known, narrow⟩
  intro ends
  obtain ⟨front, split⟩ := List.getLast?_eq_some_iff.1 ends
  cases front with
  | nil =>
    -- The separator alone is a path, but one that is too broad.
    have root : resolved.path = "/" := String.toList_inj.1 split
    rw [root] at narrow
    simp [isTooBroad] at narrow
  | cons c front =>
    apply normal.trailing _ ends
    rw [split]
    simp

/-- What an accepted path adds to its entry keeps it well formed. -/
theorem isWellFormed_of_accepted (accepted : path.verdict denylist = .accepted resolved constraint)
    {old : Entry} (before : old = {} ∨ old.IsWellFormed resolved.kind) :
    ((old.addConstraint constraint).addTag path.tag).IsWellFormed resolved.kind := by
  obtain ⟨-, -, inferred, column, rfl⟩ := judge_eq_accepted accepted
  obtain ⟨bound, fits⟩ := fits_systemConstraint column
  cases kind : resolved.kind with
  | file =>
    rw [kind] at before
    exact Entry.isWellFormed_add before (fun _ => fits) (fun _ => bound) path.tag
  | registry =>
    rw [kind] at before
    apply Entry.isWellFormed_add before _ (by intro file; cases file) path.tag
    intro added
    simp only [Constraint.isUnconstrained, Option.isNone_none, Bool.true_and] at added
    exact ⟨by rw [← Option.not_isNone, added]; rfl, rfl⟩

theorem steamId?_pos {node : Node} {id : UInt32} (found : steamId? node = some id) : 0 < id := by
  simp only [steamId?, Option.bind_eq_bind, Option.bind_eq_some_iff] at found
  obtain ⟨listed, -, read⟩ := found
  have positive := (Option.filter_eq_some_iff.1 read).2
  rw [bne_iff_ne] at positive
  exact UInt32.pos_iff_ne_zero.2 positive

def Step.IsPositive (step : Step) : Prop := ∀ id, step = .steam id → 0 < id

theorem isPositive_of_mem_steps {node : Node} {step : Step} (member : step ∈ steps node) :
    step.IsPositive := by
  rintro id rfl
  unfold steps at member
  split at member
  · obtain ⟨found, given, same⟩ := List.mem_map.1 member
    cases same
    exact steamId?_pos (Option.mem_toList.1 given)
  · obtain ⟨path, -, same⟩ := List.mem_map.1 member
    cases same

theorem steam_foldl {steps : List Step} (positive : ∀ step ∈ steps, step.IsPositive)
    {extraction : Extraction} (before : ∀ id, extraction.record.steam = some id → 0 < id) :
    ∀ id, (steps.foldl (take denylist) extraction).record.steam = some id → 0 < id := by
  induction steps generalizing extraction with
  | nil => exact before
  | cons step steps ih =>
    rw [List.foldl_cons]
    apply ih fun later member => positive later (List.mem_cons_of_mem _ member)
    cases step with
    | steam taken =>
      intro id same
      cases same
      exact positive _ List.mem_cons_self taken rfl
    | data path =>
      rw [take]
      cases path.verdict denylist with
      | tooBroad => exact before
      | refused error => exact before
      | accepted resolved constraint =>
        intro id same
        rw [settle, Record.steam_update] at same
        exact before id same

/-- The record of any list of nodes under any denylist is well formed. -/
theorem ofNodes_isWellFormed (denylist : Denylist) (nodes : List Node) :
    (ofNodes denylist nodes).record.IsWellFormed denylist where
  path := by
    apply every_ofNodes
    intro path resolved constraint visible accepted old _
    exact isGamePath_of_accepted visible accepted
  root := by
    apply every_ofNodes
    intro path resolved constraint _ accepted old _ registry
    exact registryRoot_of_resolve (judge_eq_accepted accepted).1 registry
  entry := by
    apply every_ofNodes
    intro path resolved constraint _ accepted old before
    exact isWellFormed_of_accepted accepted before
  steam := by
    rw [ofNodes_eq_foldl]
    apply steam_foldl
    · intro step member
      obtain ⟨node, -, inside⟩ := List.mem_flatMap.1 member
      exact isPositive_of_mem_steps inside
    · intro id none
      cases none

end Extraction

end SaveManifest
