import SaveManifest.Proofs.Extraction.Steps
import SaveManifest.Proofs.Record

/-!
# What holds of every entry

Extraction changes a record in one way only: an accepted path adds a constraint and a tag to its
own entry. So a condition on entries that such a change establishes and keeps holds of every
entry of an extracted record (`every_ofNodes`).
-/

namespace SaveManifest

/-- A condition holds of every entry, with the kind and the text of its path. -/
def Record.Every (condition : PathKind → String → Entry → Prop) (record : Record) : Prop :=
  ∀ kind path entry, (record.paths kind).get? path = some entry → condition kind path entry

theorem Record.every_empty (condition : PathKind → String → Entry → Prop) :
    ({} : Record).Every condition := by
  intro kind path entry found
  cases kind <;> cases found

theorem Record.Every.update {condition : PathKind → String → Entry → Prop} {record : Record}
    (every : record.Every condition) {kind : PathKind} {path : String} {change : Entry → Entry}
    (changed : condition kind path (change (((record.paths kind).get? path).getD {}))) :
    (record.update kind path change).Every condition := by
  intro other probe entry found
  rw [get?_update] at found
  by_cases same : other = kind ∧ probe = path
  · obtain ⟨rfl, rfl⟩ := same
    rw [if_pos ⟨rfl, rfl⟩, Option.some.injEq] at found
    exact found ▸ changed
  · rw [if_neg same] at found
    exact every other probe entry found

namespace Entry

theorem hasNodup_empty : ({} : Entry).HasNodup := ⟨List.nodup_nil, List.nodup_nil⟩

theorem HasNodup.addConstraint {entry : Entry} (nodup : entry.HasNodup)
    (constraint : Constraint) : (entry.addConstraint constraint).HasNodup := by
  unfold Entry.addConstraint
  split
  · exact nodup
  · exact ⟨nodup_adjoin nodup.constraints constraint, nodup.tags⟩

theorem HasNodup.addTag {entry : Entry} (nodup : entry.HasNodup) (tag : Tag) :
    (entry.addTag tag).HasNodup := ⟨nodup.constraints, nodup_adjoin nodup.tags tag⟩

end Entry

namespace Extraction

variable {condition : PathKind → String → Entry → Prop} {denylist : Path.Denylist}

/-- An accepted path that is not blank takes a new entry, or one that satisfies the condition, to
one that does. -/
def Establishes (denylist : Path.Denylist) (condition : PathKind → String → Entry → Prop) : Prop :=
  ∀ (path : DataPath) resolved constraint, Text.isBlankText path.raw = false →
    path.verdict denylist = .accepted resolved constraint →
    ∀ old, old = {} ∨ condition resolved.kind resolved.path old →
      condition resolved.kind resolved.path ((old.addConstraint constraint).addTag path.tag)

def Step.IsVisible (step : Step) : Prop :=
  ∀ path, step = .data path → Text.isBlankText path.raw = false

theorem isVisible_of_mem_steps {node : Template.Node} {step : Step} (member : step ∈ steps node) :
    step.IsVisible := by
  rintro path rfl
  have judged : path ∈ dataPaths node := by
    rw [← filterMap_steps]
    exact List.mem_filterMap.2 ⟨_, member, rfl⟩
  unfold dataPaths at judged
  split at judged
  · obtain ⟨value, kept, rfl⟩ := List.mem_map.1 judged
    simpa using (List.mem_filter.1 kept).2
  · cases judged

theorem every_take (establishes : Establishes denylist condition) {extraction : Extraction}
    (every : extraction.record.Every condition) {step : Step} (visible : step.IsVisible) :
    (take denylist extraction step).record.Every condition := by
  cases step with
  | steam id =>
    intro kind path entry found
    apply every
    rw [← found]
    cases kind <;> rfl
  | data path =>
    rw [take]
    cases verdict : path.verdict denylist with
    | tooBroad => exact every
    | refused error => exact every
    | accepted resolved constraint =>
      apply every.update
      apply establishes path resolved constraint (visible path rfl) verdict
      cases found : (extraction.record.paths resolved.kind).get? resolved.path with
      | none => exact Or.inl rfl
      | some old => exact Or.inr (every _ _ old found)

theorem every_foldl (establishes : Establishes denylist condition) {steps : List Step}
    (visible : ∀ step ∈ steps, step.IsVisible) {extraction : Extraction}
    (every : extraction.record.Every condition) :
    (steps.foldl (take denylist) extraction).record.Every condition := by
  induction steps generalizing extraction with
  | nil => exact every
  | cons step steps ih =>
    rw [List.foldl_cons]
    apply ih fun later member => visible later (List.mem_cons_of_mem _ member)
    exact every_take establishes every (visible step List.mem_cons_self)

theorem every_ofNodes (establishes : Establishes denylist condition)
    (nodes : List Template.Node) : (ofNodes denylist nodes).record.Every condition := by
  rw [ofNodes_eq_foldl]
  apply every_foldl establishes _ (Record.every_empty condition)
  intro step member
  obtain ⟨node, -, inside⟩ := List.mem_flatMap.1 member
  exact isVisible_of_mem_steps inside

/-- No entry of an extracted record lists anything twice. -/
theorem hasNodup_ofNodes (denylist : Path.Denylist) (nodes : List Template.Node) :
    (ofNodes denylist nodes).record.Every fun _ _ entry => entry.HasNodup := by
  apply every_ofNodes
  intro path resolved constraint _ _ old before
  have nodup : old.HasNodup := by
    rcases before with rfl | nodup
    · exact Entry.hasNodup_empty
    · exact nodup
  exact (nodup.addConstraint constraint).addTag path.tag

end Extraction

end SaveManifest
