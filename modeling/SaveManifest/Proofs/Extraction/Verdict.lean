import SaveManifest.Extraction
import SaveManifest.Proofs.Path.Confluence

/-!
# Verdicts on single paths

What an accepted path went through (`judge_eq_accepted`), what the system column and the markers of
a path can say about where it applies (`fits_systemConstraint`), and why a path is refused.
-/

namespace SaveManifest

/-- Where a path of a kind can apply. The Microsoft store exists on Windows alone; GOG and Epic are
named by the system column, which then names no operating system. In the registry, only the
store says anything. -/
def Constraint.Fits (constraint : Constraint) : PathKind → Prop
  | .file =>
    (constraint.store = some .microsoft → constraint.os = some .windows) ∧
      (constraint.store = some .gog ∨ constraint.store = some .epic → constraint.os = none)
  | .registry => constraint.store.isSome = true ∧ constraint.os = none

namespace Path

/-- The markers of a path speak of Steam and Uplay alone. -/
theorem markerStore?_eq_some {raw : String} {store : Store}
    (found : markerStore? raw = some store) : store = .steam ∨ store = .uplay := by
  obtain ⟨placeholder, used, applies⟩ := List.exists_of_findSome?_eq_some found
  have known : placeholder ∈ Placeholder.known := (List.mem_filter.1 used).1
  have stores : ∀ placeholder ∈ Placeholder.known,
      placeholder.applies.store = none ∨ placeholder.applies.store = some .steam ∨
        placeholder.applies.store = some .uplay := by
    decide +kernel
  rcases stores placeholder known with none | steam | uplay
  · rw [none] at applies
    cases applies
  · rw [steam, Option.some.injEq] at applies
    exact Or.inl applies.symm
  · rw [uplay, Option.some.injEq] at applies
    exact Or.inr applies.symm

/-- The system column always binds a path to something that a file can be bound to. -/
theorem fits_systemConstraint {system raw : String} {constraint : Constraint}
    (inferred : systemConstraint system raw = .ok constraint) :
    constraint.isUnconstrained = false ∧ constraint.Fits .file := by
  unfold systemConstraint at inferred
  split at inferred
  · cases inferred
    exact ⟨rfl, fun _ => rfl, by rintro (gog | epic) <;> contradiction⟩
  · next store notMicrosoft _ =>
    cases inferred
    refine ⟨rfl, ?_, fun _ => rfl⟩
    intro microsoft
    exact absurd (Option.some.inj microsoft) notMicrosoft
  · cases named : systemOs system with
    | error error =>
      rw [named] at inferred
      cases inferred
    | ok os =>
      rw [named] at inferred
      cases inferred
      refine ⟨rfl, ?_, ?_⟩
      · intro microsoft
        rcases markerStore?_eq_some microsoft with steam | uplay <;> contradiction
      · rintro (gog | epic)
        · rcases markerStore?_eq_some gog with steam | uplay <;> contradiction
        · rcases markerStore?_eq_some epic with steam | uplay <;> contradiction

/-- A path with paired braces is not refused for its braces. -/
theorem group_of_resolve {raw : String} (balanced : isBalanced raw.toList = true)
    {error : PathError} (refused : resolve raw = .error error) :
    error.group = .unsupportedPath := by
  rw [resolve, resolveWith_of_separated separated_known, if_pos balanced] at refused
  split at refused
  · cases refused
    rfl
  · cases refused

theorem group_of_systemOs {system : String} {error : PathError}
    (refused : systemOs system = .error error) : error.group = .unsupportedOs := by
  unfold systemOs at refused
  simp only at refused
  split at refused
  · cases refused
  · split at refused
    · cases refused
    · split at refused
      · cases refused
      · split at refused
        · cases refused
        · cases refused
          rfl

/-- The system column is refused only for naming no system. -/
theorem group_of_systemConstraint {system raw : String} {error : PathError}
    (refused : systemConstraint system raw = .error error) : error.group = .unsupportedOs := by
  unfold systemConstraint at refused
  split at refused
  · cases refused
  · cases refused
  · cases named : systemOs system with
    | ok os =>
      rw [named] at refused
      cases refused
    | error reason =>
      rw [named] at refused
      cases refused
      exact group_of_systemOs named

end Path

namespace Extraction

open SaveManifest.Path

/-- An accepted path was resolved, is not too broad and applies where the system column and its
markers say, in the registry without the operating system. -/
theorem judge_eq_accepted {denylist : Denylist} {system raw : String} {resolved : Resolved}
    {constraint : Constraint}
    (accepted : judge denylist system raw = .accepted resolved constraint) :
    resolve raw = .ok resolved ∧ isTooBroad resolved.path denylist = false ∧
      ∃ inferred, systemConstraint system raw = .ok inferred ∧
        constraint = match resolved.kind with
          | .file => inferred
          | .registry => { inferred with os := none } := by
  unfold judge at accepted
  cases outcome : resolve raw with
  | error error =>
    rw [outcome] at accepted
    cases accepted
  | ok found =>
    simp only [outcome] at accepted
    split at accepted
    · cases accepted
    · next narrow =>
      cases inferred : systemConstraint system raw with
      | error error =>
        simp only [inferred] at accepted
        cases accepted
      | ok constraint =>
        simp only [inferred] at accepted
        split at accepted
        · next kind =>
          cases accepted
          exact ⟨rfl, Bool.eq_false_iff.2 narrow, constraint, rfl, by rw [kind]⟩
        · next kind =>
          cases accepted
          exact ⟨rfl, Bool.eq_false_iff.2 narrow, constraint, rfl, by rw [kind]⟩

end Extraction

end SaveManifest
