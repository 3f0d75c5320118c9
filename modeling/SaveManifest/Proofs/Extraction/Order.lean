import SaveManifest.Proofs.Extraction.Accounting
import SaveManifest.Proofs.Record

/-!
# Extraction in another order

Nodes in another order are steps in another order. The entry of a path is made of what the steps
add to it and of nothing else (`get?_ofNodes`): a path has an entry where a step adds to it, and the
entry lists what is added, each once. So with the steps in another order an entry lists the same in
another order, and the paths and the tallies are the same (`ofNodes_perm`). The Steam id is the last
one that a node carries.
-/

namespace SaveManifest

open SaveManifest.Path SaveManifest.Template

/-- The entry that constraints and tags make when they are added in order; where nothing is added
there is none. -/
def Entry.ofAdditions? (additions : List (Constraint × Tag)) : Option Entry :=
  if additions.isEmpty then none
  else some {
    constraints :=
      ((additions.map (·.1)).filter fun constraint => !constraint.isUnconstrained).foldl adjoin []
    tags := (additions.map (·.2)).foldl adjoin [] }

theorem Entry.ofAdditions?_concat (additions : List (Constraint × Tag)) (constraint : Constraint)
    (tag : Tag) :
    ofAdditions? (additions ++ [(constraint, tag)]) =
      some ((((ofAdditions? additions).getD {}).addConstraint constraint).addTag tag) := by
  have before : (ofAdditions? additions).getD {} = {
      constraints := ((additions.map (·.1)).filter
        fun constraint => !constraint.isUnconstrained).foldl adjoin []
      tags := (additions.map (·.2)).foldl adjoin [] } := by
    cases additions with
    | nil => rfl
    | cons addition additions => rfl
  rw [before, ofAdditions?, if_neg (by simp)]
  unfold addConstraint addTag
  rw [List.map_append, List.filter_append, List.foldl_append, List.map_append, List.foldl_append]
  cases free : constraint.isUnconstrained with
  | true => simp [free]
  | false => simp [free]

theorem Entry.isSome_ofAdditions? (additions : List (Constraint × Tag)) :
    (ofAdditions? additions).isSome = !additions.isEmpty := by
  unfold ofAdditions?
  cases additions.isEmpty <;> rfl

/-- Additions in another order make an entry that lists the same in another order. -/
theorem Entry.perm_ofAdditions? {first second : List (Constraint × Tag)}
    (reordered : first.Perm second) {entry twin : Entry} (made : ofAdditions? first = some entry)
    (madeToo : ofAdditions? second = some twin) :
    entry.constraints.Perm twin.constraints ∧ entry.tags.Perm twin.tags := by
  unfold ofAdditions? at made madeToo
  split at made
  · cases made
  · split at madeToo
    · cases madeToo
    · cases made
      cases madeToo
      exact ⟨perm_foldl_adjoin ((reordered.map _).filter _), perm_foldl_adjoin (reordered.map _)⟩

namespace Extraction

variable (denylist : Denylist)

/-- What a step adds to the entry of a path. -/
def addition? (kind : PathKind) (path : String) : Step → Option (Constraint × Tag)
  | .steam _ => none
  | .data data =>
    match data.verdict denylist with
    | .accepted resolved constraint =>
      if kind = resolved.kind ∧ path = resolved.path then some (constraint, data.tag) else none
    | .tooBroad => none
    | .refused _ => none

/-- What the steps add to the entry of a path, in order. -/
def additions (kind : PathKind) (path : String) (steps : List Step) : List (Constraint × Tag) :=
  steps.filterMap (addition? denylist kind path)

/-- A step adds to each entry what it adds, and nothing else. -/
theorem get?_take {extraction : Extraction} {kind : PathKind} {path : String}
    {added : List (Constraint × Tag)}
    (before : (extraction.record.paths kind).get? path = Entry.ofAdditions? added) (step : Step) :
    ((take denylist extraction step).record.paths kind).get? path =
      Entry.ofAdditions? (added ++ (addition? denylist kind path step).toList) := by
  cases step with
  | steam id =>
    rw [addition?, Option.toList_none, List.append_nil, ← before]
    cases kind <;> rfl
  | data data =>
    rw [take, addition?]
    cases data.verdict denylist with
    | tooBroad =>
      rw [Option.toList_none, List.append_nil, ← before]
      rfl
    | refused error =>
      rw [Option.toList_none, List.append_nil, ← before]
      rfl
    | accepted resolved constraint =>
      dsimp only
      rw [settle, Record.get?_update]
      by_cases here : kind = resolved.kind ∧ path = resolved.path
      · obtain ⟨rfl, rfl⟩ := here
        rw [if_pos ⟨rfl, rfl⟩, if_pos ⟨rfl, rfl⟩, Option.toList_some, Entry.ofAdditions?_concat,
          before]
      · rw [if_neg here, if_neg here, Option.toList_none, List.append_nil, before]

theorem get?_foldl {extraction : Extraction} {kind : PathKind} {path : String}
    {added : List (Constraint × Tag)}
    (before : (extraction.record.paths kind).get? path = Entry.ofAdditions? added)
    (steps : List Step) :
    ((steps.foldl (take denylist) extraction).record.paths kind).get? path =
      Entry.ofAdditions? (added ++ additions denylist kind path steps) := by
  induction steps generalizing extraction added with
  | nil => rw [additions, List.filterMap_nil, List.append_nil, ← before, List.foldl_nil]
  | cons step steps ih =>
    rw [List.foldl_cons, ih (get?_take denylist before step), List.append_assoc]
    congr 2
    rw [additions, additions, List.filterMap_cons]
    cases addition? denylist kind path step with
    | none => rfl
    | some addition => rfl

/-- The entry of a path lists what the steps of the nodes add to it. -/
theorem get?_ofNodes (nodes : List Node) (kind : PathKind) (path : String) :
    ((ofNodes denylist nodes).record.paths kind).get? path =
      Entry.ofAdditions? (additions denylist kind path (nodes.flatMap steps)) := by
  have empty : (({} : Extraction).record.paths kind).get? path = Entry.ofAdditions? [] := by
    cases kind <;> rfl
  rw [ofNodes_eq_foldl, get?_foldl denylist empty, List.nil_append]

/-! ### The Steam id -/

def Step.steam? : Step → Option UInt32
  | .steam id => some id
  | .data _ => none

theorem steam_take (extraction : Extraction) (step : Step) :
    (take denylist extraction step).record.steam = step.steam?.or extraction.record.steam := by
  cases step with
  | steam id => rfl
  | data data =>
    rw [take]
    cases data.verdict denylist with
    | tooBroad => rfl
    | refused error => rfl
    | accepted resolved constraint => exact Record.steam_update _ _ _ _

theorem steam_foldl_eq (steps : List Step) (extraction : Extraction) :
    (steps.foldl (take denylist) extraction).record.steam =
      (steps.filterMap Step.steam?).getLast?.or extraction.record.steam := by
  induction steps generalizing extraction with
  | nil => rfl
  | cons step steps ih =>
    rw [List.foldl_cons, ih, steam_take, List.filterMap_cons]
    cases step.steam? with
    | none => rfl
    | some id =>
      rw [List.getLast?_cons, Option.some_or]
      cases (steps.filterMap Step.steam?).getLast? with
      | none => rfl
      | some last => rfl

/-- The last Steam id counts. -/
theorem steam_ofNodes (nodes : List Node) :
    (ofNodes denylist nodes).record.steam =
      ((nodes.flatMap steps).filterMap Step.steam?).getLast? := by
  rw [ofNodes_eq_foldl, steam_foldl_eq]
  exact Option.or_none

/-- A Steam id is one that an infobox carries. -/
theorem mem_steamIds {nodes : List Node} {id : UInt32} :
    id ∈ (nodes.flatMap steps).filterMap Step.steam? ↔
      ∃ node ∈ nodes, node.isNamed infobox = true ∧ steamId? node = some id := by
  rw [List.filterMap_flatMap, List.mem_flatMap]
  have single : ∀ node : Node, id ∈ (steps node).filterMap Step.steam? ↔
      node.isNamed infobox = true ∧ steamId? node = some id := by
    intro node
    unfold steps
    by_cases named : node.isNamed infobox = true
    · rw [if_pos named]
      cases steamId? node with
      | none => simp
      | some other => simp [Step.steam?, named, eq_comm]
    · rw [if_neg named]
      simp [Step.steam?, named]
  simp only [single]

/-! ### Another order -/

theorem getLast?_perm {α : Type} {first second : List α} (reordered : first.Perm second)
    (alike : ∀ one ∈ first, ∀ other ∈ first, one = other) :
    first.getLast? = second.getLast? := by
  cases last : first.getLast? with
  | none =>
    rw [List.getLast?_eq_none_iff] at last
    subst last
    rw [← reordered.nil_eq, List.getLast?_nil]
  | some one =>
    cases lastToo : second.getLast? with
    | none =>
      rw [List.getLast?_eq_none_iff] at lastToo
      subst lastToo
      rw [reordered.eq_nil] at last
      cases last
    | some other =>
      have inside := reordered.mem_iff.2 (List.mem_of_getLast? lastToo)
      rw [alike one (List.mem_of_getLast? last) other inside]

/-- Nodes in another order amount to the same but for the order in which entries list their
constraints and tags, and for the Steam id where the nodes carry several. -/
theorem ofNodes_perm {nodes others : List Node} (reordered : nodes.Perm others) :
    let one := ofNodes denylist nodes
    let other := ofNodes denylist others
    one.tallies = other.tallies ∧
      (∀ kind, (one.record.paths kind).keys = (other.record.paths kind).keys) ∧
      (∀ kind path entry twin, (one.record.paths kind).get? path = some entry →
        (other.record.paths kind).get? path = some twin →
          entry.constraints.Perm twin.constraints ∧ entry.tags.Perm twin.tags) ∧
      ((∀ first ∈ nodes, ∀ second ∈ nodes,
        first.isNamed infobox = true → second.isNamed infobox = true →
          ∀ id again, steamId? first = some id → steamId? second = some again → id = again) →
        one.record.steam = other.record.steam) := by
  intro one other
  have added : ∀ kind path, (additions denylist kind path (nodes.flatMap steps)).Perm
      (additions denylist kind path (others.flatMap steps)) :=
    fun kind path => (reordered.flatMap_right steps).filterMap _
  refine ⟨?_, ?_, ?_, ?_⟩
  · have paths : (pathsOf nodes).Perm (pathsOf others) := reordered.flatMap_right dataPaths
    rw [tallies_ofNodes, tallies_ofNodes]
    unfold talliesOf booked
    rw [paths.countP_eq, paths.countP_eq, paths.countP_eq]
  · intro kind
    apply Catalog.eq_of_ascending (Catalog.ascending_keys _) (Catalog.ascending_keys _)
    intro path
    rw [Catalog.mem_keys, Catalog.mem_keys, Catalog.contains, Catalog.contains, get?_ofNodes,
      get?_ofNodes, Entry.isSome_ofAdditions?, Entry.isSome_ofAdditions?,
      (added kind path).isEmpty_eq]
  · intro kind path entry twin found foundToo
    rw [get?_ofNodes] at found foundToo
    exact Entry.perm_ofAdditions? (added kind path) found foundToo
  · intro alike
    rw [steam_ofNodes, steam_ofNodes]
    apply getLast?_perm ((reordered.flatMap_right steps).filterMap _)
    intro id member again memberToo
    obtain ⟨first, inside, named, carries⟩ := mem_steamIds.1 member
    obtain ⟨second, insideToo, namedToo, carriesToo⟩ := mem_steamIds.1 memberToo
    exact alike first inside second insideToo named namedToo id again carries carriesToo

/-- A page turned around, with two spellings of one path and two infoboxes with the same id: the
constraints of the path are listed the other way round. -/
theorem ofNodes_perm_reversed :
    let nodes : List Node := [
      { name := "Game data/saves", positional := ["Windows", "{{P|game}}\\Save"] },
      { name := "Infobox game", named := Catalog.ofList [("steam appid", "10, 20")] },
      { name := "Game data/config", positional := ["Steam", "{{Path|GAME}}//Save/"] },
      { name := "INFOBOX GAME", named := Catalog.ofList [("steam appid", "10")] }]
    let denylist : Denylist := ⟨["<home>/Documents"]⟩
    let one := ofNodes denylist nodes
    let other := ofNodes denylist nodes.reverse
    nodes.Perm nodes.reverse ∧ one.tallies = other.tallies ∧
      one.record.steam = other.record.steam ∧ one.record.steam = some 10 ∧
      ∃ entry twin, one.record.files.get? "<base>/Save" = some entry ∧
        other.record.files.get? "<base>/Save" = some twin ∧
        entry.constraints ≠ twin.constraints ∧ entry.constraints.Perm twin.constraints ∧
        entry.tags.Perm twin.tags := by
  intro nodes denylist one other
  have reordered : nodes.Perm nodes.reverse := (List.reverse_perm nodes).symm
  obtain ⟨tallies, -, entries, steam⟩ := ofNodes_perm denylist reordered
  have carried : ∀ node ∈ nodes, node.isNamed infobox = true → steamId? node = some 10 := by
    decide +kernel
  have alike : one.record.steam = other.record.steam := by
    apply steam
    intro first inside second insideToo named namedToo id again found foundToo
    rw [carried first inside named, Option.some.injEq] at found
    rw [carried second insideToo namedToo, Option.some.injEq] at foundToo
    exact found.symm.trans foundToo
  have found : (one.record.paths .file).get? "<base>/Save" = some {
      constraints := [{ os := some .windows }, { store := some .steam }]
      tags := [.save, .config] } := by decide +kernel
  have foundToo : (other.record.paths .file).get? "<base>/Save" = some {
      constraints := [{ store := some .steam }, { os := some .windows }]
      tags := [.config, .save] } := by decide +kernel
  obtain ⟨constraints, tags⟩ := entries _ _ _ _ found foundToo
  have last : one.record.steam = some 10 :=
    (steam_ofNodes denylist nodes).trans (by decide +kernel)
  exact ⟨reordered, tallies, alike, last, _, _, found, foundToo, by decide, constraints, tags⟩

end Extraction

end SaveManifest
