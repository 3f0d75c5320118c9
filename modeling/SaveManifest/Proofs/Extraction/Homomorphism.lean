import SaveManifest.Proofs.Extraction.Entries

/-!
# Extraction of consecutive nodes

What two lists of nodes amount to one after the other is the merge of what each amounts to. One
step shows why: a path that adds to its entry in the second extraction adds the same to the merged
one, whatever the first extraction holds of that path (`merge_take`). The order in which
constraints and tags are listed is part of the statement.
-/

namespace SaveManifest.Extraction

open SaveManifest.Template

variable (denylist : Path.Denylist)

/-- A step after a merge is a step of the right part. -/
theorem merge_take (left right : Extraction) (step : Step) :
    left.merge (take denylist right step) = take denylist (left.merge right) step := by
  cases step with
  | steam id => rfl
  | data path =>
    rw [take, take]
    cases path.verdict denylist with
    | tooBroad => rfl
    | refused error =>
      simp only [settle, merge, Tallies.merge]
      cases error.group <;> rfl
    | accepted resolved constraint =>
      have onward : ∀ old new : Entry,
          old.merge ((new.addConstraint constraint).addTag path.tag) =
            ((old.merge new).addConstraint constraint).addTag path.tag := by
        intro old new
        rw [Entry.merge_addTag, Entry.merge_addConstraint]
      simp only [settle, merge, Record.merge_update _ _ _ _ onward]

theorem merge_foldl (left right : Extraction) (steps : List Step) :
    left.merge (steps.foldl (take denylist) right) =
      steps.foldl (take denylist) (left.merge right) := by
  induction steps generalizing right with
  | nil => rfl
  | cons step steps ih => rw [List.foldl_cons, List.foldl_cons, ih, merge_take]

theorem merge_empty (extraction : Extraction) : extraction.merge {} = extraction := by
  simp only [merge, Record.merge_empty, Tallies.merge, Nat.add_zero]

theorem ofNodes_append_eq_merge (front back : List Node) :
    ofNodes denylist (front ++ back) = (ofNodes denylist front).merge (ofNodes denylist back) := by
  rw [ofNodes_eq_foldl denylist back, merge_foldl, merge_empty, ofNodes_eq_foldl,
    List.flatMap_append, List.foldl_append, ← ofNodes_eq_foldl]

/-- One use of a template for each path: the name and the system column stay, what is given by name
may be anything. -/
def onePathNodes (name system : String) (named : String → Catalog String)
    (paths : List String) : List Node :=
  paths.map fun path => { name, positional := [system, path], named := named path }

/-- The steps of a data node are those of its paths, each in a node of its own. -/
theorem steps_eq_flatMap {node : Node} {system : String} {paths : List String}
    (positional : node.positional = system :: paths) (data : (dataTag? node).isSome = true)
    (named : String → Catalog String) :
    steps node = (onePathNodes node.name system named paths).flatMap steps := by
  -- Whether a node is an infobox and which tag it has depends on its name alone.
  have single : ∀ path : String,
      steps { name := node.name, positional := [system, path], named := named path } =
        (dataPaths { node with positional := [system, path] }).map .data := by
    intro path
    exact if_neg (not_isNamed_infobox data)
  have whole : steps node = (dataPaths node).map .data := if_neg (not_isNamed_infobox data)
  rw [whole, onePathNodes, List.flatMap_map]
  simp only [single]
  obtain ⟨tag, tagged⟩ := Option.isSome_iff_exists.1 data
  have also : ∀ values, dataTag? { node with positional := values } = some tag := fun _ => tagged
  simp only [dataPaths, tagged, positional, also]
  clear positional
  induction paths with
  | nil => rfl
  | cons path paths ih =>
    rw [List.flatMap_cons, ← ih, List.filter_cons, List.filter_cons, List.filter_nil]
    split
    · rfl
    · rfl

/-- Extraction from nodes one after the other is the merge of the two extractions: tallies add up,
the later Steam id wins, the paths are those of both, and an entry lists what the first extraction
lists for its path and then what is new in the second. A data node with several paths counts as
several data nodes with one path each. -/
theorem ofNodes_append (front back : List Node) :
    let left := ofNodes denylist front
    let right := ofNodes denylist back
    let whole := ofNodes denylist (front ++ back)
    whole = left.merge right ∧
      whole.tallies = {
        unsupportedOs := left.tallies.unsupportedOs + right.tallies.unsupportedOs
        unsupportedPath := left.tallies.unsupportedPath + right.tallies.unsupportedPath
        tooBroad := left.tallies.tooBroad + right.tallies.tooBroad } ∧
      whole.record.steam = right.record.steam.or left.record.steam ∧
      (∀ kind path, (whole.record.paths kind).contains path =
        ((left.record.paths kind).contains path || (right.record.paths kind).contains path)) ∧
      (∀ kind path, (whole.record.paths kind).get? path =
        Entry.join ((left.record.paths kind).get? path) ((right.record.paths kind).get? path)) ∧
      ∀ (node : Node) (system : String) (paths : List String) (named : String → Catalog String),
        node.positional = system :: paths → (dataTag? node).isSome = true →
        ofNodes denylist (front ++ node :: back) =
          ofNodes denylist (front ++ onePathNodes node.name system named paths ++ back) := by
  intro left right whole
  have merged : whole = left.merge right := ofNodes_append_eq_merge denylist front back
  have entries : ∀ kind path, (whole.record.paths kind).get? path =
      Entry.join ((left.record.paths kind).get? path) ((right.record.paths kind).get? path) := by
    intro kind path
    rw [merged]
    apply Record.get?_merge
    exact hasNodup_ofNodes denylist back kind path
  refine ⟨merged, ?_, ?_, ?_, entries, ?_⟩
  · rw [merged]
    rfl
  · rw [merged]
    rfl
  · intro kind path
    rw [Catalog.contains, Catalog.contains, Catalog.contains, entries]
    cases (left.record.paths kind).get? path <;> cases (right.record.paths kind).get? path <;> rfl
  · intro node system paths named positional data
    rw [ofNodes_eq_foldl, ofNodes_eq_foldl, List.append_assoc, List.flatMap_append,
      List.flatMap_append, List.flatMap_append, List.flatMap_cons,
      steps_eq_flatMap positional data named]

/-- A page of two data nodes, the second with two spellings of the first one's path and a blank
parameter between them. -/
theorem ofNodes_append_threePaths :
    let first : Node :=
      { name := "Game data/saves", positional := ["Steam", "{{P|appdata}}\\Game"] }
    let second : Node :=
      { name := "Game data/config", positional :=
        ["Windows", "{{P|appdata}}/Game/", " ", "{{Path|APPDATA}}//Game"] }
    second.positional = "Windows" :: ["{{P|appdata}}/Game/", " ", "{{Path|APPDATA}}//Game"] ∧
      (dataTag? second).isSome = true ∧
      ofNodes .standard ([first] ++ second :: []) =
        ofNodes .standard ([first] ++ onePathNodes second.name "Windows" (fun _ => {})
          ["{{P|appdata}}/Game/", " ", "{{Path|APPDATA}}//Game"] ++ []) := by
  intro first second
  have data : (dataTag? second).isSome = true := by decide +kernel
  obtain ⟨-, -, -, -, -, split⟩ := ofNodes_append .standard [first] []
  exact ⟨rfl, data, split second _ _ _ rfl data⟩

end SaveManifest.Extraction
