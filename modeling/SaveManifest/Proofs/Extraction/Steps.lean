import SaveManifest.Extraction

/-!
# Extraction step by step

The nodes of a page as one list of steps: a Steam id to take over, or a path to judge. Extraction
is the fold over these steps (`ofNodes_eq_foldl`), so what one step does and what it preserves
carries over to all of a page by one induction on the list.
-/

namespace SaveManifest.Extraction

open SaveManifest.Path SaveManifest.Template SaveManifest.Text

/-- A path parameter of a data node, with the tag of the node and its system column. -/
structure DataPath where
  tag : Tag
  system : String
  raw : String
deriving DecidableEq, Repr

def DataPath.verdict (denylist : Denylist) (path : DataPath) : Verdict :=
  judge denylist path.system (trimmed path.raw)

/-- The path parameters of a node: for a data node, what follows its system column and is not
blank. -/
def dataPaths (node : Node) : List DataPath :=
  match dataTag? node, node.positional with
  | some tag, system :: values =>
    (values.filter fun value => !isBlankText value).map fun value => ⟨tag, system, value⟩
  | _, _ => []

def pathsOf (nodes : List Node) : List DataPath := nodes.flatMap dataPaths

/-- One thing that a node asks of the extraction. -/
inductive Step where
  | steam (id : UInt32)
  | data (path : DataPath)
deriving DecidableEq, Repr

def Step.path? : Step → Option DataPath
  | .steam _ => none
  | .data path => some path

/-- The extraction after one more step. -/
def take (denylist : Denylist) (extraction : Extraction) : Step → Extraction
  | .steam id => { extraction with record := { extraction.record with steam := some id } }
  | .data path => extraction.settle path.tag (path.verdict denylist)

def steps (node : Node) : List Step :=
  if node.isNamed infobox then (steamId? node).toList.map .steam
  else (dataPaths node).map .data

/-- A node has one name, whatever its case. -/
theorem lowered_of_isNamed {node : Node} {first second : String}
    (one : node.isNamed first = true) (other : node.isNamed second = true) :
    lowered (normalizeName first.toList) = lowered (normalizeName second.toList) := by
  unfold Node.isNamed at one other
  rw [sameIgnoringCase_iff, toList_onString] at one other
  exact one.symm.trans other

/-- An infobox is no data node. -/
theorem dataTag?_of_isNamed_infobox {node : Node} (named : node.isNamed infobox = true) :
    dataTag? node = none := by
  have notSaves : node.isNamed "Game data/saves" ≠ true := by
    intro saves
    exact absurd (lowered_of_isNamed named saves) (by decide +kernel)
  have notConfig : node.isNamed "Game data/config" ≠ true := by
    intro config
    exact absurd (lowered_of_isNamed named config) (by decide +kernel)
  rw [dataTag?, if_neg notSaves, if_neg notConfig]

theorem not_isNamed_infobox {node : Node} (data : (dataTag? node).isSome = true) :
    ¬ node.isNamed infobox = true := by
  intro named
  rw [dataTag?_of_isNamed_infobox named] at data
  cases data

theorem isEmpty_trimmed (text : String) : (trimmed text).isEmpty = isBlankText text := by
  rw [Bool.eq_iff_iff, String.isEmpty_iff, isBlankText, List.all_eq_true, ← trim_eq_nil_iff,
    ← toList_onString trim text]
  constructor
  · intro nothing
    rw [trimmed] at nothing
    rw [nothing]
    rfl
  · intro nothing
    rw [trimmed, ← String.toList_inj, nothing]
    rfl

/-- A node adds what its steps add, one after the other. -/
theorem addNode_eq_foldl (denylist : Denylist) (extraction : Extraction) (node : Node) :
    addNode denylist extraction node = (steps node).foldl (take denylist) extraction := by
  unfold addNode steps
  by_cases named : node.isNamed infobox = true
  · rw [if_pos named, if_pos named]
    cases steamId? node with
    | none => rfl
    | some id => rfl
  · rw [if_neg named, if_neg named]
    unfold dataPaths systemAndPaths
    cases dataTag? node with
    | none => rfl
    | some tag =>
      cases node.positional with
      | nil => rfl
      | cons system values =>
        have kept : (values.map trimmed).filter (fun path => !path.isEmpty) =
            (values.filter fun value => !isBlankText value).map trimmed := by
          simp only [List.filter_map, Function.comp_def, isEmpty_trimmed]
        simp only [kept, List.foldl_map]
        rfl

/-- Extraction takes the steps of all nodes, one after the other. -/
theorem ofNodes_eq_foldl (denylist : Denylist) (nodes : List Node) :
    ofNodes denylist nodes = (nodes.flatMap steps).foldl (take denylist) {} := by
  unfold ofNodes
  generalize ({} : Extraction) = start
  induction nodes generalizing start with
  | nil => rfl
  | cons node nodes ih =>
    rw [List.foldl_cons, List.flatMap_cons, List.foldl_append, ← addNode_eq_foldl]
    exact ih _

/-- The steps of a node judge its path parameters and no others. -/
theorem filterMap_steps (node : Node) : (steps node).filterMap Step.path? = dataPaths node := by
  unfold steps
  by_cases named : node.isNamed infobox = true
  · rw [if_pos named, dataPaths, dataTag?_of_isNamed_infobox named]
    cases steamId? node with
    | none => rfl
    | some id => rfl
  · rw [if_neg named, List.filterMap_map]
    exact List.filterMap_some

theorem filterMap_flatMap_steps (nodes : List Node) :
    (nodes.flatMap steps).filterMap Step.path? = pathsOf nodes := by
  rw [List.filterMap_flatMap, pathsOf]
  simp only [filterMap_steps]

end SaveManifest.Extraction
