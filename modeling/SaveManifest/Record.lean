import SaveManifest.Catalog
import SaveManifest.Constraint

/-!
# Game records

What the manifest knows of one game: its Steam id and, for each path in the file system and in
the registry, where the path applies and what it holds. The two lists of an entry are sets in
order of arrival: adding a member twice, or the constraint that binds nothing, changes nothing.

`Record.merge` joins two records path by path. It is the operation that extraction from
consecutive parts of a page amounts to.
-/

namespace SaveManifest

/-- What a path holds. -/
inductive Tag where
  | save
  | config
deriving DecidableEq, Repr

def Tag.name : Tag → String
  | save => "save"
  | config => "config"

def Tag.all : List Tag := [.save, .config]

def Tag.ofName? (name : String) : Option Tag := Tag.all.find? (·.name == name)

@[simp] theorem Tag.ofName?_name (tag : Tag) : Tag.ofName? tag.name = some tag := by
  cases tag <;> decide

/-- Where a path lives. -/
inductive PathKind where
  | file
  | registry
deriving DecidableEq, Repr

def PathKind.name : PathKind → String
  | file => "file"
  | registry => "registry"

/-- A list with a member put at its end, unless it is already there. -/
def adjoin {α : Type} [DecidableEq α] (members : List α) (member : α) : List α :=
  if member ∈ members then members else members ++ [member]

theorem mem_adjoin {α : Type} [DecidableEq α] {members : List α} {member probe : α} :
    probe ∈ adjoin members member ↔ probe ∈ members ∨ probe = member := by
  unfold adjoin
  split
  · next present =>
    constructor
    · exact Or.inl
    · rintro (old | rfl)
      · exact old
      · exact present
  · simp

/-- What is known of one path. -/
structure Entry where
  constraints : List Constraint := []
  tags : List Tag := []
deriving DecidableEq, Repr

namespace Entry

/-- Whether adding the constraint changes the entry. -/
def lacks (entry : Entry) (constraint : Constraint) : Bool :=
  !constraint.isUnconstrained && !(constraint ∈ entry.constraints)

/-- The entry with a constraint added, unless it binds nothing. -/
def addConstraint (entry : Entry) (constraint : Constraint) : Entry :=
  if constraint.isUnconstrained then entry
  else { entry with constraints := adjoin entry.constraints constraint }

theorem addConstraint_eq_self_iff {entry : Entry} {constraint : Constraint} :
    entry.addConstraint constraint = entry ↔ entry.lacks constraint = false := by
  cases entry with
  | mk constraints tags =>
    unfold addConstraint lacks
    by_cases free : constraint.isUnconstrained = true
    · simp [free]
    · by_cases present : constraint ∈ constraints <;> simp [adjoin, free, present]

def addTag (entry : Entry) (tag : Tag) : Entry := { entry with tags := adjoin entry.tags tag }

/-- The members of both entries, those of the left one first. -/
def merge (left right : Entry) : Entry where
  constraints := right.constraints.foldl adjoin left.constraints
  tags := right.tags.foldl adjoin left.tags

end Entry

structure Record where
  steam : Option UInt32 := none
  files : Catalog Entry := {}
  registry : Catalog Entry := {}
deriving DecidableEq, Repr

namespace Record

def paths (record : Record) : PathKind → Catalog Entry
  | .file => record.files
  | .registry => record.registry

def withPaths (record : Record) (paths : Catalog Entry) : PathKind → Record
  | .file => { record with files := paths }
  | .registry => { record with registry := paths }

/-- The record with the entry of a path changed; a path without an entry starts from an empty
one. -/
def update (record : Record) (kind : PathKind) (path : String) (change : Entry → Entry) : Record :=
  let paths := record.paths kind
  record.withPaths (paths.insert path (change ((paths.get? path).getD {}))) kind

theorem paths_withPaths (record : Record) (paths : Catalog Entry) (kind other : PathKind) :
    (record.withPaths paths kind).paths other =
      if other = kind then paths else record.paths other := by
  cases kind <;> cases other <;> rfl

/-- A change of one entry is seen under its path alone. -/
theorem get?_update (record : Record) (kind other : PathKind) (path probe : String)
    (change : Entry → Entry) :
    ((record.update kind path change).paths other).get? probe =
      if other = kind ∧ probe = path then some (change (((record.paths kind).get? path).getD {}))
      else (record.paths other).get? probe := by
  rw [update, paths_withPaths]
  by_cases same : other = kind
  · subst same
    simp only [if_true, true_and, Catalog.get?_insert]
  · rw [if_neg same, if_neg fun both => same both.1]

/-- No path at all; a Steam id alone does not count. -/
def isEmpty (record : Record) : Bool := record.files.isEmpty && record.registry.isEmpty

/-- The entries of both catalogs, merged where a path has one in each. -/
def mergePaths (left right : Catalog Entry) : Catalog Entry :=
  right.entries.foldl
    (fun paths entry => paths.insert entry.1 (((paths.get? entry.1).getD {}).merge entry.2)) left

/-- Both records in one: the right Steam id wins, entries of one path are merged. -/
def merge (left right : Record) : Record where
  steam := right.steam.or left.steam
  files := mergePaths left.files right.files
  registry := mergePaths left.registry right.registry

end Record

end SaveManifest
