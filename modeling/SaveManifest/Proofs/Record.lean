import SaveManifest.Proofs.Catalog
import SaveManifest.Record

/-!
# Merging records

A merge adds the members of one entry to another in order of arrival, each once. Where the added
list holds no member twice, that is the old list followed by what is new in the other one
(`foldl_adjoin_of_nodup`). Merging commutes with adding one more constraint or tag to one more
path (`Record.merge_update`), and a record is determined by its Steam id and its look-ups
(`Record.ext_get?`).
-/

namespace SaveManifest

section Adjoin

variable {α : Type} [DecidableEq α]

theorem adjoin_of_mem {members : List α} {member : α} (present : member ∈ members) :
    adjoin members member = members := if_pos present

theorem adjoin_of_not_mem {members : List α} {member : α} (absent : member ∉ members) :
    adjoin members member = members ++ [member] := if_neg absent

theorem nodup_adjoin {members : List α} (nodup : members.Nodup) (member : α) :
    (adjoin members member).Nodup := by
  by_cases present : member ∈ members
  · rw [adjoin_of_mem present]
    exact nodup
  · rw [adjoin_of_not_mem present, List.nodup_append]
    refine ⟨nodup, by simp, ?_⟩
    intro old inside new last same
    rw [List.mem_singleton] at last
    exact present (last ▸ same ▸ inside)

theorem nodup_foldl_adjoin {left : List α} (nodup : left.Nodup) (right : List α) :
    (right.foldl adjoin left).Nodup := by
  induction right generalizing left with
  | nil => exact nodup
  | cons member right ih => exact ih (nodup_adjoin nodup member)

theorem adjoin_ne_nil (members : List α) (member : α) : adjoin members member ≠ [] := by
  intro nothing
  have inside : member ∈ adjoin members member := mem_adjoin.2 (Or.inr rfl)
  rw [nothing] at inside
  cases inside

theorem mem_foldl_adjoin {left right : List α} {probe : α} :
    probe ∈ right.foldl adjoin left ↔ probe ∈ left ∨ probe ∈ right := by
  induction right generalizing left with
  | nil => simp
  | cons member right ih => rw [List.foldl_cons, ih, mem_adjoin, List.mem_cons, or_assoc]

/-- Lists in two orders add the same members. -/
theorem perm_foldl_adjoin {first second : List α} (reordered : first.Perm second) :
    (first.foldl adjoin []).Perm (second.foldl adjoin []) := by
  rw [List.perm_ext_iff_of_nodup (nodup_foldl_adjoin List.nodup_nil first)
    (nodup_foldl_adjoin List.nodup_nil second)]
  intro probe
  rw [mem_foldl_adjoin, mem_foldl_adjoin, reordered.mem_iff]

/-- What is adjoined last may be adjoined to the list that is added. -/
theorem foldl_adjoin_adjoin (left right : List α) (member : α) :
    (adjoin right member).foldl adjoin left = adjoin (right.foldl adjoin left) member := by
  by_cases present : member ∈ right
  · have whole : member ∈ right.foldl adjoin left := mem_foldl_adjoin.2 (Or.inr present)
    rw [adjoin_of_mem present, adjoin_of_mem whole]
  · rw [adjoin_of_not_mem present, List.foldl_append, List.foldl_cons, List.foldl_nil]

/-- Adding a list without repetition appends those of its members that are new. -/
theorem foldl_adjoin_of_nodup (left : List α) {right : List α} (nodup : right.Nodup) :
    right.foldl adjoin left = left ++ right.filter (· ∉ left) := by
  induction right generalizing left with
  | nil => rw [List.foldl_nil, List.filter_nil, List.append_nil]
  | cons member right ih =>
    obtain ⟨fresh, others⟩ := List.nodup_cons.1 nodup
    rw [List.foldl_cons, ih _ others]
    by_cases present : member ∈ left
    · rw [adjoin_of_mem present, List.filter_cons, if_neg (by simpa using present)]
    · -- The new member is none of the later ones, so it does not count in their filter.
      have later : right.filter (· ∉ left ++ [member]) = right.filter (· ∉ left) := by
        apply List.filter_congr
        intro other inside
        have distinct : other ≠ member := fun same => fresh (same ▸ inside)
        simp [distinct]
      rw [adjoin_of_not_mem present, later, List.filter_cons, if_pos (by simpa using present),
        List.append_assoc, List.singleton_append]

/-- Adding a list appends the first occurrences of what is new in it. -/
theorem foldl_adjoin_eq_append_eraseDups (left right : List α) :
    right.foldl adjoin left = left ++ (right.filter (· ∉ left)).eraseDups := by
  induction right generalizing left with
  | nil => rw [List.foldl_nil, List.filter_nil, List.eraseDups_nil, List.append_nil]
  | cons member right ih =>
    rw [List.foldl_cons, ih]
    by_cases present : member ∈ left
    · rw [adjoin_of_mem present, List.filter_cons, if_neg (by simpa using present)]
    · have later : right.filter (· ∉ left ++ [member]) =
          (right.filter (· ∉ left)).filter (fun other => !other == member) := by
        rw [List.filter_filter]
        apply List.filter_congr
        intro other _
        by_cases same : other = member
        · simp [same]
        · simp [same]
      rw [adjoin_of_not_mem present, later, List.filter_cons, if_pos (by simpa using present),
        List.eraseDups_cons, List.append_assoc, List.singleton_append]

end Adjoin

namespace Entry

theorem merge_empty (entry : Entry) : entry.merge {} = entry := rfl

theorem merge_addConstraint (left right : Entry) (constraint : Constraint) :
    left.merge (right.addConstraint constraint) = (left.merge right).addConstraint constraint := by
  unfold addConstraint
  by_cases free : constraint.isUnconstrained = true
  · rw [if_pos free, if_pos free]
  · rw [if_neg free, if_neg free]
    simp only [merge, foldl_adjoin_adjoin]

theorem merge_addTag (left right : Entry) (tag : Tag) :
    left.merge (right.addTag tag) = (left.merge right).addTag tag := by
  simp only [addTag, merge, foldl_adjoin_adjoin]

structure HasNodup (entry : Entry) : Prop where
  constraints : entry.constraints.Nodup
  tags : entry.tags.Nodup

/-- What two records know of one path together: the members of the left one, and those of the right
one that are new. -/
def join : Option Entry → Option Entry → Option Entry
  | left, none => left
  | none, some right => some right
  | some left, some right => some {
      constraints := left.constraints ++ right.constraints.filter (· ∉ left.constraints)
      tags := left.tags ++ right.tags.filter (· ∉ left.tags) }

theorem merge_of_hasNodup (left : Entry) {right : Entry} (nodup : right.HasNodup) :
    left.merge right = {
      constraints := left.constraints ++ right.constraints.filter (· ∉ left.constraints)
      tags := left.tags ++ right.tags.filter (· ∉ left.tags) } := by
  rw [merge, foldl_adjoin_of_nodup _ nodup.constraints, foldl_adjoin_of_nodup _ nodup.tags]

theorem empty_merge {entry : Entry} (nodup : entry.HasNodup) :
    ({} : Entry).merge entry = entry := by
  have all {α : Type} [DecidableEq α] (members : List α) :
      members.filter (· ∉ ([] : List α)) = members :=
    List.filter_eq_self.2 fun member _ => by simp
  rw [merge_of_hasNodup _ nodup, all, all, List.nil_append, List.nil_append]

end Entry

namespace Record

/-- Records with one Steam id that answer every look-up alike are equal. -/
theorem ext_get? {left right : Record} (steam : left.steam = right.steam)
    (paths : ∀ kind path, (left.paths kind).get? path = (right.paths kind).get? path) :
    left = right := by
  have files : left.files = right.files := Catalog.ext_get? (paths .file)
  have registry : left.registry = right.registry := Catalog.ext_get? (paths .registry)
  cases left
  cases right
  simp only at steam files registry
  rw [steam, files, registry]

theorem steam_update (record : Record) (kind : PathKind) (path : String)
    (change : Entry → Entry) : (record.update kind path change).steam = record.steam := by
  cases kind <;> rfl

/-- A merged catalog has the entry of a path that the right catalog has merged into the left
one. -/
theorem get?_mergePaths (left right : Catalog Entry) (path : String) :
    (mergePaths left right).get? path =
      match right.get? path with
      | some entry => some (((left.get? path).getD {}).merge entry)
      | none => left.get? path := by
  obtain ⟨entries, ascending⟩ := right
  unfold mergePaths
  change _ = match Catalog.find? path entries with
    | some entry => some (((left.get? path).getD {}).merge entry)
    | none => left.get? path
  induction entries generalizing left with
  | nil => rfl
  | cons first entries ih =>
    obtain ⟨key, entry⟩ := first
    have above := List.pairwise_cons.1 ascending
    rw [List.foldl_cons, ih _ above.2, Catalog.find?, Catalog.get?_insert]
    by_cases same : path = key
    · subst same
      -- The key is the least one, so no later entry changes what is put under it.
      have later : Catalog.find? path entries = none := by
        cases found : Catalog.find? path entries with
        | none => rfl
        | some other =>
          have member := (Catalog.find?_eq_some_iff above.2).1 found
          exact absurd (above.1 _ member) (String.lt_irrefl path)
      rw [later, if_pos rfl, if_pos rfl]
    · rw [if_neg same, if_neg same]

theorem paths_merge (left right : Record) (kind : PathKind) :
    (left.merge right).paths kind = mergePaths (left.paths kind) (right.paths kind) := by
  cases kind <;> rfl

theorem merge_empty (record : Record) : record.merge {} = record := by
  apply ext_get?
  · rfl
  · intro kind path
    rw [paths_merge, get?_mergePaths]
    cases kind <;> rfl

/-- A change that a merge of entries passes on to the right entry is passed on to the right
record by a merge of records. -/
theorem merge_update (left right : Record) (kind : PathKind) (path : String)
    {change : Entry → Entry} (onward : ∀ old new, Entry.merge old (change new) =
      change (Entry.merge old new)) :
    left.merge (right.update kind path change) = (left.merge right).update kind path change := by
  apply ext_get?
  · rw [steam_update, merge, merge, steam_update]
  · intro other probe
    rw [paths_merge, get?_mergePaths, get?_update, get?_update, paths_merge, get?_mergePaths,
      paths_merge, get?_mergePaths]
    by_cases same : other = kind ∧ probe = path
    · obtain ⟨rfl, rfl⟩ := same
      simp only [and_self, if_true, onward]
      cases (right.paths other).get? probe with
      | none => simp only [Option.getD_none, Entry.merge_empty]
      | some entry => simp only [Option.getD_some]
    · simp only [if_neg same]

/-- What a merged record knows of a path, if the right record lists nothing twice. -/
theorem get?_merge (left right : Record) (kind : PathKind) (path : String)
    (nodup : ∀ entry, (right.paths kind).get? path = some entry → entry.HasNodup) :
    ((left.merge right).paths kind).get? path =
      Entry.join ((left.paths kind).get? path) ((right.paths kind).get? path) := by
  rw [paths_merge, get?_mergePaths]
  cases found : (right.paths kind).get? path with
  | none => cases (left.paths kind).get? path <;> rfl
  | some entry =>
    cases (left.paths kind).get? path with
    | none => simp only [Option.getD_none, Entry.join, Entry.empty_merge (nodup entry found)]
    | some old =>
      simp only [Option.getD_some, Entry.join, Entry.merge_of_hasNodup _ (nodup entry found)]

end Record

end SaveManifest
