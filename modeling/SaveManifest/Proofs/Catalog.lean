import Mathlib.Data.List.Nodup
import SaveManifest.Catalog

/-!
# The keys of a catalog

A look-up finds what the list of entries holds, and each key stands in it once. So catalogs with
the same keys are of one size, and the keys that satisfy a condition can be counted by look-ups.
-/

namespace SaveManifest.Catalog

universe u v

variable {α : Type u} {β : Type v}

theorem contains_iff {catalog : Catalog α} {key : String} :
    catalog.contains key = true ↔ ∃ value, catalog.get? key = some value := by
  rw [contains, Option.isSome_iff_exists]

theorem contains_insert (catalog : Catalog α) (key probe : String) (value : α) :
    (catalog.insert key value).contains probe = true ↔
      probe = key ∨ catalog.contains probe = true := by
  unfold contains
  rw [get?_insert]
  by_cases same : probe = key
  · simp only [same, if_true, Option.isSome_some, true_or]
  · simp only [same, if_false, false_or]

theorem find?_eq_some_iff {entries : List (String × α)}
    (ascending : entries.Pairwise fun left right => left.1 < right.1) {key : String} {value : α} :
    find? key entries = some value ↔ (key, value) ∈ entries := by
  induction entries with
  | nil =>
    constructor
    · intro found
      cases found
    · intro member
      cases member
  | cons entry rest ih =>
    obtain ⟨other, old⟩ := entry
    have above := List.pairwise_cons.1 ascending
    rw [find?, List.mem_cons, Prod.mk.injEq]
    by_cases same : key = other
    · subst same
      -- The key is the least one, so no later entry has it.
      have later : (key, value) ∉ rest := by
        intro member
        exact String.lt_irrefl key (above.1 _ member)
      simp only [if_true, true_and, later, or_false, Option.some.injEq]
      exact eq_comm
    · simp only [same, if_false, false_and, false_or]
      exact ih above.2

theorem get?_eq_some_iff {catalog : Catalog α} {key : String} {value : α} :
    catalog.get? key = some value ↔ (key, value) ∈ catalog.entries :=
  find?_eq_some_iff catalog.ascending

theorem find?_filter (condition : String → Bool) (key : String) (entries : List (String × α)) :
    find? key (entries.filter fun entry => condition entry.1) =
      if condition key then find? key entries else none := by
  induction entries with
  | nil => cases condition key <;> rfl
  | cons entry rest ih =>
    obtain ⟨other, value⟩ := entry
    rw [List.filter_cons]
    by_cases same : key = other
    · subst same
      cases kept : condition key with
      | true => simp only [if_true, find?]
      | false =>
        rw [kept] at ih
        exact ih
    · cases condition other with
      | true => simp only [if_true, find?, same, if_false, ih]
      | false => simp only [Bool.false_eq_true, find?, same, if_false, ih]

/-- A filtered catalog answers for the keys that satisfy the condition. -/
theorem get?_filterKeys (catalog : Catalog α) (condition : String → Bool) (key : String) :
    (catalog.filterKeys condition).get? key =
      if condition key then catalog.get? key else none :=
  find?_filter condition key catalog.entries

theorem mem_keys {catalog : Catalog α} {key : String} :
    key ∈ catalog.keys ↔ catalog.contains key = true := by
  rw [contains_iff, keys, List.mem_map]
  constructor
  · rintro ⟨⟨key, value⟩, member, rfl⟩
    exact ⟨value, get?_eq_some_iff.2 member⟩
  · rintro ⟨value, found⟩
    exact ⟨(key, value), get?_eq_some_iff.1 found, rfl⟩

theorem nodup_of_ascending {entries : List (String × α)}
    (ascending : entries.Pairwise fun left right => left.1 < right.1) :
    (entries.map (·.1)).Nodup :=
  (List.pairwise_map.2 ascending).nodup

/-- Keys in ascending order are determined by which keys they are. -/
theorem eq_of_ascending {left right : List String} (leftAscending : left.Pairwise (· < ·))
    (rightAscending : right.Pairwise (· < ·)) (same : ∀ key, key ∈ left ↔ key ∈ right) :
    left = right := by
  have perm : left.Perm right :=
    (List.perm_ext_iff_of_nodup leftAscending.nodup rightAscending.nodup).2 same
  apply perm.eq_of_pairwise _ leftAscending rightAscending
  intro lower upper _ _ below above
  exact absurd (String.lt_trans below above) (String.lt_irrefl _)

theorem ascending_keys (catalog : Catalog α) : catalog.keys.Pairwise (· < ·) :=
  List.pairwise_map.2 catalog.ascending

theorem nodup_keys (catalog : Catalog α) : catalog.keys.Nodup :=
  nodup_of_ascending catalog.ascending

theorem length_keys (catalog : Catalog α) : catalog.keys.length = catalog.size :=
  List.length_map _

/-- A catalog grows by one where a key is new. -/
theorem size_insert (catalog : Catalog α) (key : String) (value : α) :
    (catalog.insert key value).size =
      if catalog.contains key then catalog.size else catalog.size + 1 := by
  rw [← length_keys, ← length_keys]
  split
  · next known =>
    have same : (catalog.insert key value).keys.Perm catalog.keys := by
      rw [List.perm_ext_iff_of_nodup (nodup_keys _) (nodup_keys _)]
      intro probe
      rw [mem_keys, mem_keys, contains_insert, or_iff_right_iff_imp]
      exact fun same => same ▸ known
    exact same.length_eq
  · next new =>
    have more : (catalog.insert key value).keys.Perm (key :: catalog.keys) := by
      have absent : key ∉ catalog.keys := fun member => new (mem_keys.1 member)
      rw [List.perm_ext_iff_of_nodup (nodup_keys _)
        (List.nodup_cons.2 ⟨absent, nodup_keys _⟩)]
      intro probe
      rw [mem_keys, contains_insert, List.mem_cons, mem_keys]
    exact more.length_eq

/-- Entries put one after the other into an empty catalog are looked up like the list they came
from. -/
theorem get?_ofList (pairs : List (String × α)) (start : Catalog α) (key : String)
    (ascending : pairs.Pairwise fun left right => left.1 < right.1) :
    (pairs.foldl (fun catalog pair => catalog.insert pair.1 pair.2) start).get? key =
      (find? key pairs).or (start.get? key) := by
  induction pairs generalizing start with
  | nil => rfl
  | cons pair pairs ih =>
    obtain ⟨other, value⟩ := pair
    obtain ⟨above, later⟩ := List.pairwise_cons.1 ascending
    rw [List.foldl_cons, ih _ later, get?_insert, find?]
    by_cases same : key = other
    · subst same
      have absent : find? key pairs = none := by
        cases found : find? key pairs with
        | none => rfl
        | some value =>
          have member := (find?_eq_some_iff later).1 found
          exact absurd (above _ member) (String.lt_irrefl key)
      rw [absent, if_pos rfl, if_pos rfl]
      rfl
    · rw [if_neg same, if_neg same]

/-- A catalog is the catalog of its entries. -/
theorem ofList_entries (catalog : Catalog α) : ofList catalog.entries = catalog := by
  apply ext_get?
  intro key
  rw [ofList, get?_ofList _ _ _ catalog.ascending, get?_empty, Option.or_none]
  rfl

end SaveManifest.Catalog
