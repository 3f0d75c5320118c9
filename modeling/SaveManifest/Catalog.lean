/-!
# Catalogs

Finite maps from strings, listed in ascending order of their keys. The order is that of code
points, which is also the byte order of UTF-8. A catalog is determined by its look-ups
(`Catalog.ext_get?`), so two catalogs that answer alike are equal, however they were built.
-/

namespace SaveManifest

universe u

/-- A finite map from strings to `α`, listed in strictly ascending order of the keys. -/
structure Catalog (α : Type u) where
  entries : List (String × α)
  ascending : entries.Pairwise fun left right => left.1 < right.1

namespace Catalog

variable {α : Type u}

theorem entries_injective {left right : Catalog α} (same : left.entries = right.entries) :
    left = right := by
  cases left; cases right; cases same; rfl

instance [DecidableEq α] : DecidableEq (Catalog α) := fun left right =>
  if same : left.entries = right.entries then isTrue (entries_injective same)
  else isFalse fun equal => same (equal ▸ rfl)

instance [Repr α] : Repr (Catalog α) := ⟨fun catalog => reprPrec catalog.entries⟩

def empty : Catalog α := ⟨[], List.Pairwise.nil⟩

instance : EmptyCollection (Catalog α) := ⟨empty⟩

instance : Inhabited (Catalog α) := ⟨empty⟩

def find? (key : String) : List (String × α) → Option α
  | [] => none
  | (other, value) :: rest => if key = other then some value else find? key rest

/-- An ascending list with a value put under a key, in place of an older value. -/
def put (key : String) (value : α) : List (String × α) → List (String × α)
  | [] => [(key, value)]
  | (other, old) :: rest =>
    if key < other then (key, value) :: (other, old) :: rest
    else if key = other then (key, value) :: rest
    else (other, old) :: put key value rest

theorem mem_put {key : String} {value : α} {entries : List (String × α)} {entry : String × α}
    (member : entry ∈ put key value entries) : entry = (key, value) ∨ entry ∈ entries := by
  induction entries with
  | nil => exact Or.inl (by simpa [put] using member)
  | cons head rest ih =>
    obtain ⟨other, old⟩ := head
    simp only [put] at member
    split at member
    · simpa using member
    · split at member
      · rcases List.mem_cons.1 member with rfl | later
        · exact Or.inl rfl
        · exact Or.inr (List.mem_cons_of_mem _ later)
      · rcases List.mem_cons.1 member with rfl | later
        · exact Or.inr List.mem_cons_self
        · exact (ih later).imp_right (List.mem_cons_of_mem _)

theorem put_ascending {key : String} {value : α} {entries : List (String × α)}
    (ascending : entries.Pairwise fun left right => left.1 < right.1) :
    (put key value entries).Pairwise fun left right => left.1 < right.1 := by
  induction entries with
  | nil => simp [put]
  | cons head rest ih =>
    obtain ⟨other, old⟩ := head
    have above := List.pairwise_cons.1 ascending
    simp only [put]
    split
    · next below =>
      refine List.pairwise_cons.2 ⟨?_, ascending⟩
      intro entry member
      rcases List.mem_cons.1 member with rfl | later
      · exact below
      · exact String.lt_trans below (above.1 entry later)
    · next notBelow =>
      split
      · next same =>
        subst same
        exact List.pairwise_cons.2 ⟨above.1, above.2⟩
      · next distinct =>
        refine List.pairwise_cons.2 ⟨?_, ih above.2⟩
        intro entry member
        rcases mem_put member with rfl | later
        · exact Std.lt_of_le_of_ne (Std.not_lt.1 notBelow) (Ne.symm distinct)
        · exact above.1 entry later

/-- The catalog with a value put under a key, in place of an older value. -/
def insert (catalog : Catalog α) (key : String) (value : α) : Catalog α :=
  ⟨put key value catalog.entries, put_ascending catalog.ascending⟩

def get? (catalog : Catalog α) (key : String) : Option α := find? key catalog.entries

def contains (catalog : Catalog α) (key : String) : Bool := (catalog.get? key).isSome

def filterKeys (catalog : Catalog α) (condition : String → Bool) : Catalog α :=
  ⟨catalog.entries.filter (fun entry => condition entry.1), catalog.ascending.filter _⟩

def keys (catalog : Catalog α) : List String := catalog.entries.map (·.1)

def values (catalog : Catalog α) : List α := catalog.entries.map (·.2)

def size (catalog : Catalog α) : Nat := catalog.entries.length

def isEmpty (catalog : Catalog α) : Bool := catalog.entries.isEmpty

/-- The catalog of a list of pairs; of two pairs with one key the later one counts. -/
def ofList (pairs : List (String × α)) : Catalog α :=
  pairs.foldl (fun catalog pair => catalog.insert pair.1 pair.2) empty

@[simp] theorem get?_empty (key : String) : (empty : Catalog α).get? key = none := rfl

theorem find?_put (key probe : String) (value : α) (entries : List (String × α)) :
    find? probe (put key value entries) =
      if probe = key then some value else find? probe entries := by
  induction entries with
  | nil => simp [put, find?]
  | cons head rest ih =>
    obtain ⟨other, old⟩ := head
    simp only [put]
    split
    · rfl
    · split
      · next same =>
        subst same
        by_cases hit : probe = key <;> simp [find?, hit]
      · next distinct =>
        by_cases hit : probe = other
        · subst hit
          simp [find?, Ne.symm distinct]
        · simp [find?, hit, ih]

@[simp] theorem get?_insert (catalog : Catalog α) (key probe : String) (value : α) :
    (catalog.insert key value).get? probe =
      if probe = key then some value else catalog.get? probe :=
  find?_put key probe value catalog.entries

private theorem find?_eq_none_of_below {key : String} {entries : List (String × α)}
    (below : ∀ entry ∈ entries, key < entry.1) : find? key entries = none := by
  induction entries with
  | nil => rfl
  | cons head rest ih =>
    obtain ⟨other, old⟩ := head
    have lt : key < other := below (other, old) List.mem_cons_self
    have distinct : key ≠ other := by
      rintro rfl
      exact String.lt_irrefl key lt
    simp [find?, distinct, ih fun entry member => below entry (List.mem_cons_of_mem _ member)]

/-- Ascending entries in which the first key of others is found do not begin above that key. -/
private theorem not_lt_of_find?_eq {key other : String} {value old : α}
    {lefts rights : List (String × α)} (above : ∀ entry ∈ rights, other < entry.1)
    (same : find? key ((key, value) :: lefts) = find? key ((other, old) :: rights)) :
    ¬key < other := by
  intro lt
  have absent : find? key ((other, old) :: rights) = none :=
    find?_eq_none_of_below fun entry member => by
      rcases List.mem_cons.1 member with rfl | later
      · exact lt
      · exact String.lt_trans lt (above entry later)
  rw [absent] at same
  simp [find?] at same

private theorem entries_eq_of_find? {left right : List (String × α)}
    (leftAscending : left.Pairwise fun a b => a.1 < b.1)
    (rightAscending : right.Pairwise fun a b => a.1 < b.1)
    (same : ∀ key, find? key left = find? key right) : left = right := by
  induction left generalizing right with
  | nil =>
    cases right with
    | nil => rfl
    | cons head rest => simpa [find?] using same head.1
  | cons first lefts ih =>
    obtain ⟨key, value⟩ := first
    cases right with
    | nil => simpa [find?] using same key
    | cons second rights =>
      obtain ⟨other, old⟩ := second
      have leftAbove := List.pairwise_cons.1 leftAscending
      have rightAbove := List.pairwise_cons.1 rightAscending
      have keys : key = other := by
        rcases Decidable.em (key = other) with equal | distinct
        · exact equal
        · have notLt := not_lt_of_find?_eq rightAbove.1 (same key)
          have lt := Std.lt_of_le_of_ne (Std.not_lt.1 notLt) (Ne.symm distinct)
          exact absurd lt (not_lt_of_find?_eq leftAbove.1 (same other).symm)
      subst keys
      have values : value = old := by simpa [find?] using same key
      subst values
      congr 1
      refine ih leftAbove.2 rightAbove.2 fun probe => ?_
      by_cases hit : probe = key
      · subst hit
        rw [find?_eq_none_of_below leftAbove.1, find?_eq_none_of_below rightAbove.1]
      · simpa [find?, hit] using same probe

/-- Catalogs that answer every look-up alike are equal. -/
theorem ext_get? {left right : Catalog α} (same : ∀ key, left.get? key = right.get? key) :
    left = right :=
  entries_injective (entries_eq_of_find? left.ascending right.ascending same)

end Catalog

end SaveManifest
