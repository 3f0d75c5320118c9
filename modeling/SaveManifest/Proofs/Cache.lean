import Mathlib.Data.List.Dedup
import SaveManifest.Cache
import SaveManifest.Proofs.Catalog

/-!
# Look-ups in the cache

What marking and updating change, title by title, and how the lists of titles and the counts over
all pages follow from the look-ups.
-/

namespace SaveManifest

namespace CacheEntry

theorem isPending_processed (entry : CacheEntry) (tallies : Tallies) (revision : Option UInt64) :
    (entry.processed tallies revision).isPending = false := rfl

theorem isFlagged_eq_false_iff (entry : CacheEntry) :
    entry.isFlagged = false ↔
      entry.unsupportedOs = false ∧ entry.unsupportedPath = false ∧ entry.tooBroad = false := by
  rw [isFlagged, Bool.or_eq_false_iff, Bool.or_eq_false_iff, and_assoc]

end CacheEntry

namespace Cache

/-- Marking adds a pending entry where there is none, and changes nothing else. -/
theorem get?_mark (cache : Cache) (member : Member) (title : String) :
    (cache.mark member).get? title =
      if title = member.title then some ((cache.get? title).getD { pageId := member.pageId })
      else cache.get? title := by
  unfold mark
  by_cases known : cache.contains member.title = true
  · rw [if_pos known]
    obtain ⟨entry, found⟩ := Catalog.contains_iff.1 known
    by_cases same : title = member.title
    · rw [if_pos same, same, found, Option.getD_some]
    · rw [if_neg same]
  · rw [if_neg known, Catalog.get?_insert]
    by_cases same : title = member.title
    · have absent : cache.get? title = none := by
        rw [same, ← Option.not_isSome_iff_eq_none]
        exact known
      rw [if_pos same, if_pos same, absent, Option.getD_none]
    · rw [if_neg same, if_neg same]

/-- Marking adds at most one page. -/
theorem size_mark (cache : Cache) (member : Member) :
    (cache.mark member).size = cache.size + if cache.contains member.title then 0 else 1 := by
  unfold mark
  split
  · rfl
  · next new => rw [Catalog.size_insert, if_neg new]

/-- Of several members with one title the first counts, and none where the title is known. -/
theorem get?_markAll (cache : Cache) (members : List Member) (title : String) :
    (cache.markAll members).get? title =
      (cache.get? title).or ((members.find? (·.title == title)).map fun member =>
        { pageId := member.pageId }) := by
  unfold markAll
  induction members generalizing cache with
  | nil => simp
  | cons member members ih =>
    rw [List.foldl_cons, ih, get?_mark, List.find?_cons]
    by_cases same : title = member.title
    · subst same
      cases cache.get? member.title with
      | none => simp
      | some entry => simp
    · have other : (member.title == title) = false := by simpa using Ne.symm same
      rw [if_neg same, other]

theorem size_markAll (cache : Cache) (members : List Member) :
    (cache.markAll members).size = cache.size + cache.countNew members := by
  unfold markAll
  induction members generalizing cache with
  | nil => rfl
  | cons member members ih =>
    rw [List.foldl_cons, ih, size_mark, countNew, Nat.add_assoc]

/-- Members whose titles are known add nothing. -/
theorem markAll_of_contains {cache : Cache} {members : List Member}
    (known : ∀ member ∈ members, cache.contains member.title = true) :
    cache.markAll members = cache ∧ cache.countNew members = 0 := by
  unfold markAll
  induction members with
  | nil => exact ⟨rfl, rfl⟩
  | cons member members ih =>
    have here : cache.contains member.title = true := known member List.mem_cons_self
    have same : cache.mark member = cache := if_pos here
    obtain ⟨marked, none⟩ := ih fun other inside => known other (List.mem_cons_of_mem _ inside)
    rw [List.foldl_cons, countNew, same, here, none]
    exact ⟨marked, rfl⟩

theorem contains_markAll (cache : Cache) (members : List Member) (title : String) :
    (cache.markAll members).contains title = true ↔
      cache.contains title = true ∨ title ∈ members.map (·.title) := by
  rw [Catalog.contains, get?_markAll, Option.isSome_or, Bool.or_eq_true, Option.isSome_map,
    List.find?_isSome]
  simp [Catalog.contains]

/-- The pages that count as new are the titles that were unknown, each of them once. -/
theorem countNew_eq (cache : Cache) (members : List Member) :
    cache.countNew members =
      ((members.map (·.title)).filter fun title => !cache.contains title).dedup.length := by
  let new := (members.map (·.title)).filter fun title => !cache.contains title
  have grown : (cache.markAll members).keys.Perm (cache.keys ++ new.dedup) := by
    rw [List.perm_ext_iff_of_nodup (Catalog.nodup_keys _)]
    · intro title
      rw [Catalog.mem_keys, contains_markAll, List.mem_append, Catalog.mem_keys, List.mem_dedup,
        List.mem_filter]
      cases cache.contains title with
      | true => simp
      | false => simp
    · rw [List.nodup_append]
      refine ⟨Catalog.nodup_keys _, List.nodup_dedup _, ?_⟩
      intro old known title added same
      rw [List.mem_dedup, List.mem_filter, ← same, Catalog.mem_keys.1 known] at added
      cases added.2
  have length := grown.length_eq
  rw [Catalog.length_keys, size_markAll, List.length_append, Catalog.length_keys] at length
  exact Nat.add_left_cancel length

theorem get?_update (cache : Cache) (title probe : String) (tallies : Tallies)
    (revision : Option UInt64) :
    (cache.update title tallies revision).get? probe =
      if probe = title then some (((cache.get? title).getD {}).processed tallies revision)
      else cache.get? probe :=
  Catalog.get?_insert cache title probe _

theorem mem_titlesWhere {cache : Cache} {condition : CacheEntry → Bool} {title : String} :
    title ∈ cache.titlesWhere condition ↔
      ∃ entry, cache.get? title = some entry ∧ condition entry = true := by
  rw [titlesWhere, List.mem_map]
  constructor
  · rintro ⟨⟨title, entry⟩, kept, rfl⟩
    obtain ⟨member, holds⟩ := List.mem_filter.1 kept
    exact ⟨entry, Catalog.get?_eq_some_iff.2 member, holds⟩
  · rintro ⟨entry, found, holds⟩
    exact ⟨(title, entry), List.mem_filter.2 ⟨Catalog.get?_eq_some_iff.1 found, holds⟩, rfl⟩

theorem ascending_titlesWhere (cache : Cache) (condition : CacheEntry → Bool) :
    (cache.titlesWhere condition).Pairwise (· < ·) := by
  unfold titlesWhere
  rw [List.pairwise_map]
  exact cache.ascending.filter _

theorem nodup_titlesWhere (cache : Cache) (condition : CacheEntry → Bool) :
    (cache.titlesWhere condition).Nodup :=
  Catalog.nodup_of_ascending (cache.ascending.filter _)

theorem length_titlesWhere (cache : Cache) (condition : CacheEntry → Bool) :
    (cache.titlesWhere condition).length = cache.values.countP condition := by
  rw [titlesWhere, Catalog.values, List.length_map, List.countP_map, List.countP_eq_length_filter]
  rfl

/-- Every page is pending or was processed. -/
theorem pages_eq (cache : Cache) :
    cache.stats.pages =
      cache.stats.pending + (cache.titlesWhere fun entry => !entry.isPending).length := by
  have split := List.length_eq_countP_add_countP (l := cache.values) (·.isPending)
  have all : cache.values.length = cache.size := List.length_map _
  simp only [Bool.not_eq_true, Bool.decide_eq_false] at split
  rw [length_titlesWhere]
  simp only [stats]
  omega

end Cache

end SaveManifest
