import SaveManifest.Proofs.Path.Confluence
import SaveManifest.Proofs.Path.Separators

/-!
# Resolved paths

What resolution gives is in normal form and holds no marker of a known placeholder: substitution
leaves none, and normalization makes none, because a marker holds no separator. The path of a
registry entry holds the name of a registry root, because the marker of the root was substituted
by it.
-/

namespace SaveManifest.Path

open SaveManifest.Text

/-- A text has a marker of a token where some stretch of it is one. -/
theorem hasMarker_iff {token text : List Char} :
    hasMarker token text = true ↔ ∃ marker, marker <:+: text ∧ IsMarker token marker := by
  induction text with
  | nil =>
    constructor
    · intro impossible
      cases impossible
    · rintro ⟨marker, inside, isMarker⟩
      obtain ⟨a, b, body, y, z, rfl, -⟩ := isMarker.shape
      cases List.infix_nil.1 inside
  | cons c rest ih =>
    rw [hasMarker, Bool.or_eq_true, ih, Option.isSome_iff_exists]
    constructor
    · rintro (⟨behind, dropped⟩ | ⟨marker, inside, isMarker⟩)
      · obtain ⟨marker, shape, isMarker⟩ := dropMarker_eq_some_iff.1 dropped
        rw [shape]
        exact ⟨marker, (List.prefix_append marker behind).isInfix, isMarker⟩
      · exact ⟨marker, inside.trans (List.suffix_cons c rest).isInfix, isMarker⟩
    · rintro ⟨marker, inside, isMarker⟩
      rcases List.infix_cons_iff.1 inside with ⟨behind, front⟩ | later
      · exact Or.inl ⟨behind, dropMarker_eq_some_iff.2 ⟨marker, front.symm, isMarker⟩⟩
      · exact Or.inr ⟨marker, later, isMarker⟩

/-- No marker of a known placeholder holds a separator. -/
theorem not_mem_slash_of_isMarker {placeholder : Placeholder}
    (known : placeholder ∈ Placeholder.known) {marker : List Char}
    (isMarker : IsMarker placeholder.token.toList marker) : '/' ∉ marker := by
  have apart : ∀ placeholder ∈ Placeholder.known,
      fold '/' ∉ folded (shortMarker placeholder.token.toList) ∧
        fold '/' ∉ folded (longMarker placeholder.token.toList) := by
    decide +kernel
  intro member
  have image := mem_folded member
  rcases isMarker with short | long
  · exact (apart placeholder known).1 (short ▸ image)
  · exact (apart placeholder known).2 (long ▸ image)

/-- Normalization makes no marker. -/
theorem hasMarker_of_normalizeSeparators {placeholder : Placeholder}
    (known : placeholder ∈ Placeholder.known) {text : List Char}
    (has : hasMarker placeholder.token.toList (normalizeSeparators text) = true) :
    hasMarker placeholder.token.toList text = true := by
  obtain ⟨marker, inside, isMarker⟩ := hasMarker_iff.1 has
  have foreign : ¬ marker <:+: "<home>".toList := by
    intro within
    have braceless : Braceless "<home>".toList := by decide +kernel
    obtain ⟨a, b, body, y, z, rfl, -, opens, -⟩ := isMarker.shape
    exact (braceless a (within.subset List.mem_cons_self)).1 opens
  exact hasMarker_iff.2
    ⟨marker, infix_of_normalizeSeparators (not_mem_slash_of_isMarker known isMarker) foreign inside,
      isMarker⟩

variable {table : List Placeholder}

/-- The value of a placeholder whose marker a text has stands in the substituted text. -/
theorem infix_substitute (separated : Separated table) {placeholder : Placeholder}
    (member : placeholder ∈ table) {text : List Char}
    (has : hasMarker placeholder.token.toList text = true) :
    placeholder.normalized.toList <:+: substitute table text := by
  fun_induction substitute table text with
  | case1 => cases has
  | case2 c rest other behind found ih =>
    obtain ⟨another, dropped⟩ := (markerAt?_eq_some_iff separated).1 found
    by_cases same : other = placeholder
    · rw [same]
      exact (List.prefix_append _ _).isInfix
    · obtain ⟨tail, rfl, passive, -⟩ := dropMarker_cons (separated.token other another) dropped
      rw [hasMarker, Bool.or_eq_true, hasMarker_passive passive] at has
      rcases has with here | later
      · obtain ⟨rest, droppedToo⟩ := Option.isSome_iff_exists.1 here
        exact absurd (eq_of_dropMarker separated another member dropped droppedToo).1 same
      · exact (ih later).trans (List.suffix_append _ _).isInfix
  | case3 c rest absent ih =>
    rw [hasMarker, markerAt?_eq_none_iff.1 absent placeholder member, Option.isSome_none,
      Bool.false_or] at has
    exact (ih has).trans (List.suffix_cons c _).isInfix

theorem substitute_ne_nil (separated : Separated table)
    (values : ∀ placeholder ∈ table, placeholder.normalized.toList ≠ []) {text : List Char}
    (visible : text ≠ []) : substitute table text ≠ [] := by
  cases text with
  | nil => exact absurd rfl visible
  | cons c rest =>
    cases found : markerAt? table (c :: rest) with
    | none =>
      rw [substitute_absent found]
      exact List.cons_ne_nil _ _
    | some pair =>
      obtain ⟨placeholder, behind⟩ := pair
      have member := ((markerAt?_eq_some_iff separated).1 found).1
      rw [substitute_found found]
      exact List.append_ne_nil_of_left_ne_nil (values placeholder member) _

/-- A path that resolves holds no marker of the unsupported placeholder. -/
theorem resolve_eq_ok {raw : String} {resolved : Resolved} (success : resolve raw = .ok resolved) :
    hasMarker "wow64".toList raw.toList = false ∧
      resolved.path.toList = normalizeSeparators (substitute Placeholder.known raw.toList) ∧
      resolved.kind = kind raw := by
  rw [resolve, resolveWith_reordered (.refl Placeholder.known)] at success
  split at success
  · cases success
  · split at success
    · cases success
    · next unused =>
      cases success
      exact ⟨Bool.eq_false_iff.2 unused, by simp, rfl⟩

variable {raw : String} {resolved : Resolved}

theorem path_ne_empty_of_resolve (success : resolve raw = .ok resolved) (visible : raw ≠ "") :
    resolved.path ≠ "" := by
  obtain ⟨-, path, -⟩ := resolve_eq_ok success
  have values : ∀ placeholder ∈ Placeholder.known, placeholder.normalized.toList ≠ [] := by
    decide +kernel
  intro nothing
  rw [nothing] at path
  have text : raw.toList ≠ [] := fun none => visible (String.toList_inj.1 none)
  exact normalizeSeparators_ne_nil (substitute_ne_nil separated_known values text) path.symm

theorem isNormal_of_resolve (success : resolve raw = .ok resolved) :
    IsNormal resolved.path.toList := by
  obtain ⟨-, path, -⟩ := resolve_eq_ok success
  rw [path]
  exact isNormal_normalizeSeparators _

/-- Nothing is left to resolve in a resolved path. -/
theorem hasMarker_of_resolve (success : resolve raw = .ok resolved) {placeholder : Placeholder}
    (known : placeholder ∈ Placeholder.known) :
    hasMarker placeholder.token.toList resolved.path.toList = false := by
  obtain ⟨-, path, -⟩ := resolve_eq_ok success
  rw [Bool.eq_false_iff, path]
  intro left
  have before := hasMarker_of_normalizeSeparators known left
  have all := List.Subset.refl Placeholder.known
  exact ((hasMarker_substitute separated_known all known raw.toList).1 before).2 known

def registryRoots : List String := ["HKEY_CURRENT_USER", "HKEY_LOCAL_MACHINE"]

theorem isInert_of_mem_registryRoots {root : String} (listed : root ∈ registryRoots) :
    IsInert root.toList := by
  simp only [registryRoots, List.mem_cons, List.not_mem_nil, or_false] at listed
  rcases listed with rfl | rfl <;> exact ⟨by simp, by simp [isSeparator], by simp⟩

/-- A path of the registry holds the name of a registry root. -/
theorem registryRoot_of_resolve (success : resolve raw = .ok resolved)
    (registry : resolved.kind = .registry) :
    ∃ root ∈ registryRoots, root.toList <:+: resolved.path.toList := by
  obtain ⟨unused, path, same⟩ := resolve_eq_ok success
  rw [registry, kind, kindWith] at same
  split at same
  · next some =>
    obtain ⟨placeholder, known, root⟩ := List.any_eq_true.1 some
    rw [Bool.and_eq_true] at root
    have roots : ∀ placeholder ∈ Placeholder.known, placeholder.registryRoot = true →
        placeholder.token = "wow64" ∨ placeholder.normalized ∈ registryRoots := by
      decide +kernel
    rcases roots placeholder known root.1 with view | listed
    · rw [view, unused] at root
      cases root.2
    · refine ⟨placeholder.normalized, listed, ?_⟩
      rw [path]
      exact (isInert_of_mem_registryRoots listed).infix_normalizeSeparators
        (infix_substitute separated_known known root.2)
  · cases same

end SaveManifest.Path
