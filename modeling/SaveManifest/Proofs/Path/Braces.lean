import SaveManifest.Path.Resolution
import SaveManifest.Proofs.Text.Blank

/-!
# Counting double braces

How the count of a doubled character changes when text is put in front or behind: not at all, where
the character does not occur in that text. Trimming a text and bringing a key into its normal form
take and join no braces, so the count stays.
-/

namespace SaveManifest.Path

variable {c brace : Char} {rest : List Char}

theorem countPairs_pair (c : Char) (rest : List Char) :
    countPairs c (c :: c :: rest) = countPairs c rest + 1 := by
  rw [countPairs, if_pos ⟨rfl, rfl⟩]

theorem countPairs_cons_of_ne (other : c ≠ brace) :
    countPairs brace (c :: rest) = countPairs brace rest := by
  cases rest with
  | nil => rfl
  | cons d rest => rw [countPairs, if_neg fun same => other same.1]

theorem countPairs_cons_of_head (lone : rest.head? ≠ some brace) :
    countPairs brace (c :: rest) = countPairs brace rest := by
  cases rest with
  | nil => rfl
  | cons d rest =>
    rw [countPairs, if_neg]
    rintro ⟨-, rfl⟩
    exact lone rfl

theorem countPairs_append_left {front : List Char} (absent : brace ∉ front) (back : List Char) :
    countPairs brace (front ++ back) = countPairs brace back := by
  induction front with
  | nil => rfl
  | cons d front ih =>
    rw [List.mem_cons, not_or] at absent
    rw [List.cons_append, countPairs_cons_of_ne (Ne.symm absent.1), ih absent.2]

theorem countPairs_append_right {back : List Char} (absent : brace ∉ back) (front : List Char) :
    countPairs brace (front ++ back) = countPairs brace front := by
  fun_induction countPairs brace front with
  | case1 first second rest both ih =>
    obtain ⟨rfl, rfl⟩ := both
    rw [List.cons_append, List.cons_append, countPairs_pair, ih]
  | case2 first second rest notBoth ih =>
    rw [List.cons_append, List.cons_append, countPairs, if_neg notBoth]
    exact ih
  | case3 front short =>
    have nothing := countPairs_append_left absent []
    rw [List.append_nil] at nothing
    have none : countPairs brace back = 0 := nothing
    cases front with
    | nil => exact none
    | cons first others =>
      cases others with
      | cons second rest => exact absurd rfl (short first second rest)
      | nil =>
        rw [List.singleton_append, countPairs_cons_of_head, none]
        intro found
        exact absent (List.mem_of_head? found)

/-- No pair reaches over another character. -/
theorem countPairs_append_cons (other : c ≠ brace) (front back : List Char) :
    countPairs brace (front ++ c :: back) = countPairs brace front + countPairs brace back := by
  fun_induction countPairs brace front with
  | case1 first second rest both ih =>
    obtain ⟨rfl, rfl⟩ := both
    rw [List.cons_append, List.cons_append, countPairs_pair, ih]
    omega
  | case2 first second rest notBoth ih =>
    rw [List.cons_append, List.cons_append, countPairs, if_neg notBoth]
    exact ih
  | case3 front short =>
    cases front with
    | nil => rw [List.nil_append, countPairs_cons_of_ne other, Nat.zero_add]
    | cons first others =>
      cases others with
      | cons second rest => exact absurd rfl (short first second rest)
      | nil =>
        rw [List.singleton_append, countPairs_cons_of_head, countPairs_cons_of_ne other,
          Nat.zero_add]
        exact fun same => other (Option.some.inj same)

/-- Trimming takes no brace. -/
theorem countPairs_trim (visible : Text.isBlank brace = false) (text : List Char) :
    countPairs brace (Text.trim text) = countPairs brace text := by
  have absent : ∀ blank : List Char, (∀ c ∈ blank, Text.isBlank c = true) → brace ∉ blank := by
    intro blank all member
    rw [all brace member] at visible
    cases visible
  obtain ⟨front, back, split, frontBlank, backBlank⟩ := Text.trim_split text
  have whole := congrArg (countPairs brace) split
  rw [countPairs_append_right (absent back backBlank),
    countPairs_append_left (absent front frontBlank)] at whole
  exact whole.symm

theorem isBalanced_iff {text : List Char} :
    isBalanced text = true ↔ countPairs '{' text = countPairs '}' text := by
  rw [isBalanced, beq_iff_eq]

theorem isBalanced_trim {text : List Char} (balanced : isBalanced text = true) :
    isBalanced (Text.trim text) = true := by
  rw [isBalanced_iff] at balanced ⊢
  rw [countPairs_trim (by decide), countPairs_trim (by decide), balanced]

theorem countPairs_map {rule : Char → Char} (keeps : ∀ c, rule c = brace ↔ c = brace)
    (text : List Char) : countPairs brace (text.map rule) = countPairs brace text := by
  fun_induction countPairs brace text with
  | case1 first second rest both ih =>
    rw [List.map_cons, List.map_cons, countPairs, if_pos (by rwa [keeps, keeps]), ih]
  | case2 first second rest notBoth ih =>
    rw [List.map_cons, List.map_cons, countPairs, if_neg (by rwa [keeps, keeps])]
    exact ih
  | case3 text short =>
    cases text with
    | nil => rfl
    | cons first others =>
      cases others with
      | nil => rfl
      | cons second rest => exact absurd rfl (short first second rest)

/-- How often a character is doubled in several pieces, each on its own. -/
def countPairsIn (c : Char) : List (List Char) → Nat
  | [] => 0
  | piece :: pieces => countPairs c piece + countPairsIn c pieces

theorem countPairs_intercalate (visible : Text.isBlank brace = false) (pieces : List (List Char)) :
    countPairs brace ([' '].intercalate pieces) = countPairsIn brace pieces := by
  have apart : ' ' ≠ brace := by
    rintro rfl
    cases visible
  induction pieces with
  | nil => rfl
  | cons piece pieces ih =>
    cases pieces with
    | nil => simp [List.intercalate, countPairsIn]
    | cons second pieces =>
      have shape : [' '].intercalate (piece :: second :: pieces) =
          piece ++ ' ' :: [' '].intercalate (second :: pieces) := by
        simp [List.intercalate]
      rw [shape, countPairs_append_cons apart, ih]
      rfl

theorem head?_of_splitOn {cut : Char → Bool} {piece : List Char} {others : List (List Char)}
    (pieces : Text.splitOn cut (c :: rest) = piece :: others) (begins : piece.head? = some brace) :
    c = brace := by
  rw [Text.splitOn] at pieces
  split at pieces
  · cases pieces
    cases begins
  · split at pieces <;> cases pieces <;> exact Option.some.inj begins

/-- The pairs of a text stand in the pieces between other characters. -/
theorem countPairsIn_splitOn {cut : Char → Bool} (kept : cut brace = false) (text : List Char) :
    countPairsIn brace (Text.splitOn cut text) = countPairs brace text := by
  fun_induction countPairs brace text with
  | case1 first second rest both ih =>
    obtain ⟨rfl, rfl⟩ := both
    cases pieces : Text.splitOn cut rest with
    | nil => exact absurd pieces (Text.splitOn_ne_nil cut rest)
    | cons piece others =>
      rw [pieces, countPairsIn] at ih
      simp only [Text.splitOn, kept, pieces, Bool.false_eq_true, if_false, countPairsIn,
        countPairs_pair]
      omega
  | case2 first second rest notBoth ih =>
    rw [Text.splitOn]
    split
    · rw [countPairsIn, ih]
      exact Nat.zero_add _
    · cases pieces : Text.splitOn cut (second :: rest) with
      | nil => exact absurd pieces (Text.splitOn_ne_nil cut _)
      | cons piece others =>
        have stays : countPairs brace (first :: piece) = countPairs brace piece := by
          by_cases same : first = brace
          · refine countPairs_cons_of_head fun begins => notBoth ⟨same, ?_⟩
            exact head?_of_splitOn pieces begins
          · exact countPairs_cons_of_ne same
        rw [pieces, countPairsIn] at ih
        rw [countPairsIn, stays, ih]
  | case3 text short =>
    cases text with
    | nil => rfl
    | cons first others =>
      cases others with
      | nil =>
        rw [Text.splitOn]
        split <;> rfl
      | cons second rest => exact absurd rfl (short first second rest)

theorem countPairsIn_filter (pieces : List (List Char)) :
    countPairsIn brace (pieces.filter fun piece => !piece.isEmpty) = countPairsIn brace pieces := by
  induction pieces with
  | nil => rfl
  | cons piece pieces ih =>
    cases piece with
    | nil =>
      rw [countPairsIn, ← ih]
      exact (Nat.zero_add _).symm
    | cons c piece =>
      rw [countPairsIn, ← ih]
      rfl

/-- Collapsing keeps the pairs of a visible character. -/
theorem countPairs_collapse (visible : Text.isBlank brace = false) (text : List Char) :
    countPairs brace (Text.collapse text) = countPairs brace text := by
  rw [Text.collapse, countPairs_intercalate visible, Text.words, countPairsIn_filter,
    countPairsIn_splitOn visible]

theorem isBalanced_normalizeKey {key : List Char} (balanced : isBalanced key = true) :
    isBalanced (Template.normalizeKey key) = true := by
  have kept (brace : Char) (visible : Text.isBlank brace = false) (mark : brace ≠ '_') :
      countPairs brace (Template.normalizeKey key) = countPairs brace key := by
    rw [Template.normalizeKey, countPairs_collapse visible, countPairs_map]
    intro c
    split
    · next underscore =>
      subst underscore
      constructor
      · rintro rfl
        cases visible
      · exact fun same => absurd same.symm mark
    · rfl
  rw [isBalanced_iff] at balanced ⊢
  rw [kept '{' (by decide) (by decide), kept '}' (by decide) (by decide), balanced]

end SaveManifest.Path
