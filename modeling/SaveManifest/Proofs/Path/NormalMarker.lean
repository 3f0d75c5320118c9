import SaveManifest.Proofs.Path.AnyMarker
import SaveManifest.Proofs.Path.Separators

/-!
# Markers in the normal form of a path

Normalizing separators may change a token, because a token may hold separators. But it makes and
breaks no marker (`holdsMarker_normalizeSeparators`): what frames a token holds none.
-/

namespace SaveManifest.Path

open SaveManifest.Text

/-- No letter of an opening is a separator. -/
theorem IsOpening.plain {opening : List Char} (isOpening : IsOpening opening) :
    ∀ c ∈ opening, isSeparator c = false := by
  intro c member
  rw [Bool.eq_false_iff]
  intro separator
  have image := isOpening.fold_mem member
  have apart : fold '/' ∉ folded longOpening ∧ fold '\\' ∉ folded longOpening := by
    decide +kernel
  simp only [isSeparator, Bool.or_eq_true, beq_iff_eq] at separator
  rcases separator with rfl | rfl
  · exact apart.1 image
  · exact apart.2 image

theorem isTokenChar_of_separator {c : Char} (separator : isSeparator c = true) :
    isTokenChar c = true := by
  simp only [isSeparator, Bool.or_eq_true, beq_iff_eq] at separator
  rcases separator with rfl | rfl
  · decide
  · decide

theorem IsTokenText.joinRuns {token : List Char} (isTokenText : IsTokenText token) :
    IsTokenText (joinRuns token) := by
  intro c member
  rcases mem_joinRuns member with inside | rfl
  · exact isTokenText c inside
  · decide

theorem HoldsMarker.joinRuns {text : List Char} (holds : HoldsMarker text) :
    HoldsMarker (joinRuns text) := by
  obtain ⟨token, isTokenText, opening, isOpening, before, after, rfl⟩ := holds
  refine ⟨_, isTokenText.joinRuns, opening, isOpening, Path.joinRuns before,
    Path.joinRuns after, ?_⟩
  obtain ⟨stem, shape, -⟩ := isOpening.shape
  have brace : isSeparator '{' = false := by decide
  have close : isSeparator '}' = false := by decide
  have behind : Path.joinRuns (opening ++ (token ++ '}' :: '}' :: after)) =
      opening ++ (Path.joinRuns token ++ '}' :: '}' :: Path.joinRuns after) := by
    rw [joinRuns_append_of_plain isOpening.plain, joinRuns_append_cons close,
      joinRuns_cons_of_not_separator close]
  rw [shape, List.cons_append] at behind ⊢
  simp only [closing, List.append_assoc, List.cons_append, List.nil_append] at behind ⊢
  rw [joinRuns_append_cons brace, ← joinRuns_cons_of_not_separator brace, behind]

/-- What is token text up to a closing brace after joining was token text before. -/
theorem split_joinRuns {text token behind : List Char} (isTokenText : IsTokenText token)
    (split : joinRuns text = token ++ '}' :: behind) :
    ∃ body rest, text = body ++ '}' :: rest ∧ IsTokenText body ∧ joinRuns rest = behind := by
  induction text using run_induction generalizing token with
  | nil => simp [joinRuns] at split
  | run c rest separator ih =>
    rw [joinRuns_cons_of_separator separator] at split
    cases token with
    | nil => simp at split
    | cons d token =>
      rw [List.cons_append, List.cons.injEq] at split
      obtain ⟨body, others, shape, allowed, joined⟩ :=
        ih (isTokenText_cons.1 isTokenText).2 split.2
      have run : IsTokenText (rest.takeWhile isSeparator) := fun e member =>
        isTokenChar_of_separator (List.all_eq_true.1 List.all_takeWhile e member)
      refine ⟨c :: (rest.takeWhile isSeparator ++ body), others, ?_, ?_, joined⟩
      · rw [List.cons_append, List.append_assoc, ← shape, List.takeWhile_append_dropWhile]
      · simp only [isTokenText_cons, isTokenText_append]
        exact ⟨isTokenChar_of_separator separator, run, allowed⟩
  | plain c rest separator ih =>
    rw [joinRuns_cons_of_not_separator separator] at split
    cases token with
    | nil =>
      rw [List.nil_append, List.cons.injEq] at split
      exact ⟨[], rest, by rw [split.1]; rfl, isTokenText_nil, split.2⟩
    | cons d token =>
      rw [List.cons_append, List.cons.injEq] at split
      obtain ⟨first, later⟩ := isTokenText_cons.1 isTokenText
      obtain ⟨body, others, shape, allowed, joined⟩ := ih later split.2
      refine ⟨c :: body, others, by rw [shape]; rfl, ?_, joined⟩
      exact isTokenText_cons.2 ⟨by rw [split.1]; exact first, allowed⟩

/-- A marker at the front of the joined text comes from one at the front of the text. -/
theorem holdsMarker_of_dropAnyMarker_joinRuns {text token behind : List Char}
    (dropped : dropAnyMarker (joinRuns text) = some (token, behind)) : HoldsMarker text := by
  obtain ⟨isTokenText, opening, isOpening, split⟩ := dropAnyMarker_eq_some_iff.1 dropped
  have noSlash : '/' ∉ opening := by
    intro member
    have plain := isOpening.plain '/' member
    cases plain
  have front : opening <+: joinRuns text := by
    rw [split, List.append_assoc, List.append_assoc]
    exact List.prefix_append opening _
  obtain ⟨inner, rfl⟩ := prefix_of_joinRuns noSlash front
  rw [joinRuns_append_of_plain isOpening.plain, List.append_assoc, List.append_assoc] at split
  obtain ⟨body, rest, rfl, allowed, joined⟩ :=
    split_joinRuns isTokenText (List.append_cancel_left split)
  have second : ['}'] <+: joinRuns rest := by
    rw [joined]
    exact List.prefix_append ['}'] behind
  obtain ⟨others, rfl⟩ := prefix_of_joinRuns (by decide) second
  refine ⟨body, allowed, opening, isOpening, [], others, ?_⟩
  simp [closing]

theorem holdsMarker_joinRuns {text : List Char} :
    HoldsMarker (joinRuns text) ↔ HoldsMarker text := by
  constructor
  · intro holds
    induction text using run_induction with
    | nil => exact holds
    | run c rest separator ih =>
      have slash : IsPassive ['/'] := by
        unfold IsPassive
        decide +kernel
      rw [joinRuns_cons_of_separator separator] at holds
      have later := ih ((holdsMarker_passive_append slash).1 holds)
      exact later.mono
        ((List.dropWhile_suffix isSeparator).trans (List.suffix_cons c rest)).isInfix
    | plain c rest separator ih =>
      have joined := joinRuns_cons_of_not_separator separator rest
      obtain ⟨token, holdsToken⟩ := holds
      rw [joined, holdsMarkerOf_cons, ← joined] at holdsToken
      rcases holdsToken with ⟨behind, dropped⟩ | later
      · exact holdsMarker_of_dropAnyMarker_joinRuns dropped
      · exact (ih ⟨token, later⟩).mono (List.suffix_cons c rest).isInfix
  · exact HoldsMarker.joinRuns

theorem holdsMarker_dropTrailing {path : List Char} :
    HoldsMarker (dropTrailing path) ↔ HoldsMarker path := by
  constructor
  · intro holds
    exact holds.mono (isPrefix_dropTrailing path).isInfix
  · intro ⟨token, isTokenText, opening, isOpening, stands⟩
    refine ⟨token, isTokenText, opening, isOpening, ?_⟩
    unfold dropTrailing
    split
    · next ends =>
      obtain ⟨front, ending⟩ := List.getLast?_eq_some_iff.1 ends.2
      rw [ending] at stands ⊢
      rw [List.dropLast_concat]
      rcases List.infix_concat_iff.1 stands with last | early
      · -- A marker ends in a brace, not in the separator.
        obtain ⟨before, shape⟩ := last
        have ends := congrArg List.getLast? shape
        simp [closing] at ends
      · exact early
    · exact stands

theorem holdsMarker_expandHome {path : List Char} :
    HoldsMarker (expandHome path) ↔ HoldsMarker path := by
  have home : IsPassive "<home>/".toList := Braceless.isPassive (by decide +kernel)
  have alone : IsPassive "<home>".toList := Braceless.isPassive (by decide +kernel)
  have tilde : IsPassive ['~'] := Braceless.isPassive (by decide +kernel)
  have below : IsPassive ['~', '/'] := Braceless.isPassive (by decide +kernel)
  unfold expandHome
  split
  · rw [← List.append_nil "<home>".toList, ← List.append_nil ['~'],
      holdsMarker_passive_append alone, holdsMarker_passive_append tilde]
  · next rest =>
    have split : '~' :: '/' :: rest = ['~', '/'] ++ rest := rfl
    rw [split, holdsMarker_passive_append home, holdsMarker_passive_append below]
  · rfl

/-- A path holds a marker in normal form exactly if it does as it is. -/
theorem holdsMarker_normalizeSeparators {text : List Char} :
    HoldsMarker (normalizeSeparators text) ↔ HoldsMarker text := by
  unfold normalizeSeparators
  rw [holdsMarker_expandHome, holdsMarker_dropTrailing, holdsMarker_joinRuns]

end SaveManifest.Path
