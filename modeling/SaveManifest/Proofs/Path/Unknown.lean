import SaveManifest.Proofs.Path.Leftover
import SaveManifest.Proofs.Path.NormalMarker
import SaveManifest.Proofs.Text.Blank

/-!
# Unknown tokens and unresolved markers

The report of unknown tokens reads the markers of the path as it was written, takes white space
off their tokens and looks these up without regard to the case of ASCII letters. Resolution
replaces a marker only if its token is in the table letter for letter under case folding, and it
can complete a marker while it replaces those inside it. So the two agree on whether a marker is left
except on padded tokens, on lookalike letters and on enclosing markers
(`unknownTokens_tells_unresolved`); each exception occurs (`unknownTokens_misses_unresolved`).
-/

namespace SaveManifest.Path

open SaveManifest.Text

/-- The report finds this token of a marker in the table. -/
def isListed (token : List Char) : Bool :=
  (Placeholder.lookup? (String.ofList (trim token))).isSome

/-- A marker of the text has white space around a token of the table. -/
def HoldsPadded (text : List Char) : Prop :=
  ∃ token, HoldsMarkerOf token text ∧ trim token ≠ token ∧ isListed token = true

/-- A marker of the text is a marker of the table only through a letter outside ASCII. -/
def HoldsLookalike (text : List Char) : Prop :=
  ∃ token, HoldsMarkerOf token text ∧ Matches Placeholder.known token ∧
    ∃ c ∈ token, 128 ≤ c.toNat

/-- What the report does with one token. -/
def report (seen : List String) (token : List Char) : List String :=
  let token := String.ofList (trim token)
  if (Placeholder.lookup? token).isNone && !seen.any (sameIgnoringCase · token) then
    seen ++ [token]
  else seen

theorem unknownTokens_eq_foldl (raw : String) :
    unknownTokens raw = (markerTokens raw.toList).foldl report [] := rfl

theorem foldl_report_ne_nil {seen : List String} (some : seen ≠ []) (tokens : List (List Char)) :
    tokens.foldl report seen ≠ [] := by
  induction tokens generalizing seen with
  | nil => exact some
  | cons token tokens ih =>
    rw [List.foldl_cons]
    apply ih
    simp only [report]
    split
    · exact List.append_ne_nil_of_left_ne_nil some _
    · exact some

theorem report_nil (token : List Char) :
    report [] token = if isListed token then [] else [String.ofList (trim token)] := by
  unfold report isListed
  cases found : Placeholder.lookup? (String.ofList (trim token)) with
  | none => simp [found]
  | some placeholder => simp [found]

/-- Nothing is reported exactly if every marker of the path has a listed token. -/
theorem unknownTokens_eq_nil_iff {raw : String} :
    unknownTokens raw = [] ↔ ∀ token, HoldsMarkerOf token raw.toList → isListed token = true := by
  simp only [unknownTokens_eq_foldl, ← mem_markerTokens]
  induction markerTokens raw.toList with
  | nil => simp
  | cons token tokens ih =>
    rw [List.foldl_cons, report_nil, List.forall_mem_cons]
    cases listed : isListed token with
    | true => simpa using ih
    | false =>
      constructor
      · intro nothing
        exact absurd nothing (foldl_report_ne_nil (by simp) tokens)
      · intro all
        cases all.1

theorem isListed_iff {token : List Char} :
    isListed token = true ↔
      ∃ placeholder ∈ Placeholder.known,
        lowered placeholder.token.toList = lowered (trim (trim token)) := by
  simp [isListed, Placeholder.lookup?, List.find?_isSome, sameIgnoringCase_iff, trimmed]

/-- Case folding does not see the case of ASCII letters. -/
theorem folded_lowered (text : List Char) : folded (lowered text) = folded text := by
  simp [folded, lowered, fold_lower]

theorem folded_of_ascii {text : List Char} (ascii : ∀ c ∈ text, c.toNat < 128) :
    folded text = lowered text :=
  List.map_congr_left fun c member => fold_of_ascii (ascii c member)

theorem trim_of_visible {text : List Char} (visible : ∀ c ∈ text, isBlank c = false) :
    trim text = text := by
  obtain ⟨front, back, split, frontBlank, backBlank⟩ := trim_split text
  have nothing : ∀ part : List Char, part ⊆ text → (∀ c ∈ part, isBlank c = true) → part = [] := by
    intro part inside blank
    refine List.eq_nil_iff_forall_not_mem.2 fun c member => ?_
    have clash := visible c (inside member)
    rw [blank c member] at clash
    cases clash
  have noFront := nothing front (by rw [split]; simp) frontBlank
  have noBack := nothing back (by rw [split]; simp) backBlank
  rw [noFront, noBack] at split
  simpa using split.symm

def isVisibleAscii (c : Char) : Bool := c.toNat < 128 && !isBlank c

theorem isVisibleAscii_known : ∀ placeholder ∈ Placeholder.known,
    (folded placeholder.token.toList).all isVisibleAscii = true ∧
      folded placeholder.token.toList = lowered placeholder.token.toList := by
  decide +kernel

/-- A token that resolution matches has no white space in it. -/
theorem trim_of_matches {token : List Char} (found : Matches Placeholder.known token) :
    trim token = token := by
  obtain ⟨placeholder, member, same⟩ := found
  apply trim_of_visible
  intro c inside
  have image : fold c ∈ folded placeholder.token.toList := same ▸ mem_folded inside
  have seen := List.all_eq_true.1 (isVisibleAscii_known placeholder member).1 _ image
  simp only [isVisibleAscii, Bool.and_eq_true, decide_eq_true_eq, Bool.not_eq_true'] at seen
  exact isBlank_of_fold seen.1 seen.2

/-- A listed token without white space around it is matched by resolution. -/
theorem matches_of_isListed {token : List Char} (listed : isListed token = true)
    (bare : trim token = token) : Matches Placeholder.known token := by
  obtain ⟨placeholder, member, same⟩ := isListed_iff.1 listed
  rw [bare, bare] at same
  refine ⟨placeholder, member, ?_⟩
  rw [← folded_lowered, same, folded_lowered]

/-- A token of ASCII letters that resolution matches is listed. -/
theorem isListed_of_matches {token : List Char} (found : Matches Placeholder.known token)
    (ascii : ∀ c ∈ token, c.toNat < 128) : isListed token = true := by
  have bare := trim_of_matches found
  obtain ⟨placeholder, member, same⟩ := found
  rw [folded_of_ascii ascii, (isVisibleAscii_known placeholder member).2] at same
  exact isListed_iff.2 ⟨placeholder, member, by rw [bare, bare, same]⟩

/-- Where markers are enclosed, a third brace is opened. -/
theorem Encloses.three_le_count {table : List Placeholder} {text : List Char}
    (encloses : Encloses table text) : 3 ≤ text.count '{' := by
  obtain ⟨body, raw, replaced, opening, isOpening, stands⟩ := encloses
  have inside : '{' ∈ body := by
    apply Decidable.byContradiction
    intro absent
    have passive : IsPassive body := .of_no_opening fun c member same => by
      rw [eq_of_fold_eq (by decide) (by decide) same] at member
      exact absent member
    have unchanged : substitute table (body ++ []) = body ++ substitute table [] :=
      substitute_passive passive
    rw [List.append_nil, substitute, List.append_nil] at unchanged
    rw [unchanged] at replaced
    exact raw replaced
  have one := List.count_pos_iff.2 inside
  have most := stands.sublist.count_le '{'
  obtain ⟨stem, rfl, -⟩ := isOpening.shape
  simp only [List.cons_append, List.count_append, List.count_cons_self] at most
  omega

theorem resolve_eq_of_toOption {raw : String} {resolved : Resolved}
    (value : (resolve raw).toOption = some resolved) : resolve raw = .ok resolved := by
  cases outcome : resolve raw with
  | error error =>
    rw [outcome] at value
    cases value
  | ok found =>
    rw [outcome] at value
    cases value
    rfl

/-- The report is empty exactly where resolution leaves no marker, but for markers of padded tokens
and enclosing markers, which are left without being reported, and for lookalike letters, which can
be reported although they are resolved. -/
theorem unknownTokens_tells_unresolved {raw : String} {resolved : Resolved}
    (success : resolve raw = .ok resolved) :
    (unknownTokens raw = [] ∧ ¬ HoldsPadded raw.toList ∧
        ¬ Encloses Placeholder.known raw.toList →
      ¬ HoldsMarker resolved.path.toList) ∧
    (¬ HoldsMarker resolved.path.toList →
      ¬ HoldsPadded raw.toList ∧ ¬ Encloses Placeholder.known raw.toList ∧
        (unknownTokens raw = [] ∨ HoldsLookalike raw.toList)) := by
  obtain ⟨-, path, -⟩ := resolve_eq_ok success
  rw [path, holdsMarker_normalizeSeparators,
    holdsMarker_substitute_iff separated_known isBarless_known]
  constructor
  · rintro ⟨unreported, notPadded, notEnclosing⟩ (⟨token, holds, unmatched⟩ | encloses)
    · have listed := unknownTokens_eq_nil_iff.1 unreported token holds
      by_cases bare : trim token = token
      · exact unmatched (matches_of_isListed listed bare)
      · exact notPadded ⟨token, holds, bare, listed⟩
    · exact notEnclosing encloses
  · intro noneLeft
    refine ⟨?_, fun encloses => noneLeft (Or.inr encloses), ?_⟩
    · intro ⟨token, holds, padded, _⟩
      exact noneLeft (Or.inl ⟨token, holds, fun found => padded (trim_of_matches found)⟩)
    · by_cases lookalike : HoldsLookalike raw.toList
      · exact Or.inr lookalike
      · left
        apply unknownTokens_eq_nil_iff.2
        intro token holds
        have found : Matches Placeholder.known token :=
          Decidable.byContradiction fun unmatched => noneLeft (Or.inl ⟨token, holds, unmatched⟩)
        apply isListed_of_matches found
        intro c member
        exact Nat.lt_of_not_le fun outside => lookalike ⟨token, holds, found, c, member, outside⟩

/-- A path with a marker of the table alone. -/
theorem unknownTokens_tells_unresolved_appData :
    resolve "{{path|AppData}}/x" = .ok { path := "<winAppData>/x", kind := .file } ∧
      unknownTokens "{{path|AppData}}/x" = [] ∧ ¬ HoldsMarker "<winAppData>/x".toList := by
  have success : resolve "{{path|AppData}}/x" = .ok { path := "<winAppData>/x", kind := .file } :=
    resolve_eq_of_toOption (by decide +kernel)
  have unreported : unknownTokens "{{path|AppData}}/x" = [] := by decide +kernel
  have notPadded : ¬ HoldsPadded "{{path|AppData}}/x".toList := by
    intro ⟨token, holds, padded, _⟩
    have bare : ∀ token ∈ markerTokens "{{path|AppData}}/x".toList, trim token = token := by
      decide +kernel
    exact padded (bare token (mem_markerTokens.2 holds))
  have notEnclosing : ¬ Encloses Placeholder.known "{{path|AppData}}/x".toList := by
    intro encloses
    exact absurd encloses.three_le_count (by decide)
  exact ⟨success, unreported,
    (unknownTokens_tells_unresolved success).1 ⟨unreported, notPadded, notEnclosing⟩⟩

/-- Each exception occurs: a padded token and an enclosing marker are left without a report, and a
lookalike letter is reported although its marker is resolved. -/
theorem unknownTokens_misses_unresolved :
    (resolve "{{P| game }}/x" = .ok { path := "{{P| game }}/x", kind := .file } ∧
      unknownTokens "{{P| game }}/x" = [] ∧ HoldsMarker "{{P| game }}/x".toList) ∧
    (resolve "{{P|a{{P|game}}b}}/x" = .ok { path := "{{P|a<base>b}}/x", kind := .file } ∧
      unknownTokens "{{P|a{{P|game}}b}}/x" = [] ∧ HoldsMarker "{{P|a<base>b}}/x".toList) ∧
    (resolve "{{P|ſteam}}/x" = .ok { path := "<root>/x", kind := .file } ∧
      unknownTokens "{{P|ſteam}}/x" = ["ſteam"] ∧ ¬ HoldsMarker "<root>/x".toList) := by
  refine ⟨⟨resolve_eq_of_toOption (by decide +kernel), by decide +kernel, ?_⟩,
    ⟨resolve_eq_of_toOption (by decide +kernel), by decide +kernel, ?_⟩,
    resolve_eq_of_toOption (by decide +kernel), by decide +kernel, ?_⟩
  · exact ⟨" game ".toList, mem_markerTokens.1 (by decide +kernel)⟩
  · exact ⟨"a<base>b".toList, mem_markerTokens.1 (by decide +kernel)⟩
  · exact markerTokens_eq_nil_iff.1 (by decide +kernel)

end SaveManifest.Path
