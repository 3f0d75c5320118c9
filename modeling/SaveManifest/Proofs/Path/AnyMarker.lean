import SaveManifest.Proofs.Path.Marker
import SaveManifest.Proofs.Text.Folding

/-!
# Markers of whatever token

A marker is an opening, a token without braces and bars, and two closing braces. The scan for
the markers of a text finds the tokens of all of them (`mem_markerTokens`), although it goes on
behind each marker that it has found: no marker begins within another one, nor in text that is
passive (`framed_passive_append`).
-/

namespace SaveManifest.Path

open SaveManifest.Text

def IsOpening (opening : List Char) : Prop :=
  folded opening = folded shortOpening ∨ folded opening = folded longOpening

def isTokenChar (c : Char) : Bool := c != '{' && c != '}' && c != '|'

def IsTokenText (text : List Char) : Prop := ∀ c ∈ text, isTokenChar c = true

instance (text : List Char) : Decidable (IsTokenText text) :=
  List.decidableBAll (fun c => isTokenChar c = true) text

/-- The body stands in the text between an opening and a closing. -/
def Framed (body text : List Char) : Prop :=
  ∃ opening, IsOpening opening ∧ opening ++ body ++ closing <:+: text

def HoldsMarkerOf (token text : List Char) : Prop := IsTokenText token ∧ Framed token text

def HoldsMarker (text : List Char) : Prop := ∃ token, HoldsMarkerOf token text

theorem isTokenChar_eq_false_iff {c : Char} :
    isTokenChar c = false ↔ c = '{' ∨ c = '}' ∨ c = '|' := by
  simp only [isTokenChar, Bool.and_eq_false_iff, bne_eq_false_iff_eq, or_assoc]

/-- Braces and bars fold to themselves, and nothing else folds to them. -/
theorem isTokenChar_of_fold_eq {c d : Char} (same : fold c = fold d)
    (allowed : isTokenChar d = true) : isTokenChar c = true := by
  cases again : isTokenChar c with
  | true => rfl
  | false =>
    have mark : c.toNat < 128 ∧ isLetter c = false := by
      rcases isTokenChar_eq_false_iff.1 again with rfl | rfl | rfl <;> decide
    rw [eq_of_fold_eq mark.1 mark.2 same.symm, again] at allowed
    cases allowed

theorem IsTokenText.of_folded {text other : List Char} (isTokenText : IsTokenText other)
    (same : folded text = folded other) : IsTokenText text := by
  intro c member
  have image : fold c ∈ folded other := same ▸ mem_folded member
  obtain ⟨d, inside, equal⟩ := List.mem_map.1 image
  exact isTokenChar_of_fold_eq equal.symm (isTokenText d inside)

theorem IsTokenText.braceless {text : List Char} (isTokenText : IsTokenText text) :
    Braceless text := by
  intro c member
  have allowed := isTokenText c member
  constructor
  · intro same
    have brace := isTokenChar_of_fold_eq same.symm allowed
    cases brace
  · intro same
    have brace := isTokenChar_of_fold_eq same.symm allowed
    cases brace

@[simp] theorem isTokenText_nil : IsTokenText [] := by
  simp [IsTokenText]

@[simp] theorem isTokenText_cons {c : Char} {text : List Char} :
    IsTokenText (c :: text) ↔ isTokenChar c = true ∧ IsTokenText text :=
  List.forall_mem_cons

@[simp] theorem isTokenText_append {front back : List Char} :
    IsTokenText (front ++ back) ↔ IsTokenText front ∧ IsTokenText back :=
  List.forall_mem_append

/-- A text that folds to marks holds these marks. -/
theorem eq_cons_of_folded {mark : Char} (ascii : mark.toNat < 128)
    (other : isLetter mark = false) {text pattern : List Char}
    (same : folded text = folded (mark :: pattern)) :
    ∃ rest, text = mark :: rest ∧ folded rest = folded pattern := by
  obtain ⟨c, rest, rfl, first, others⟩ := List.map_eq_cons_iff.1 same
  exact ⟨rest, by rw [eq_of_fold_eq ascii other first], others⟩

theorem eq_closing_of_folded {text : List Char} (same : folded text = folded closing) :
    text = closing := by
  obtain ⟨second, first, same⟩ := eq_cons_of_folded (by decide) (by decide) same
  obtain ⟨rest, last, same⟩ := eq_cons_of_folded (by decide) (by decide) same
  rw [first, last, List.map_eq_nil_iff.1 same]
  rfl

/-- An opening is two braces, letters and a bar. -/
theorem IsOpening.shape {opening : List Char} (isOpening : IsOpening opening) :
    ∃ stem, opening = '{' :: '{' :: (stem ++ ['|']) ∧ IsTokenText stem := by
  have split : ∀ letters : List Char, IsTokenText letters →
      folded opening = folded ('{' :: '{' :: (letters ++ ['|'])) →
      ∃ stem, opening = '{' :: '{' :: (stem ++ ['|']) ∧ IsTokenText stem := by
    intro letters allowed same
    obtain ⟨second, first, same⟩ := eq_cons_of_folded (by decide) (by decide) same
    obtain ⟨third, brace, same⟩ := eq_cons_of_folded (by decide) (by decide) same
    rw [folded_append] at same
    obtain ⟨stem, ending, parts, isStem, same⟩ := List.map_eq_append_iff.1 same
    obtain ⟨rest, bar, same⟩ := eq_cons_of_folded (by decide) (by decide) same
    rw [first, brace, parts, bar, List.map_eq_nil_iff.1 same]
    exact ⟨stem, rfl, allowed.of_folded isStem⟩
  rcases isOpening with short | long
  · exact split ['P'] (by decide) short
  · exact split ['P', 'a', 't', 'h'] (by decide) long

/-- A token between an opening and a closing is a marker of every token it folds to. -/
theorem IsOpening.isMarker {opening token other : List Char} (isOpening : IsOpening opening)
    (same : folded token = folded other) : IsMarker other (opening ++ token ++ closing) := by
  unfold IsMarker shortMarker longMarker
  simp only [folded_append, same]
  rcases isOpening with short | long
  · left
    rw [short]
  · right
    rw [long]

theorem IsMarker.split {other marker : List Char} (isMarker : IsMarker other marker) :
    ∃ opening token, marker = opening ++ token ++ closing ∧ IsOpening opening ∧
      folded token = folded other := by
  have split : ∀ front : List Char, folded marker = folded (front ++ other ++ closing) →
      ∃ opening token, marker = opening ++ token ++ closing ∧ folded opening = folded front ∧
        folded token = folded other := by
    intro front same
    rw [folded_append, folded_append] at same
    obtain ⟨inner, ending, rfl, isInner, isClosing⟩ := List.map_eq_append_iff.1 same
    obtain ⟨opening, token, rfl, isFront, isToken⟩ := List.map_eq_append_iff.1 isInner
    exact ⟨opening, token, by rw [eq_closing_of_folded isClosing], isFront, isToken⟩
  rcases isMarker with short | long
  · obtain ⟨opening, token, shape, isShort, isToken⟩ := split shortOpening short
    exact ⟨opening, token, shape, Or.inl isShort, isToken⟩
  · obtain ⟨opening, token, shape, isLong, isToken⟩ := split longOpening long
    exact ⟨opening, token, shape, Or.inr isLong, isToken⟩

/-- What stands behind an opening at the front of a text. -/
theorem dropOpening_eq_some_iff {text inner : List Char} :
    (dropFolded shortOpening text).or (dropFolded longOpening text) = some inner ↔
      ∃ opening, IsOpening opening ∧ text = opening ++ inner := by
  rw [Option.or_eq_some_iff, dropFolded_eq_some_iff, dropFolded_eq_some_iff]
  constructor
  · rintro (⟨opening, shape, short⟩ | ⟨-, opening, shape, long⟩)
    · exact ⟨opening, Or.inl short, shape⟩
    · exact ⟨opening, Or.inr long, shape⟩
  · rintro ⟨opening, short | long, shape⟩
    · exact Or.inl ⟨opening, shape, short⟩
    · refine Or.inr ⟨?_, opening, shape, long⟩
      cases found : dropFolded shortOpening text with
      | none => rfl
      | some behind =>
        -- A short opening would end where the long one goes on with a letter.
        obtain ⟨front, split, short⟩ := dropFolded_eq_some_iff.1 found
        have texts := congrArg folded (split.symm.trans shape)
        rw [folded_append, folded_append, short, long] at texts
        exact absurd texts (shortOpening_append_ne _ _)

/-- Two openings at one place end at one place. -/
theorem IsOpening.append_inj {opening front inner other : List Char} (left : IsOpening opening)
    (right : IsOpening front) (same : opening ++ inner = front ++ other) : inner = other := by
  have first := dropOpening_eq_some_iff.2 ⟨opening, left, Eq.refl (opening ++ inner)⟩
  have second := dropOpening_eq_some_iff.2 ⟨front, right, same⟩
  exact Option.some.inj (first.symm.trans second)

/-- The scan finds a marker where an opening, a token and a closing stand. -/
theorem dropAnyMarker_eq_some_iff {text token behind : List Char} :
    dropAnyMarker text = some (token, behind) ↔
      IsTokenText token ∧ ∃ opening, IsOpening opening ∧
        text = opening ++ token ++ closing ++ behind := by
  simp only [dropAnyMarker, Option.bind_eq_bind, Option.bind_eq_some_iff, dropOpening_eq_some_iff]
  constructor
  · rintro ⟨inner, ⟨opening, isOpening, rfl⟩, closed⟩
    obtain ⟨rest, split⟩ := List.takeWhile_prefix (l := inner) isTokenChar
    have allowed : IsTokenText (inner.takeWhile isTokenChar) :=
      fun c member => List.all_eq_true.1 List.all_takeWhile c member
    split at closed
    · next ending shape =>
      cases closed
      change inner.drop (inner.takeWhile isTokenChar).length = '}' :: '}' :: behind at shape
      change IsTokenText (inner.takeWhile isTokenChar) ∧ ∃ front, IsOpening front ∧
        opening ++ inner = front ++ inner.takeWhile isTokenChar ++ closing ++ behind
      generalize inner.takeWhile isTokenChar = token at *
      rw [← split, List.drop_left] at shape
      exact ⟨allowed, opening, isOpening, by rw [← split, shape]; simp [closing]⟩
    · cases closed
  · rintro ⟨isTokenText, opening, isOpening, rfl⟩
    have taken : (token ++ '}' :: '}' :: behind).takeWhile isTokenChar = token := by
      rw [List.takeWhile_append_of_pos isTokenText, List.takeWhile_cons_of_neg (by decide),
        List.append_nil]
    refine ⟨token ++ '}' :: '}' :: behind, ⟨opening, isOpening, by simp [closing]⟩, ?_⟩
    unfold isTokenChar at taken
    simp only [taken, List.drop_left]

theorem Framed.mono {body part text : List Char} (framed : Framed body part)
    (inside : part <:+: text) : Framed body text := by
  obtain ⟨opening, isOpening, stands⟩ := framed
  exact ⟨opening, isOpening, stands.trans inside⟩

theorem HoldsMarkerOf.mono {token part text : List Char} (holds : HoldsMarkerOf token part)
    (inside : part <:+: text) : HoldsMarkerOf token text :=
  ⟨holds.1, holds.2.mono inside⟩

theorem HoldsMarker.mono {part text : List Char} (holds : HoldsMarker part)
    (inside : part <:+: text) : HoldsMarker text := by
  obtain ⟨token, holdsToken⟩ := holds
  exact ⟨token, holdsToken.mono inside⟩

theorem not_framed_nil {body : List Char} : ¬ Framed body [] := by
  intro ⟨opening, isOpening, stands⟩
  obtain ⟨stem, rfl, -⟩ := isOpening.shape
  cases List.infix_nil.1 stands

/-- A body is framed at the front of a text or behind its first character. -/
theorem framed_cons {body rest : List Char} {c : Char} :
    Framed body (c :: rest) ↔
      (∃ opening, IsOpening opening ∧ opening ++ body ++ closing <+: c :: rest) ∨
        Framed body rest := by
  unfold Framed
  constructor
  · intro ⟨opening, isOpening, stands⟩
    rcases List.infix_cons_iff.1 stands with front | later
    · exact Or.inl ⟨opening, isOpening, front⟩
    · exact Or.inr ⟨opening, isOpening, later⟩
  · rintro (⟨opening, isOpening, front⟩ | ⟨opening, isOpening, later⟩)
    · exact ⟨opening, isOpening, front.isInfix⟩
    · exact ⟨opening, isOpening, later.trans (List.suffix_cons c rest).isInfix⟩

/-- No opening begins in passive text. -/
theorem IsOpening.not_prefix {opening more tail rest : List Char} {c : Char}
    (isOpening : IsOpening opening) (passive : IsPassive (c :: tail)) :
    ¬ opening ++ more <+: c :: (tail ++ rest) := by
  intro stands
  obtain ⟨stem, rfl, -⟩ := isOpening.shape
  rw [List.cons_append, List.cons_prefix_cons] at stands
  cases tail with
  | nil => exact passive (by rw [← stands.1])
  | cons d tail =>
    rw [List.cons_append, List.cons_append, List.cons_prefix_cons] at stands
    rcases passive.1 with first | second
    · exact first (by rw [← stands.1])
    · exact second (by rw [← stands.2.1])

theorem framed_passive_append {body front rest : List Char} (passive : IsPassive front) :
    Framed body (front ++ rest) ↔ Framed body rest := by
  induction front with
  | nil => rfl
  | cons c tail ih =>
    rw [List.cons_append, framed_cons, ih passive.tail]
    constructor
    · rintro (⟨opening, isOpening, stands⟩ | later)
      · rw [List.append_assoc] at stands
        exact absurd stands (isOpening.not_prefix passive)
      · exact later
    · exact Or.inr

theorem holdsMarkerOf_passive_append {token front rest : List Char} (passive : IsPassive front) :
    HoldsMarkerOf token (front ++ rest) ↔ HoldsMarkerOf token rest := by
  unfold HoldsMarkerOf
  rw [framed_passive_append passive]

theorem holdsMarker_passive_append {front rest : List Char} (passive : IsPassive front) :
    HoldsMarker (front ++ rest) ↔ HoldsMarker rest := by
  unfold HoldsMarker
  simp only [holdsMarkerOf_passive_append passive]

theorem holdsMarkerOf_cons {token rest : List Char} {c : Char} :
    HoldsMarkerOf token (c :: rest) ↔
      (∃ behind, dropAnyMarker (c :: rest) = some (token, behind)) ∨
        HoldsMarkerOf token rest := by
  unfold HoldsMarkerOf
  rw [framed_cons, and_or_left]
  apply or_congr_left
  simp only [dropAnyMarker_eq_some_iff]
  constructor
  · rintro ⟨isTokenText, opening, isOpening, behind, split⟩
    exact ⟨behind, isTokenText, opening, isOpening, split.symm⟩
  · rintro ⟨behind, isTokenText, opening, isOpening, split⟩
    exact ⟨isTokenText, opening, isOpening, behind, split.symm⟩

/-- A marker at the front of a text is its first character and a passive stretch. -/
theorem dropAnyMarker_cons {token rest behind : List Char} {c : Char}
    (dropped : dropAnyMarker (c :: rest) = some (token, behind)) :
    ∃ tail, rest = tail ++ behind ∧ IsPassive tail ∧
      ∀ other, dropAnyMarker (c :: (tail ++ other)) = some (token, other) := by
  obtain ⟨isTokenText, opening, isOpening, shape⟩ := dropAnyMarker_eq_some_iff.1 dropped
  obtain ⟨d, tail, split, passive⟩ :=
    (isOpening.isMarker rfl : IsMarker token _).passive_tail isTokenText.braceless
  rw [split, List.cons_append, List.cons.injEq] at shape
  obtain ⟨rfl, rfl⟩ := shape
  refine ⟨tail, rfl, passive, fun other => ?_⟩
  exact dropAnyMarker_eq_some_iff.2 ⟨isTokenText, opening, isOpening, by rw [split]; rfl⟩

/-- The scan finds the tokens of all markers of a text. -/
theorem mem_markerTokens {token text : List Char} :
    token ∈ markerTokens text ↔ HoldsMarkerOf token text := by
  fun_induction markerTokens text with
  | case1 =>
    constructor
    · intro impossible
      cases impossible
    · intro holds
      exact absurd holds.2 not_framed_nil
  | case2 c rest first behind found ih =>
    obtain ⟨tail, rfl, passive, -⟩ := dropAnyMarker_cons found
    rw [List.mem_cons, ih, holdsMarkerOf_cons, holdsMarkerOf_passive_append passive]
    apply or_congr_left
    simp [found, eq_comm]
  | case3 c rest absent ih =>
    rw [ih, holdsMarkerOf_cons]
    simp [absent]

theorem markerTokens_eq_nil_iff {text : List Char} :
    markerTokens text = [] ↔ ¬ HoldsMarker text := by
  unfold HoldsMarker
  rw [List.eq_nil_iff_forall_not_mem, not_exists]
  simp only [mem_markerTokens]

/-- A marker of some token is a marker of each token that it folds to. -/
theorem dropMarker_of_dropAnyMarker {token other text behind : List Char}
    (dropped : dropAnyMarker text = some (token, behind)) (same : folded token = folded other) :
    dropMarker other text = some behind := by
  obtain ⟨-, opening, isOpening, shape⟩ := dropAnyMarker_eq_some_iff.1 dropped
  exact dropMarker_eq_some_iff.2 ⟨opening ++ token ++ closing, shape, isOpening.isMarker same⟩

theorem dropAnyMarker_of_dropMarker {other text behind : List Char} (allowed : IsTokenText other)
    (dropped : dropMarker other text = some behind) :
    ∃ token, dropAnyMarker text = some (token, behind) ∧ folded token = folded other := by
  obtain ⟨marker, rfl, isMarker⟩ := dropMarker_eq_some_iff.1 dropped
  obtain ⟨opening, token, rfl, isOpening, same⟩ := isMarker.split
  exact ⟨token, dropAnyMarker_eq_some_iff.2 ⟨allowed.of_folded same, opening, isOpening, rfl⟩, same⟩

/-- Behind its first brace, an opening is passive. -/
theorem IsOpening.passive_tail {opening : List Char} (isOpening : IsOpening opening) :
    ∃ tail, opening = '{' :: tail ∧ IsPassive tail := by
  obtain ⟨stem, shape, allowed⟩ := isOpening.shape
  have letters : IsPassive (stem ++ ['|']) := by
    have bar : Braceless ['|'] := by decide +kernel
    exact (allowed.braceless.append bar).isPassive
  refine ⟨'{' :: (stem ++ ['|']), shape, ?_⟩
  cases stem with
  | nil => exact ⟨Or.inr (by decide +kernel), letters⟩
  | cons c stem => exact ⟨Or.inr (allowed.braceless c List.mem_cons_self).1, letters⟩

theorem IsOpening.fold_mem {opening : List Char} (isOpening : IsOpening opening) {c : Char}
    (member : c ∈ opening) : fold c ∈ folded longOpening := by
  have image := mem_folded member
  rcases isOpening with short | long
  · rw [short] at image
    have letters : folded shortOpening ⊆ folded longOpening := by decide +kernel
    exact letters image
  · rwa [long] at image

end SaveManifest.Path
