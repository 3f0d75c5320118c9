import SaveManifest.Proofs.Path.AnyMarker
import SaveManifest.Proofs.Path.Resolved

/-!
# The markers that substitution leaves

Substitution with a table replaces the markers of its tokens. A text holds a marker afterwards
exactly if it held one of another token, or if an opening and a closing of it enclose markers of
the table whose replacement turns what stands between them into a token
(`holdsMarker_substitute_iff`).

For the converse a marker in the substituted text is traced back. Its opening stood there before,
for a value is neither part of an opening nor does it hold a bar (`split_substitute_bar`); and so
did its closing braces (`split_substitute_close`).
-/

namespace SaveManifest.Path

open SaveManifest.Text

/-- A placeholder of the table has this token, up to the case of its letters. -/
def Matches (table : List Placeholder) (token : List Char) : Prop :=
  ∃ placeholder ∈ table, folded placeholder.token.toList = folded token

instance (table : List Placeholder) (token : List Char) : Decidable (Matches table token) :=
  inferInstanceAs
    (Decidable (∃ placeholder ∈ table, folded placeholder.token.toList = folded token))

/-- An opening and a closing of the text stand around something that is no token but becomes one
when its own markers are replaced. -/
def Encloses (table : List Placeholder) (text : List Char) : Prop :=
  ∃ body, ¬ IsTokenText body ∧ IsTokenText (substitute table body) ∧ Framed body text

/-- A table whose tokens and values hold neither braces nor bars. -/
structure IsBarless (table : List Placeholder) : Prop where
  token : ∀ placeholder ∈ table, IsTokenText placeholder.token.toList
  value : ∀ placeholder ∈ table, IsTokenText placeholder.normalized.toList

theorem isBarless_known : IsBarless Placeholder.known where
  token := by decide +kernel
  value := by decide +kernel

variable {table : List Placeholder}

/-- A marker that no placeholder of the table has is left where it stands. -/
theorem HoldsMarkerOf.substitute (separated : Separated table) (barless : IsBarless table)
    {token text : List Char} (holds : HoldsMarkerOf token text)
    (unmatched : ¬ Matches table token) : HoldsMarkerOf token (substitute table text) := by
  fun_induction Path.substitute table text with
  | case1 => exact holds
  | case2 c rest placeholder behind found ih =>
    obtain ⟨member, dropped⟩ := (markerAt?_eq_some_iff separated).1 found
    obtain ⟨first, here, same⟩ :=
      dropAnyMarker_of_dropMarker (barless.token placeholder member) dropped
    obtain ⟨tail, rfl, passive, -⟩ := dropAnyMarker_cons here
    rw [holdsMarkerOf_cons, holdsMarkerOf_passive_append passive] at holds
    rcases holds with ⟨_, again⟩ | later
    · rw [here] at again
      cases again
      exact absurd ⟨placeholder, member, same.symm⟩ unmatched
    · exact (ih later).mono (List.suffix_append _ _).isInfix
  | case3 c rest absent ih =>
    rw [holdsMarkerOf_cons] at holds
    rcases holds with ⟨behind, dropped⟩ | later
    · obtain ⟨tail, rfl, passive, stands⟩ := dropAnyMarker_cons dropped
      rw [substitute_passive passive, holdsMarkerOf_cons]
      exact Or.inl ⟨_, stands _⟩
    · exact (ih later).mono (List.suffix_cons c _).isInfix

/-- Up to a bar, substituted text without foreign characters is as it was before. -/
theorem split_substitute_bar (separated : Separated table) (barless : IsBarless table)
    {stem text behind : List Char}
    (foreign : ∀ placeholder ∈ table, ∃ c ∈ placeholder.normalized.toList, c ∉ stem)
    (split : substitute table text = stem ++ '|' :: behind) :
    ∃ inner, text = stem ++ '|' :: inner ∧ substitute table inner = behind := by
  fun_induction Path.substitute table text generalizing stem with
  | case1 => simp at split
  | case2 c rest placeholder rest' found ih =>
    obtain ⟨member, -⟩ := (markerAt?_eq_some_iff separated).1 found
    obtain ⟨d, held, apart⟩ := foreign placeholder member
    -- The value would have to end before the bar, or hold it.
    rcases List.append_eq_append_iff.1 split with ⟨more, early, -⟩ | ⟨more, late, bar⟩
    · rw [early] at apart
      exact absurd (List.mem_append_left more held) apart
    · cases more with
      | nil =>
        rw [late, List.append_nil] at held
        exact absurd held apart
      | cons e more =>
        rw [List.cons_append, List.cons.injEq] at bar
        have inside : '|' ∈ placeholder.normalized.toList := by
          rw [late, bar.1]
          simp
        have allowed := barless.value placeholder member '|' inside
        cases allowed
  | case3 c rest absent ih =>
    cases stem with
    | nil =>
      rw [List.nil_append, List.cons.injEq] at split
      exact ⟨rest, by rw [split.1]; rfl, split.2⟩
    | cons d stem =>
      rw [List.cons_append, List.cons.injEq] at split
      have onward : ∀ placeholder ∈ table, ∃ e ∈ placeholder.normalized.toList, e ∉ stem := by
        intro placeholder member
        obtain ⟨e, held, apart⟩ := foreign placeholder member
        exact ⟨e, held, fun inside => apart (List.mem_cons_of_mem d inside)⟩
      obtain ⟨inner, shape, rest'⟩ := ih onward split.2
      exact ⟨inner, by rw [split.1, shape]; rfl, rest'⟩

theorem dropMarker_append {token text behind : List Char}
    (dropped : dropMarker token text = some behind) (more : List Char) :
    dropMarker token (text ++ more) = some (behind ++ more) := by
  obtain ⟨marker, rfl, isMarker⟩ := dropMarker_eq_some_iff.1 dropped
  exact dropMarker_eq_some_iff.2 ⟨marker, List.append_assoc _ _ _, isMarker⟩

/-- A text without a marker at its front has none there when it is cut short. -/
theorem markerAt?_eq_none_of_append {text more : List Char}
    (absent : markerAt? table (text ++ more) = none) : markerAt? table text = none := by
  rw [markerAt?_eq_none_iff] at absent ⊢
  intro placeholder member
  cases found : dropMarker placeholder.token.toList text with
  | none => rfl
  | some behind =>
    have longer := dropMarker_append found more
    rw [absent placeholder member] at longer
    cases longer

/-- Up to a closing brace, substituted token text comes from what stood before the brace. -/
theorem split_substitute_close (separated : Separated table) {token text behind : List Char}
    (isTokenText : IsTokenText token)
    (split : substitute table text = token ++ '}' :: behind) :
    ∃ body rest, text = body ++ '}' :: rest ∧ substitute table body = token ∧
      substitute table rest = behind := by
  fun_induction Path.substitute table text generalizing token with
  | case1 => simp at split
  | case2 c rest placeholder rest' found ih =>
    obtain ⟨member, dropped⟩ := (markerAt?_eq_some_iff separated).1 found
    obtain ⟨tail, rfl, -, stands⟩ := dropMarker_cons (separated.token placeholder member) dropped
    rcases List.append_eq_append_iff.1 split with ⟨more, early, late⟩ | ⟨more, inside, brace⟩
    · rw [early, isTokenText_append] at isTokenText
      obtain ⟨body, others, rfl, replaced, same⟩ := ih isTokenText.2 late
      have cut : markerAt? table (c :: (tail ++ body)) = some (placeholder, body) :=
        (markerAt?_eq_some_iff separated).2 ⟨member, stands body⟩
      refine ⟨c :: (tail ++ body), others, by simp, ?_, same⟩
      rw [substitute_found cut, replaced, early]
    · cases more with
      | nil =>
        rw [List.append_nil] at inside
        obtain ⟨body, others, rfl, replaced, same⟩ := ih isTokenText_nil brace.symm
        have cut : markerAt? table (c :: (tail ++ body)) = some (placeholder, body) :=
          (markerAt?_eq_some_iff separated).2 ⟨member, stands body⟩
        refine ⟨c :: (tail ++ body), others, by simp, ?_, same⟩
        rw [substitute_found cut, replaced, List.append_nil, inside]
      | cons d more =>
        rw [List.cons_append, List.cons.injEq] at brace
        have held : '}' ∈ placeholder.normalized.toList := by
          rw [inside, ← brace.1]
          simp
        exact absurd rfl (separated.value placeholder member '}' held).2
  | case3 c rest absent ih =>
    cases token with
    | nil =>
      rw [List.nil_append, List.cons.injEq] at split
      exact ⟨[], rest, by rw [split.1]; rfl, by rw [Path.substitute], split.2⟩
    | cons d token =>
      rw [List.cons_append, List.cons.injEq] at split
      obtain ⟨body, behind, rfl, replaced, others⟩ := ih (isTokenText_cons.1 isTokenText).2 split.2
      refine ⟨c :: body, behind, rfl, ?_, others⟩
      rw [substitute_absent (markerAt?_eq_none_of_append absent), replaced, split.1]

theorem Separated.value_ne_nil (separated : Separated table) :
    ∀ placeholder ∈ table, placeholder.normalized.toList ≠ [] := by
  intro placeholder member
  obtain ⟨c, held, -⟩ := separated.foreign placeholder member
  exact List.ne_nil_of_mem held

/-- Every value holds a character that is in no opening. -/
theorem Separated.foreign_opening (separated : Separated table) {opening : List Char}
    (isOpening : IsOpening opening) :
    ∀ placeholder ∈ table, ∃ c ∈ placeholder.normalized.toList, c ∉ opening := by
  intro placeholder member
  obtain ⟨c, held, apart⟩ := separated.foreign placeholder member
  refine ⟨c, held, fun inside => apart placeholder member ?_⟩
  unfold longMarker
  rw [folded_append, folded_append]
  exact List.mem_append_left _ (List.mem_append_left _ (isOpening.fold_mem inside))

/-- A marker at the front of the substituted text comes from an opening and a closing there,
around what became its token. -/
theorem framed_of_dropAnyMarker_substitute (separated : Separated table)
    (barless : IsBarless table) {text token behind : List Char}
    (dropped : dropAnyMarker (substitute table text) = some (token, behind)) :
    ∃ opening body rest, IsOpening opening ∧ text = opening ++ body ++ closing ++ rest ∧
      substitute table body = token := by
  obtain ⟨isTokenText, opening, isOpening, split⟩ := dropAnyMarker_eq_some_iff.1 dropped
  obtain ⟨stem, shape, -⟩ := isOpening.shape
  have foreign : ∀ placeholder ∈ table, ∃ c ∈ placeholder.normalized.toList,
      c ∉ '{' :: '{' :: stem := by
    intro placeholder member
    obtain ⟨c, held, apart⟩ := separated.foreign_opening isOpening placeholder member
    refine ⟨c, held, fun inside => apart ?_⟩
    rw [shape]
    exact List.mem_append_left ['|'] inside
  have bar : substitute table text =
      ('{' :: '{' :: stem) ++ '|' :: (token ++ '}' :: '}' :: behind) := by
    rw [split, shape]
    simp [closing]
  obtain ⟨inner, front, others⟩ := split_substitute_bar separated barless foreign bar
  obtain ⟨body, ending, inside, replaced, close⟩ :=
    split_substitute_close separated isTokenText others
  obtain ⟨between, rest, last, gone, -⟩ := split_substitute_close separated isTokenText_nil
    (close : substitute table ending = [] ++ '}' :: behind)
  have adjacent : between = [] := by
    cases between with
    | nil => rfl
    | cons c between =>
      exact absurd gone (substitute_ne_nil separated separated.value_ne_nil (List.cons_ne_nil _ _))
  refine ⟨opening, body, rest, isOpening, ?_, replaced⟩
  rw [front, inside, last, adjacent, shape]
  simp [closing]

/-- Every marker in the substituted text is an unmatched marker left behind, or was completed. -/
theorem holdsMarker_of_substitute (separated : Separated table) (barless : IsBarless table)
    {text : List Char} (holds : HoldsMarker (substitute table text)) :
    (∃ token, HoldsMarkerOf token text ∧ ¬ Matches table token) ∨ Encloses table text := by
  have onward : ∀ {part whole : List Char}, part <:+: whole →
      (∃ token, HoldsMarkerOf token part ∧ ¬ Matches table token) ∨ Encloses table part →
      (∃ token, HoldsMarkerOf token whole ∧ ¬ Matches table token) ∨ Encloses table whole := by
    intro part whole inside found
    rcases found with ⟨token, holdsToken, unmatched⟩ | ⟨body, raw, replaced, framed⟩
    · exact Or.inl ⟨token, holdsToken.mono inside, unmatched⟩
    · exact Or.inr ⟨body, raw, replaced, framed.mono inside⟩
  fun_induction Path.substitute table text with
  | case1 =>
    obtain ⟨token, -, framed⟩ := holds
    exact absurd framed not_framed_nil
  | case2 c rest placeholder behind found ih =>
    obtain ⟨member, dropped⟩ := (markerAt?_eq_some_iff separated).1 found
    obtain ⟨tail, rfl, -, -⟩ := dropMarker_cons (separated.token placeholder member) dropped
    have value := (separated.value placeholder member).isPassive
    have later := ih ((holdsMarker_passive_append value).1 holds)
    exact onward ((List.suffix_append tail behind).trans (List.suffix_cons c _)).isInfix later
  | case3 c rest absent ih =>
    obtain ⟨token, holdsToken⟩ := holds
    rw [holdsMarkerOf_cons] at holdsToken
    rcases holdsToken with ⟨behind, dropped⟩ | later
    · rw [← substitute_absent absent] at dropped
      obtain ⟨opening, body, others, isOpening, shape, replaced⟩ :=
        framed_of_dropAnyMarker_substitute separated barless dropped
      have framed : Framed body (c :: rest) := ⟨opening, isOpening, [], others, shape.symm⟩
      have isTokenText : IsTokenText (substitute table body) := by
        rw [replaced]
        exact (dropAnyMarker_eq_some_iff.1 dropped).1
      by_cases allowed : IsTokenText body
      · -- A token already; had the table matched it, the marker would be gone.
        refine Or.inl ⟨body, ⟨allowed, framed⟩, ?_⟩
        rintro ⟨placeholder, member, same⟩
        have here : dropAnyMarker (c :: rest) = some (body, others) :=
          dropAnyMarker_eq_some_iff.2 ⟨allowed, opening, isOpening, shape⟩
        have found := dropMarker_of_dropAnyMarker here same.symm
        rw [markerAt?_eq_none_iff.1 absent placeholder member] at found
        cases found
      · exact Or.inr ⟨body, allowed, isTokenText, framed⟩
    · exact onward (List.suffix_cons c rest).isInfix (ih ⟨token, later⟩)

theorem substitute_close (rest : List Char) :
    substitute table ('}' :: rest) = '}' :: substitute table rest := by
  have close : IsPassive ['}'] := by
    unfold IsPassive
    decide +kernel
  exact substitute_passive close

/-- Where the substitution of a text is token text, it does not depend on what follows behind a
closing brace. -/
theorem substitute_append_close (separated : Separated table) {body : List Char}
    (isTokenText : IsTokenText (substitute table body)) (rest : List Char) :
    substitute table (body ++ '}' :: rest) =
      substitute table body ++ '}' :: substitute table rest := by
  fun_induction Path.substitute table body with
  | case1 => exact substitute_close rest
  | case2 c inner placeholder behind found ih =>
    obtain ⟨member, dropped⟩ := (markerAt?_eq_some_iff separated).1 found
    obtain ⟨tail, rfl, -, stands⟩ := dropMarker_cons (separated.token placeholder member) dropped
    have longer : markerAt? table (c :: (tail ++ (behind ++ '}' :: rest))) =
        some (placeholder, behind ++ '}' :: rest) :=
      (markerAt?_eq_some_iff separated).2 ⟨member, stands _⟩
    rw [List.cons_append, List.append_assoc, substitute_found longer,
      ih (isTokenText_append.1 isTokenText).2, List.append_assoc]
  | case3 c inner absent ih =>
    obtain ⟨allowed, later⟩ := isTokenText_cons.1 isTokenText
    have lone : IsTokenText [c] := isTokenText_cons.2 ⟨allowed, isTokenText_nil⟩
    have split : c :: inner ++ '}' :: rest = [c] ++ (inner ++ '}' :: rest) := rfl
    rw [split, substitute_passive lone.braceless.isPassive, ih later]
    rfl

/-- An opening around what is no token, but becomes one, does not begin a marker of the table. -/
theorem markerAt?_eq_none_of_encloses (barless : IsBarless table) {opening body : List Char}
    (isOpening : IsOpening opening) (raw : ¬ IsTokenText body)
    (replaced : IsTokenText (substitute table body)) (rest : List Char) :
    markerAt? table (opening ++ (body ++ '}' :: '}' :: rest)) = none := by
  rw [markerAt?_eq_none_iff]
  intro placeholder member
  cases found : dropMarker placeholder.token.toList (opening ++ (body ++ '}' :: '}' :: rest)) with
  | none => rfl
  | some behind =>
    obtain ⟨token, dropped, -⟩ := dropAnyMarker_of_dropMarker (barless.token _ member) found
    obtain ⟨allowed, front, isFront, shape⟩ := dropAnyMarker_eq_some_iff.1 dropped
    simp only [List.append_assoc] at shape
    have inner := isOpening.append_inj isFront shape
    -- The token ends at the first closing brace, and the body goes on behind it or ends there.
    rcases List.append_eq_append_iff.1 inner with ⟨more, longer, -⟩ | ⟨more, shorter, brace⟩
    · rw [longer, isTokenText_append] at allowed
      exact absurd allowed.1 raw
    · cases more with
      | nil =>
        rw [shorter, List.append_nil] at raw
        exact absurd allowed raw
      | cons c more =>
        have close : c = '}' := (List.cons.inj brace).1.symm
        rw [shorter, close, substitute_passive allowed.braceless.isPassive,
          isTokenText_append] at replaced
        rw [substitute_close, isTokenText_cons] at replaced
        cases replaced.2.1

/-- A marker that is completed by substitution is in the substituted text. -/
theorem Encloses.holdsMarker (separated : Separated table) (barless : IsBarless table)
    {text : List Char} (encloses : Encloses table text) : HoldsMarker (substitute table text) := by
  obtain ⟨body, raw, replaced, framed⟩ := encloses
  fun_induction Path.substitute table text with
  | case1 => exact absurd framed not_framed_nil
  | case2 c rest placeholder behind found ih =>
    obtain ⟨member, dropped⟩ := (markerAt?_eq_some_iff separated).1 found
    obtain ⟨tail, rfl, passive, -⟩ := dropMarker_cons (separated.token placeholder member) dropped
    rw [framed_cons, framed_passive_append passive] at framed
    rcases framed with ⟨opening, isOpening, others, shape⟩ | later
    · have absent := markerAt?_eq_none_of_encloses barless isOpening raw replaced others
      simp only [closing, List.append_assoc, List.cons_append, List.nil_append] at shape
      rw [shape, found] at absent
      cases absent
    · exact (ih later).mono (List.suffix_append _ _).isInfix
  | case3 c rest absent ih =>
    rcases framed_cons.1 framed with ⟨opening, isOpening, others, shape⟩ | later
    · obtain ⟨tail, rfl, passive⟩ := isOpening.passive_tail
      simp only [closing, List.append_assoc, List.cons_append, List.nil_append,
        List.cons.injEq] at shape
      obtain ⟨rfl, rfl⟩ := shape
      rw [substitute_passive passive, substitute_append_close separated replaced,
        substitute_close]
      exact ⟨substitute table body, replaced, _, isOpening, [], substitute table others,
        by simp [closing]⟩
    · exact (ih later).mono (List.suffix_cons c _).isInfix

/-- What substitution leaves: the markers that the table does not match, and those that it
completes. -/
theorem holdsMarker_substitute_iff (separated : Separated table) (barless : IsBarless table)
    {text : List Char} :
    HoldsMarker (substitute table text) ↔
      (∃ token, HoldsMarkerOf token text ∧ ¬ Matches table token) ∨ Encloses table text := by
  constructor
  · exact holdsMarker_of_substitute separated barless
  · rintro (⟨token, holds, unmatched⟩ | encloses)
    · exact ⟨token, holds.substitute separated barless unmatched⟩
    · exact encloses.holdsMarker separated barless

end SaveManifest.Path
