import SaveManifest.Proofs.Path.Marker

/-!
# Substitution of all markers at once

For a table whose tokens and values keep apart (`Separated`), replacing the markers of some
placeholders neither makes nor breaks a marker of another one (`hasMarker_substitute`). So
substitution with one table and then with a second is substitution with both
(`substitute_append`), and the order of a table does not matter to it (`substitute_congr`).

The reason is local. A value holds no brace, so a marker that reached into a value would have to
span it; but a value holds a character that is in no marker.
-/

namespace SaveManifest.Path

open SaveManifest.Text

/-- A table of placeholders that do not interfere: tokens and values hold no braces, every value
holds a character that no marker holds, and no two placeholders share a token. -/
structure Separated (table : List Placeholder) : Prop where
  token : ∀ placeholder ∈ table, Braceless placeholder.token.toList
  value : ∀ placeholder ∈ table, Braceless placeholder.normalized.toList
  foreign : ∀ placeholder ∈ table, ∃ c ∈ placeholder.normalized.toList, ∀ other ∈ table,
    fold c ∉ folded (longMarker other.token.toList)
  distinct : ∀ placeholder ∈ table, ∀ other ∈ table,
    folded placeholder.token.toList = folded other.token.toList → placeholder = other

theorem Separated.subset {table part : List Placeholder} (separated : Separated table)
    (inside : part ⊆ table) : Separated part where
  token placeholder member := separated.token placeholder (inside member)
  value placeholder member := separated.value placeholder (inside member)
  foreign placeholder member := by
    obtain ⟨c, held, apart⟩ := separated.foreign placeholder (inside member)
    exact ⟨c, held, fun other another => apart other (inside another)⟩
  distinct placeholder member other another :=
    separated.distinct placeholder (inside member) other (inside another)

/-- The known placeholders do not interfere: their values hold `<` or `_`. -/
theorem separated_known : Separated Placeholder.known where
  token := by decide +kernel
  value := by decide +kernel
  foreign placeholder member := by
    have held : ∀ placeholder ∈ Placeholder.known,
        '<' ∈ placeholder.normalized.toList ∨ '_' ∈ placeholder.normalized.toList := by
      decide +kernel
    have apart : ∀ other ∈ Placeholder.known,
        fold '<' ∉ folded (longMarker other.token.toList) ∧
          fold '_' ∉ folded (longMarker other.token.toList) := by
      decide +kernel
    rcases held placeholder member with angle | line
    · exact ⟨'<', angle, fun other another => (apart other another).1⟩
    · exact ⟨'_', line, fun other another => (apart other another).2⟩
  distinct := by decide +kernel

variable {table first second : List Placeholder}

theorem markerAt?_eq_none_iff {text : List Char} :
    markerAt? table text = none ↔
      ∀ placeholder ∈ table, dropMarker placeholder.token.toList text = none := by
  rw [markerAt?, List.findSome?_eq_none_iff]
  simp only [Option.map_eq_none_iff]

/-- No text begins with the markers of two placeholders. -/
theorem eq_of_dropMarker (separated : Separated table) {placeholder other : Placeholder}
    (member : placeholder ∈ table) (another : other ∈ table) {text behind rest : List Char}
    (dropped : dropMarker placeholder.token.toList text = some behind)
    (droppedToo : dropMarker other.token.toList text = some rest) :
    placeholder = other ∧ behind = rest := by
  obtain ⟨tokens, rests⟩ := dropMarker_unique (separated.token placeholder member)
    (separated.token other another) dropped droppedToo
  exact ⟨separated.distinct placeholder member other another tokens, rests⟩

theorem dropMarker_of_markerAt? {text : List Char} {placeholder : Placeholder}
    {behind : List Char} (found : markerAt? table text = some (placeholder, behind)) :
    placeholder ∈ table ∧ dropMarker placeholder.token.toList text = some behind := by
  obtain ⟨other, member, matched⟩ := List.exists_of_findSome?_eq_some found
  obtain ⟨rest, dropped, same⟩ := Option.map_eq_some_iff.1 matched
  rw [Prod.mk.injEq] at same
  obtain ⟨rfl, rfl⟩ := same
  exact ⟨member, dropped⟩

/-- Where tokens keep apart, the marker at the front of a text names the placeholder. -/
theorem markerAt?_eq_some_iff (separated : Separated table) {text : List Char}
    {placeholder : Placeholder} {behind : List Char} :
    markerAt? table text = some (placeholder, behind) ↔
      placeholder ∈ table ∧ dropMarker placeholder.token.toList text = some behind := by
  constructor
  · exact dropMarker_of_markerAt?
  · rintro ⟨member, dropped⟩
    cases found : markerAt? table text with
    | none => rw [markerAt?_eq_none_iff.1 found placeholder member] at dropped; cases dropped
    | some pair =>
      obtain ⟨other, another, matched⟩ := List.exists_of_findSome?_eq_some found
      obtain ⟨rest, droppedToo, rfl⟩ := Option.map_eq_some_iff.1 matched
      obtain ⟨rfl, rfl⟩ := eq_of_dropMarker separated another member droppedToo dropped
      rfl

theorem substitute_found {text behind : List Char} {placeholder : Placeholder}
    (found : markerAt? table text = some (placeholder, behind)) :
    substitute table text = placeholder.normalized.toList ++ substitute table behind := by
  cases text with
  | nil =>
    have shorter := markerAt?_length found
    simp at shorter
  | cons c rest =>
    rw [substitute]
    split
    · next other rest' again =>
      rw [found] at again
      cases again
      rfl
    · next absent => rw [found] at absent; cases absent

theorem substitute_absent {c : Char} {rest : List Char}
    (absent : markerAt? table (c :: rest) = none) :
    substitute table (c :: rest) = c :: substitute table rest := by
  rw [substitute]
  split
  · next found => rw [absent] at found; cases found
  · rfl

theorem substitute_passive {text rest : List Char} (passive : IsPassive text) :
    substitute table (text ++ rest) = text ++ substitute table rest := by
  induction text with
  | nil => rfl
  | cons c tail ih =>
    have absent : markerAt? table (c :: (tail ++ rest)) = none :=
      markerAt?_eq_none_iff.2 fun placeholder _ => dropMarker_passive passive
    rw [List.cons_append, substitute_absent absent, ih passive.tail, List.cons_append]

/-- One table in two orders substitutes alike. -/
theorem substitute_congr (separated : Separated first)
    (same : ∀ placeholder, placeholder ∈ first ↔ placeholder ∈ second) (text : List Char) :
    substitute first text = substitute second text := by
  have separatedToo : Separated second := separated.subset fun _ member => (same _).2 member
  have markers : ∀ text, markerAt? first text = markerAt? second text := by
    intro text
    cases found : markerAt? second text with
    | none =>
      refine markerAt?_eq_none_iff.2 fun placeholder member => ?_
      exact markerAt?_eq_none_iff.1 found placeholder ((same placeholder).1 member)
    | some pair =>
      obtain ⟨member, dropped⟩ := (markerAt?_eq_some_iff separatedToo).1 found
      exact (markerAt?_eq_some_iff separated).2 ⟨(same _).2 member, dropped⟩
  fun_induction substitute first text with
  | case1 => rw [substitute]
  | case2 c rest placeholder behind found ih =>
    rw [substitute_found ((markers _).symm.trans found), ih]
  | case3 c rest absent ih =>
    rw [substitute_absent ((markers _).symm.trans absent), ih]

/-- A pattern that ends in a closing brace, or nothing. -/
def Closes (pattern : List Char) : Prop := pattern = [] ∨ ∃ front, pattern = front ++ ['}']

theorem Closes.tail {p : Char} {pattern : List Char} (closes : Closes (p :: pattern)) :
    Closes pattern := by
  rcases closes with nothing | ⟨front, shape⟩
  · cases nothing
  · cases front with
    | nil =>
      rw [List.nil_append, List.cons.injEq] at shape
      exact Or.inl shape.2
    | cons q front =>
      rw [List.cons_append, List.cons.injEq] at shape
      exact Or.inr ⟨front, shape.2⟩

/-- A pattern that closes cannot begin in a value: it would have to span the value, with the
foreign character in it. -/
theorem Closes.eq_nil_of_value {pattern value rest : List Char} {c : Char}
    (closes : Closes pattern) (braceless : Braceless value) (held : c ∈ value)
    (foreign : fold c ∉ folded pattern)
    (success : (dropFolded pattern (value ++ rest)).isSome) : pattern = [] := by
  rcases closes with nothing | ⟨front, rfl⟩
  · exact nothing
  · obtain ⟨behind, dropped⟩ := Option.isSome_iff_exists.1 success
    obtain ⟨taken, shape, same⟩ := dropFolded_eq_some_iff.1 dropped
    rcases List.append_eq_append_iff.1 shape with ⟨more, spans, -⟩ | ⟨more, within, -⟩
    · rw [← same, spans, folded_append] at foreign
      exact absurd (List.mem_append_left _ (mem_folded held)) foreign
    · rw [folded_append] at same
      obtain ⟨_, last, parts, -, ending⟩ := List.map_eq_append_iff.1 same
      obtain ⟨z, rest', one, closing, -⟩ := List.map_eq_cons_iff.1 ending
      have member : z ∈ value := by
        rw [within, parts, one]
        simp
      exact absurd closing (braceless z member).2

/-- A pattern that closes and is foreign to the values is found behind a substitution only where
it stood before. -/
theorem dropFolded_of_substitute (separated : Separated table) (pattern text : List Char)
    (closes : Closes pattern)
    (foreign : ∀ placeholder ∈ table, ∃ c ∈ placeholder.normalized.toList,
      fold c ∉ folded pattern)
    (success : (dropFolded pattern (substitute table text)).isSome) :
    (dropFolded pattern text).isSome := by
  fun_induction substitute table text generalizing pattern with
  | case1 => exact success
  | case2 c rest placeholder behind found ih =>
    obtain ⟨member, -⟩ := (markerAt?_eq_some_iff separated).1 found
    obtain ⟨d, held, apart⟩ := foreign placeholder member
    have nothing := closes.eq_nil_of_value (separated.value placeholder member) held apart success
    rw [nothing, dropFolded]
    rfl
  | case3 c rest absent ih =>
    cases pattern with
    | nil => rfl
    | cons p pattern =>
      rw [dropFolded] at success ⊢
      split at success
      · next same =>
        rw [if_pos same]
        refine ih pattern closes.tail (fun placeholder member => ?_) success
        obtain ⟨d, held, apart⟩ := foreign placeholder member
        exact ⟨d, held, fun inside => apart (List.mem_cons_of_mem _ inside)⟩
      · cases success

theorem folded_shortMarker_subset (token : List Char) :
    folded (shortMarker token) ⊆ folded (longMarker token) := by
  have opening : shortOpening ⊆ longOpening := by decide
  apply List.map_subset
  intro c member
  rw [shortMarker, List.append_assoc, List.mem_append] at member
  rw [longMarker, List.append_assoc, List.mem_append]
  rcases member with front | behind
  · exact Or.inl (opening front)
  · exact Or.inr behind

/-- Substitution makes no marker. -/
theorem dropMarker_of_substitute (separated : Separated table) (inside : first ⊆ table)
    {placeholder : Placeholder} (member : placeholder ∈ table) {text : List Char}
    (success : (dropMarker placeholder.token.toList (substitute first text)).isSome) :
    (dropMarker placeholder.token.toList text).isSome := by
  have apart : ∀ other ∈ first, ∃ c ∈ other.normalized.toList,
      fold c ∉ folded (longMarker placeholder.token.toList) := by
    intro other another
    obtain ⟨c, held, foreign⟩ := separated.foreign other (inside another)
    exact ⟨c, held, foreign placeholder member⟩
  have short := dropFolded_of_substitute (separated.subset inside)
    (shortMarker placeholder.token.toList) text
    (Or.inr ⟨shortOpening ++ placeholder.token.toList ++ ['}'], by simp [shortMarker, closing]⟩)
    fun other another => by
      obtain ⟨c, held, foreign⟩ := apart other another
      exact ⟨c, held, fun found => foreign (folded_shortMarker_subset _ found)⟩
  have long := dropFolded_of_substitute (separated.subset inside)
    (longMarker placeholder.token.toList) text
    (Or.inr ⟨longOpening ++ placeholder.token.toList ++ ['}'], by simp [longMarker, closing]⟩)
    apart
  rw [dropMarker, Option.isSome_or, Bool.or_eq_true] at success ⊢
  exact success.imp short long

/-- What is left of the markers after a substitution: those of the placeholders that were not
replaced, all of them. -/
theorem hasMarker_substitute (separated : Separated table) (inside : first ⊆ table)
    {placeholder : Placeholder} (member : placeholder ∈ table) (text : List Char) :
    hasMarker placeholder.token.toList (substitute first text) = true ↔
      hasMarker placeholder.token.toList text = true ∧ placeholder ∉ first := by
  fun_induction substitute first text with
  | case1 => simp [hasMarker]
  | case2 c rest other behind found ih =>
    obtain ⟨another, dropped⟩ := (markerAt?_eq_some_iff (separated.subset inside)).1 found
    have value := separated.value other (inside another)
    have braceless := separated.token other (inside another)
    obtain ⟨tail, rfl, passive, -⟩ := dropMarker_cons braceless dropped
    rw [hasMarker_passive value.isPassive, ih, hasMarker, hasMarker_passive passive]
    constructor
    · rintro ⟨later, kept⟩
      exact ⟨by rw [later, Bool.or_true], kept⟩
    · rintro ⟨somewhere, kept⟩
      have notHere : dropMarker placeholder.token.toList (c :: (tail ++ behind)) = none := by
        cases here : dropMarker placeholder.token.toList (c :: (tail ++ behind)) with
        | none => rfl
        | some rest' =>
          obtain ⟨rfl, -⟩ := eq_of_dropMarker separated member (inside another) here dropped
          exact absurd another kept
      rw [notHere, Option.isSome_none, Bool.false_or] at somewhere
      exact ⟨somewhere, kept⟩
  | case3 c rest absent ih =>
    have kept : placeholder ∈ first → dropMarker placeholder.token.toList (c :: rest) = none :=
      markerAt?_eq_none_iff.1 absent placeholder
    rw [hasMarker, hasMarker, Bool.or_eq_true, Bool.or_eq_true, ih]
    constructor
    · rintro (here | later)
      · rw [← substitute_absent absent] at here
        have before := dropMarker_of_substitute separated inside member here
        refine ⟨Or.inl before, fun replaced => ?_⟩
        rw [kept replaced] at before
        cases before
      · exact ⟨Or.inr later.1, later.2⟩
    · rintro ⟨here | later, notReplaced⟩
      · obtain ⟨behind, dropped⟩ := Option.isSome_iff_exists.1 here
        obtain ⟨tail, rfl, passive, stands⟩ :=
          dropMarker_cons (separated.token placeholder member) dropped
        rw [substitute_passive passive, stands]
        exact Or.inl rfl
      · exact Or.inr ⟨later, notReplaced⟩

/-- Substitution with one table and then with another is substitution with both. -/
theorem substitute_append (separated : Separated (first ++ second)) (text : List Char) :
    substitute second (substitute first text) = substitute (first ++ second) text := by
  have left : first ⊆ first ++ second := List.subset_append_left _ _
  have right : second ⊆ first ++ second := List.subset_append_right _ _
  fun_induction substitute first text with
  | case1 => rw [substitute, substitute]
  | case2 c rest placeholder behind found ih =>
    obtain ⟨member, dropped⟩ := (markerAt?_eq_some_iff (separated.subset left)).1 found
    have value := separated.value placeholder (left member)
    rw [substitute_passive value.isPassive, ih]
    exact (substitute_found ((markerAt?_eq_some_iff separated).2 ⟨left member, dropped⟩)).symm
  | case3 c rest absent ih =>
    cases here : markerAt? second (c :: rest) with
    | none =>
      have gone : markerAt? second (c :: substitute first rest) = none := by
        refine markerAt?_eq_none_iff.2 fun placeholder member => ?_
        have before := markerAt?_eq_none_iff.1 here placeholder member
        rw [← substitute_absent absent, ← Option.not_isSome_iff_eq_none]
        intro made
        have stood := dropMarker_of_substitute separated left (right member) made
        rw [before] at stood
        cases stood
      have neither : markerAt? (first ++ second) (c :: rest) = none := by
        rw [markerAt?_eq_none_iff] at absent here ⊢
        intro placeholder member
        rcases List.mem_append.1 member with early | late
        · exact absent placeholder early
        · exact here placeholder late
      rw [substitute_absent gone, substitute_absent neither, ih]
    | some pair =>
      obtain ⟨placeholder, behind⟩ := pair
      obtain ⟨member, dropped⟩ := (markerAt?_eq_some_iff (separated.subset right)).1 here
      obtain ⟨tail, rfl, passive, stands⟩ :=
        dropMarker_cons (separated.token placeholder (right member)) dropped
      -- The induction hypothesis is about the text behind one character; what stands of the
      -- marker in it is copied by all three substitutions and can be cancelled.
      rw [substitute_passive passive, substitute_passive passive, substitute_passive passive] at ih
      have later := List.append_cancel_left ih
      have still : markerAt? second (c :: (tail ++ substitute first behind)) =
          some (placeholder, substitute first behind) :=
        (markerAt?_eq_some_iff (separated.subset right)).2 ⟨member, stands _⟩
      have both : markerAt? (first ++ second) (c :: (tail ++ behind)) =
          some (placeholder, behind) :=
        (markerAt?_eq_some_iff separated).2 ⟨right member, dropped⟩
      rw [substitute_passive passive, substitute_found still, substitute_found both, later]

end SaveManifest.Path
