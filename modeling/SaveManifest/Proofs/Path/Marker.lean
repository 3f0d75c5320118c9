import SaveManifest.Path.Resolution

/-!
# Markers in a text

A marker of a token is a stretch of text that folds to one of the two forms of the marker. Where
tokens hold no braces, a marker opens with its only `{{` and ends with its only `}}`; so two markers
at one place belong to one token (`dropMarker_unique`), and no marker begins inside another one
or inside text without `{{` (`IsPassive`). Both scans for markers step over passive text as a whole.
-/

namespace SaveManifest.Text

/-- A text with every character replaced by the representative of its case. -/
def folded (text : List Char) : List Char := text.map fold

@[simp] theorem folded_nil : folded [] = [] := rfl

@[simp] theorem folded_cons (c : Char) (text : List Char) :
    folded (c :: text) = fold c :: folded text := rfl

@[simp] theorem folded_append (front back : List Char) :
    folded (front ++ back) = folded front ++ folded back := List.map_append

theorem mem_folded {c : Char} {text : List Char} (member : c ∈ text) : fold c ∈ folded text :=
  List.mem_map_of_mem member

/-- Dropping a pattern takes a stretch of text that folds alike from the front. -/
theorem dropFolded_eq_some_iff {pattern text rest : List Char} :
    dropFolded pattern text = some rest ↔
      ∃ front, text = front ++ rest ∧ folded front = folded pattern := by
  induction pattern generalizing text with
  | nil =>
    constructor
    · intro success
      exact ⟨[], by simpa [dropFolded] using success, rfl⟩
    · rintro ⟨front, rfl, same⟩
      have nothing : front = [] := List.map_eq_nil_iff.1 same
      simp [nothing, dropFolded]
  | cons p pattern ih =>
    constructor
    · intro success
      cases text with
      | nil => simp [dropFolded] at success
      | cons c text =>
        rw [dropFolded] at success
        split at success
        · next same =>
          obtain ⟨front, rfl, fits⟩ := ih.1 success
          exact ⟨c :: front, rfl, by rw [folded_cons, folded_cons, same, fits]⟩
        · simp at success
    · rintro ⟨front, rfl, same⟩
      cases front with
      | nil => simp at same
      | cons c front =>
        rw [folded_cons, folded_cons, List.cons.injEq] at same
        rw [List.cons_append, dropFolded, if_pos same.1.symm]
        exact ih.2 ⟨front, rfl, same.2⟩

end SaveManifest.Text

namespace SaveManifest.Path

open SaveManifest.Text

def IsMarker (token marker : List Char) : Prop :=
  folded marker = folded (shortMarker token) ∨ folded marker = folded (longMarker token)

/-- The two forms differ in the character behind the `P`. -/
theorem shortOpening_append_ne (back rest : List Char) :
    folded shortOpening ++ back ≠ folded longOpening ++ rest := by
  intro same
  have fourth : fold '|' = fold 'a' := by
    simp [shortOpening, longOpening] at same
    exact same.1
  exact absurd fourth (by decide +kernel)

theorem dropFolded_short_of_long {token other marker rest : List Char}
    (long : folded marker = folded (longMarker token)) :
    dropFolded (shortMarker other) (marker ++ rest) = none := by
  cases found : dropFolded (shortMarker other) (marker ++ rest) with
  | none => rfl
  | some behind =>
    obtain ⟨front, shape, short⟩ := dropFolded_eq_some_iff.1 found
    have texts := congrArg folded shape
    simp only [folded_append, short, long, shortMarker, longMarker, List.append_assoc] at texts
    exact absurd texts.symm (shortOpening_append_ne _ _)

/-- Dropping a marker takes a marker from the front. -/
theorem dropMarker_eq_some_iff {token text rest : List Char} :
    dropMarker token text = some rest ↔
      ∃ marker, text = marker ++ rest ∧ IsMarker token marker := by
  rw [dropMarker, Option.or_eq_some_iff, dropFolded_eq_some_iff, dropFolded_eq_some_iff]
  constructor
  · rintro (⟨marker, shape, short⟩ | ⟨_, marker, shape, long⟩)
    · exact ⟨marker, shape, Or.inl short⟩
    · exact ⟨marker, shape, Or.inr long⟩
  · rintro ⟨marker, shape, short | long⟩
    · exact Or.inl ⟨marker, shape, short⟩
    · refine Or.inr ⟨?_, marker, shape, long⟩
      rw [shape]
      exact dropFolded_short_of_long long

def Braceless (text : List Char) : Prop :=
  ∀ c ∈ text, fold c ≠ fold '{' ∧ fold c ≠ fold '}'

instance (text : List Char) : Decidable (Braceless text) :=
  List.decidableBAll (fun c => fold c ≠ fold '{' ∧ fold c ≠ fold '}') text

theorem Braceless.of_folded {text other : List Char} (braceless : Braceless other)
    (same : folded text = folded other) : Braceless text := by
  intro c member
  have image : fold c ∈ folded other := same ▸ mem_folded member
  obtain ⟨d, inside, equal⟩ := List.mem_map.1 image
  rw [← equal]
  exact braceless d inside

theorem Braceless.append {front back : List Char} (left : Braceless front)
    (right : Braceless back) : Braceless (front ++ back) := by
  intro c member
  rcases List.mem_append.1 member with early | late
  · exact left c early
  · exact right c late

/-- What stands between the braces of a marker of a token. -/
def IsBody (token body : List Char) : Prop :=
  folded body = folded ('P' :: '|' :: token) ∨
    folded body = folded ('P' :: 'a' :: 't' :: 'h' :: '|' :: token)

theorem IsBody.braceless {token body : List Char} (isBody : IsBody token body)
    (braceless : Braceless token) : Braceless body := by
  rcases isBody with short | long
  · have front : Braceless ['P', '|'] := by decide +kernel
    exact (front.append braceless).of_folded short
  · have front : Braceless ['P', 'a', 't', 'h', '|'] := by decide +kernel
    exact (front.append braceless).of_folded long

theorem IsBody.ne_nil {token body : List Char} (isBody : IsBody token body) : body ≠ [] := by
  rintro rfl
  rcases isBody with short | long
  · simp at short
  · simp at long

/-- A body belongs to one token. -/
theorem IsBody.token_unique {token other body : List Char} (left : IsBody token body)
    (right : IsBody other body) : folded token = folded other := by
  have apart : fold '|' ≠ fold 'a' := by decide +kernel
  rcases left with left | left <;> rcases right with right | right
  · simpa using left.symm.trans right
  · have second := left.symm.trans right
    simp only [folded_cons, List.cons.injEq] at second
    exact absurd second.2.1 apart
  · have second := right.symm.trans left
    simp only [folded_cons, List.cons.injEq] at second
    exact absurd second.2.1 apart
  · simpa using left.symm.trans right

/-- A marker is a body between two pairs of braces. -/
theorem IsMarker.shape {token marker : List Char} (isMarker : IsMarker token marker) :
    ∃ a b body y z, marker = a :: b :: (body ++ [y, z]) ∧ IsBody token body ∧
      fold a = fold '{' ∧ fold b = fold '{' ∧ fold y = fold '}' ∧ fold z = fold '}' := by
  have split : ∀ inner : List Char, folded marker = folded ('{' :: '{' :: (inner ++ ['}', '}'])) →
      ∃ a b body y z, marker = a :: b :: (body ++ [y, z]) ∧ folded body = folded inner ∧
        fold a = fold '{' ∧ fold b = fold '{' ∧ fold y = fold '}' ∧ fold z = fold '}' := by
    intro inner same
    simp only [folded_cons, folded_append, folded_nil] at same
    obtain ⟨a, marker, rfl, opens, same⟩ := List.map_eq_cons_iff.1 same
    obtain ⟨b, marker, rfl, opensToo, same⟩ := List.map_eq_cons_iff.1 same
    obtain ⟨body, ending, rfl, isInner, same⟩ := List.map_eq_append_iff.1 same
    obtain ⟨y, ending, rfl, closes, same⟩ := List.map_eq_cons_iff.1 same
    obtain ⟨z, ending, rfl, closesToo, same⟩ := List.map_eq_cons_iff.1 same
    obtain rfl := List.map_eq_nil_iff.1 same
    exact ⟨a, b, body, y, z, rfl, isInner, opens, opensToo, closes, closesToo⟩
  rcases isMarker with short | long
  · obtain ⟨a, b, body, y, z, shape, isInner, braces⟩ := split ('P' :: '|' :: token) short
    exact ⟨a, b, body, y, z, shape, Or.inl isInner, braces⟩
  · obtain ⟨a, b, body, y, z, shape, isInner, braces⟩ :=
      split ('P' :: 'a' :: 't' :: 'h' :: '|' :: token) long
    exact ⟨a, b, body, y, z, shape, Or.inr isInner, braces⟩

/-- Braceless text in front of a closing brace ends where the first brace stands. -/
theorem Braceless.append_inj {left right leftRest rightRest : List Char} {y z : Char}
    (leftFree : Braceless left) (rightFree : Braceless right) (leftCloses : fold y = fold '}')
    (rightCloses : fold z = fold '}') (same : left ++ y :: leftRest = right ++ z :: rightRest) :
    left = right ∧ leftRest = rightRest := by
  induction left generalizing right with
  | nil =>
    cases right with
    | nil =>
      simp only [List.nil_append, List.cons.injEq] at same
      exact ⟨rfl, same.2⟩
    | cons c right =>
      simp only [List.nil_append, List.cons_append, List.cons.injEq] at same
      exact absurd (same.1 ▸ leftCloses) (rightFree c List.mem_cons_self).2
  | cons c left ih =>
    cases right with
    | nil =>
      simp only [List.nil_append, List.cons_append, List.cons.injEq] at same
      exact absurd (same.1 ▸ rightCloses) (leftFree c List.mem_cons_self).2
    | cons d right =>
      simp only [List.cons_append, List.cons.injEq] at same
      have tails := ih (fun e member => leftFree e (List.mem_cons_of_mem _ member))
        (fun e member => rightFree e (List.mem_cons_of_mem _ member)) same.2
      exact ⟨by rw [same.1, tails.1], tails.2⟩

/-- Markers at one place belong to one token and end at one place. -/
theorem dropMarker_unique {token other text rest behind : List Char} (tokenFree : Braceless token)
    (otherFree : Braceless other) (left : dropMarker token text = some rest)
    (right : dropMarker other text = some behind) :
    folded token = folded other ∧ rest = behind := by
  obtain ⟨marker, rfl, isMarker⟩ := dropMarker_eq_some_iff.1 left
  obtain ⟨second, same, isSecond⟩ := dropMarker_eq_some_iff.1 right
  obtain ⟨a, b, body, y, z, rfl, isBody, -, -, closes, -⟩ := isMarker.shape
  obtain ⟨c, d, inner, v, w, rfl, isInner, -, -, closesToo, -⟩ := isSecond.shape
  simp only [List.cons_append, List.append_assoc, List.nil_append, List.cons.injEq] at same
  obtain ⟨rfl, rests⟩ := (isBody.braceless tokenFree).append_inj (isInner.braceless otherFree)
    closes closesToo same.2.2
  simp only [List.cons.injEq] at rests
  exact ⟨isBody.token_unique isInner, rests.2⟩

/-- A text in which no marker can begin, whatever follows it: no opening brace stands next to
another, and none stands at the end. -/
def IsPassive : List Char → Prop
  | [] => True
  | [c] => fold c ≠ fold '{'
  | c :: d :: rest => (fold c ≠ fold '{' ∨ fold d ≠ fold '{') ∧ IsPassive (d :: rest)

theorem IsPassive.of_no_opening {text : List Char} (none : ∀ c ∈ text, fold c ≠ fold '{') :
    IsPassive text := by
  induction text with
  | nil => trivial
  | cons c rest ih =>
    have tail := ih fun d member => none d (List.mem_cons_of_mem _ member)
    cases rest with
    | nil => exact none c List.mem_cons_self
    | cons d rest => exact ⟨Or.inl (none c List.mem_cons_self), tail⟩

theorem Braceless.isPassive {text : List Char} (braceless : Braceless text) : IsPassive text :=
  .of_no_opening fun c member => (braceless c member).1

theorem IsPassive.tail {c : Char} {rest : List Char} (passive : IsPassive (c :: rest)) :
    IsPassive rest := by
  cases rest with
  | nil => trivial
  | cons d rest => exact passive.2

/-- Behind its first brace, a marker is passive. -/
theorem IsMarker.passive_tail {token marker : List Char} (isMarker : IsMarker token marker)
    (braceless : Braceless token) : ∃ c tail, marker = c :: tail ∧ IsPassive tail := by
  obtain ⟨a, b, body, y, z, shape, isBody, -, -, closes, closesToo⟩ := isMarker.shape
  have free := isBody.braceless braceless
  have apart : fold '}' ≠ fold '{' := by decide +kernel
  have behind : IsPassive (body ++ [y, z]) := by
    refine .of_no_opening fun c member => ?_
    simp only [List.mem_append, List.mem_cons, List.not_mem_nil, or_false] at member
    rcases member with inside | rfl | rfl
    · exact (free c inside).1
    · rwa [closes]
    · rwa [closesToo]
  refine ⟨a, b :: (body ++ [y, z]), shape, ?_⟩
  cases body with
  | nil => exact absurd rfl isBody.ne_nil
  | cons c inner => exact ⟨Or.inr (free c List.mem_cons_self).1, behind⟩

/-- A marker at the front of a text is its first character and a passive stretch. -/
theorem dropMarker_cons {token rest behind : List Char} {c : Char} (braceless : Braceless token)
    (dropped : dropMarker token (c :: rest) = some behind) :
    ∃ tail, rest = tail ++ behind ∧ IsPassive tail ∧
      ∀ other, dropMarker token (c :: (tail ++ other)) = some other := by
  obtain ⟨marker, shape, isMarker⟩ := dropMarker_eq_some_iff.1 dropped
  obtain ⟨d, tail, rfl, passive⟩ := isMarker.passive_tail braceless
  rw [List.cons_append, List.cons.injEq] at shape
  obtain ⟨rfl, rfl⟩ := shape
  exact ⟨tail, rfl, passive, fun other => dropMarker_eq_some_iff.2 ⟨c :: tail, rfl, isMarker⟩⟩

/-- A marker needs an opening brace at each of its first two places. -/
theorem dropMarker_eq_none {token text : List Char}
    (closed : ∀ a b rest, text = a :: b :: rest → fold a ≠ fold '{' ∨ fold b ≠ fold '{') :
    dropMarker token text = none := by
  cases found : dropMarker token text with
  | none => rfl
  | some behind =>
    obtain ⟨marker, rfl, isMarker⟩ := dropMarker_eq_some_iff.1 found
    obtain ⟨a, b, body, y, z, rfl, -, opens, opensToo, -⟩ := isMarker.shape
    rcases closed a b _ rfl with first | second
    · exact absurd opens first
    · exact absurd opensToo second

theorem dropMarker_passive {token rest : List Char} {c : Char} {tail : List Char}
    (passive : IsPassive (c :: tail)) : dropMarker token (c :: (tail ++ rest)) = none := by
  refine dropMarker_eq_none fun a b behind shape => ?_
  cases tail with
  | nil =>
    simp only [List.nil_append, List.cons.injEq] at shape
    exact Or.inl (shape.1 ▸ passive)
  | cons d tail =>
    simp only [List.cons_append, List.cons.injEq] at shape
    obtain ⟨rfl, rfl, -⟩ := shape
    exact passive.1

theorem hasMarker_passive {token text rest : List Char} (passive : IsPassive text) :
    hasMarker token (text ++ rest) = hasMarker token rest := by
  induction text with
  | nil => rfl
  | cons c tail ih =>
    rw [List.cons_append, hasMarker, dropMarker_passive passive, ih passive.tail]
    rfl

end SaveManifest.Path
