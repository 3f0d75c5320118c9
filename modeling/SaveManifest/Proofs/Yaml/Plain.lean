import SaveManifest.Proofs.Yaml.Passage

/-!
# Reading plain scalars

A text that may be written without quotes is read back as it is, in front of the colon of a key
and at the end of a line (`readPlain_of_plainAllowed`).
-/

namespace SaveManifest.Yaml

variable {margin : Option Int} {fuel : Nat} {between : Between} {cursor : Cursor}
  {rest : List Char}

/-- Neither a gap nor a line break comes next. -/
def atWord (text : List Char) : Bool := text.head?.all fun c => !(isGap c || isBreak c)

theorem atWord_of_atToken (token : atToken rest = true) : atWord rest = true := by
  unfold atToken at token
  unfold atWord
  cases front : rest.head? with
  | none => rfl
  | some c =>
    rw [front] at token
    simp only [Option.all_some, Bool.not_or, Bool.and_eq_true] at token ⊢
    exact token.1.1

theorem readBetween_word (stop : atWord cursor.rest = true) :
    readBetween margin fuel between cursor = some (between, cursor) := by
  cases fuel with
  | zero => rfl
  | succ fuel =>
    rw [readBetween]
    split
    · rfl
    · next c others ahead =>
      rw [ahead] at stop
      simp only [atWord, List.head?_cons, Option.all_some, Bool.not_or, Bool.and_eq_true,
        Bool.not_eq_true'] at stop
      simp [stop.1, stop.2]

theorem Cursor.skip_one_eq_past {c : Char} (flat : isBreak c = false) :
    cursor.skip 1 = cursor.past [c] := by
  simp [past_cons, pass, flat]

/-- A row of spaces on one line is kept. -/
theorem readBetween_spaces {gaps : List Char} {width : Nat}
    (ahead : cursor.rest = pad width ++ rest) (stop : atWord rest = true) (enough : width < fuel) :
    readBetween margin fuel { gaps } cursor =
      some ({ gaps := gaps ++ pad width }, cursor.past (pad width)) := by
  induction width generalizing fuel gaps cursor with
  | zero =>
    have here : cursor.rest = rest := ahead
    rw [readBetween_word (by rw [here]; exact stop)]
    simp [pad]
  | succ width ih =>
    obtain ⟨fuel, rfl⟩ := Nat.exists_eq_add_of_le' (show 1 ≤ fuel by omega)
    have front : cursor.rest = [' '] ++ (pad width ++ rest) := ahead
    rw [readBetween, front]
    simp only [List.cons_append, show isGap ' ' = true from rfl, if_true, Option.isSome_none,
      Bool.false_eq_true, if_false]
    rw [Cursor.skip_one_eq_past isBreak_space,
      ih (Cursor.rest_past front) (by omega), ← Cursor.past_append]
    simp [pad_succ]

/-- Indentation is dropped. -/
theorem readBetween_indentation {width : Nat} (ahead : cursor.rest = pad width ++ rest)
    (stop : atWord rest = true) (later : between.first.isSome = true) (enough : width < fuel) :
    readBetween margin fuel between cursor = some (between, cursor.past (pad width)) := by
  induction width generalizing fuel cursor with
  | zero =>
    have here : cursor.rest = rest := ahead
    rw [readBetween_word (by rw [here]; exact stop)]
    rfl
  | succ width ih =>
    obtain ⟨fuel, rfl⟩ := Nat.exists_eq_add_of_le' (show 1 ≤ fuel by omega)
    have front : cursor.rest = [' '] ++ (pad width ++ rest) := ahead
    rw [readBetween, front]
    simp only [List.cons_append, show isGap ' ' = true from rfl, if_true, later,
      show (' ' == '\t') = false from rfl,
      Bool.false_and, Bool.false_eq_true, if_false]
    rw [Cursor.skip_one_eq_past isBreak_space, ih (Cursor.rest_past front) (by omega),
      ← Cursor.past_append]
    rfl

/-- A line break at the end of a line, read with the indentation of the next line. -/
theorem readBetween_newline {width : Nat} (ahead : cursor.rest = '\n' :: (pad width ++ rest))
    (stop : atWord rest = true) (enough : width + 1 < fuel) :
    readBetween margin fuel {} cursor =
      some ({ first := some ['\n'] }, cursor.past ('\n' :: pad width)) := by
  obtain ⟨fuel, rfl⟩ := Nat.exists_eq_add_of_le' (show 1 ≤ fuel by omega)
  rw [readBetween, ahead]
  simp only [show isGap '\n' = false from rfl, isBreak_newline, if_true, Bool.false_eq_true,
    if_false, Option.isSome_none]
  rw [Cursor.takeBreak_of_rest ahead isBreak_newline (by decide)]
  have later : (cursor.past ['\n']).rest = pad width ++ rest := Cursor.rest_past ahead
  rw [readBetween_indentation later stop rfl (by omega), ← Cursor.past_append]
  rfl

/-- How a stream goes on behind a plain scalar, how much of that is read with the scalar, and
whether a line break is. -/
inductive PlainEnd (indent : Int) : List Char → List Char → Bool → Prop
  | colon {rest : List Char} (gap : atGap rest = true) : PlainEnd indent (':' :: rest) [] false
  | line {column : Nat} {rest : List Char} (resumes : Resumes indent column rest) :
    PlainEnd indent ('\n' :: (pad column ++ rest)) ('\n' :: pad column) true

theorem endsInside_of_suffix {text suffix : List Char} (behind : suffix <:+ text)
    (none : endsInside text = false) : endsInside suffix = false := by
  obtain ⟨front, rfl⟩ := behind
  induction front with
  | nil => exact none
  | cons c front ih =>
    apply ih
    rw [List.cons_append] at none
    cases behind : front ++ suffix with
    | nil => rfl
    | cons d others =>
      rw [behind, endsInside, Bool.or_eq_false_iff] at none
      exact none.2

/-- A word of a plain scalar does not end in a colon in front of a gap. -/
theorem getLast?_ne_colon {previous : Char} {word : List Char}
    (inside : endsInside (previous :: (word ++ rest)) = false) (gap : atGap rest = true) :
    word.getLast? ≠ some ':' := by
  intro last
  obtain ⟨front, rfl⟩ := List.getLast?_eq_some_iff.1 last
  obtain ⟨before, neighbour, split⟩ : ∃ before neighbour,
      previous :: front = before ++ [neighbour] :=
    ⟨_, _, (List.dropLast_concat_getLast (List.cons_ne_nil previous front)).symm⟩
  have suffix : neighbour :: ':' :: rest <:+ previous :: (front ++ [':'] ++ rest) := by
    refine ⟨before, ?_⟩
    rw [List.append_assoc, ← List.cons_append, split]
    simp
  have colon := endsInside_of_suffix suffix inside
  simp [endsInside, gap] at colon

theorem plainPart?_append {word : List Char}
    (solid : ∀ c ∈ word, isGap c = false ∧ isBreak c = false) (last : word.getLast? ≠ some ':')
    (stop : plainPart? false rest = some []) : plainPart? false (word ++ rest) = some word := by
  induction word with
  | nil => exact stop
  | cons c word ih =>
    obtain ⟨gap, flat⟩ := solid c List.mem_cons_self
    have colon : (c == ':' && atGap (word ++ rest)) = false := by
      cases word with
      | nil =>
        have other : c ≠ ':' := fun same => last (by rw [same]; rfl)
        simp [other]
      | cons d word =>
        obtain ⟨gap, flat⟩ := solid d (by simp)
        simp [atGap, gap, flat]
    have behind : word.getLast? ≠ some ':' := by
      cases word with
      | nil => simp
      | cons d word => rwa [List.getLast?_cons_cons] at last
    rw [List.cons_append, plainPart?, ih (fun d member => solid d (List.mem_cons_of_mem _ member))
      behind]
    simp [gap, flat, colon]

/-- A part of a text that may be written without quotes, from the beginning of a word on. -/
structure IsPlainTail (previous : Char) (text : List Char) : Prop where
  visible : text ≠ []
  front : text.head?.all (!isSpace ·) = true
  back : text.getLast?.all (!isSpace ·) = true
  flat : ∀ c ∈ text, isBreak c = false ∧ c ≠ '\t'
  inside : endsInside (previous :: text) = false
  comment : text.head? ≠ some '#'

theorem isSpace_eq_true {c : Char} : isSpace c = true ↔ c = ' ' := by simp [isSpace]

/-- What only spaces make up. -/
theorem exists_eq_pad {gap : List Char} (visible : gap ≠ [])
    (spaces : ∀ c ∈ gap, isSpace c = true) : ∃ count, gap = pad (count + 1) := by
  refine ⟨gap.length - 1, ?_⟩
  rw [Nat.sub_add_cancel (List.length_pos_iff.2 visible)]
  exact List.eq_replicate_iff.2 ⟨rfl, fun c member => isSpace_eq_true.1 (spaces c member)⟩

variable {indent : Int} {word text before passed after : List Char} {previous : Char}

namespace IsPlainTail

theorem solid (plain : IsPlainTail previous text) (part : word ⊆ text)
    (words : ∀ c ∈ word, isSpace c = false) : ∀ c ∈ word, isGap c = false ∧ isBreak c = false := by
  intro c member
  obtain ⟨flat, tab⟩ := plain.flat c (part member)
  have space := words c member
  rw [isSpace] at space
  exact ⟨by simp [isGap, space, tab], flat⟩

/-- The text behind a gap is again the rest of a plain scalar, and there is one. -/
theorem behind {gap : List Char} (plain : IsPlainTail previous (word ++ (gap ++ text)))
    (visible : gap ≠ []) (spaces : ∀ c ∈ gap, isSpace c = true)
    (front : text.head?.all (!isSpace ·) = true) : IsPlainTail ' ' text := by
  obtain ⟨before, neighbour, split⟩ : ∃ before neighbour, gap = before ++ [neighbour] :=
    ⟨_, _, (List.dropLast_concat_getLast visible).symm⟩
  have space : neighbour = ' ' := isSpace_eq_true.1 (spaces neighbour (by simp [split]))
  subst space
  have suffix : ' ' :: text <:+ previous :: (word ++ (gap ++ text)) :=
    ⟨previous :: (word ++ before), by simp [split]⟩
  have inside := endsInside_of_suffix suffix plain.inside
  have some : text ≠ [] := by
    rintro rfl
    have back := plain.back
    simp [split, isSpace] at back
  refine ⟨some, front, ?_, ?_, inside, ?_⟩
  · have back := plain.back
    rw [← List.append_assoc, List.getLast?_append] at back
    cases last : text.getLast? with
    | none => rfl
    | some c => rwa [last, Option.some_or] at back
  · intro c member
    exact plain.flat c (List.mem_append_right _ (List.mem_append_right _ member))
  · intro comment
    obtain ⟨others, rfl⟩ := List.head?_eq_some_iff.1 comment
    simp [endsInside, isGap] at inside

theorem atWord (plain : IsPlainTail previous text) (after : List Char) :
    atWord (text ++ after) = true := by
  obtain ⟨c, others, rfl⟩ := List.exists_cons_of_ne_nil plain.visible
  obtain ⟨flat, tab⟩ := plain.flat c List.mem_cons_self
  have space := plain.front
  simp only [List.head?_cons, Option.all_some, Bool.not_eq_true', isSpace] at space
  simp [Yaml.atWord, isGap, flat, tab, space]

end IsPlainTail

theorem Cursor.column_past_past_pad (cursor : Cursor) (flat : ∀ c ∈ word, isBreak c = false)
    (width : Nat) :
    ((cursor.past word).past (pad width)).column = cursor.column + word.length + width := by
  rw [past_pad, past_eq_skip flat]
  rfl

theorem plainPart?_of_end {atEnd : Bool} (ends : PlainEnd indent after passed atEnd) :
    plainPart? false after = some [] := by
  cases ends with
  | colon gap => simp [plainPart?, gap]
  | line resumes => simp [plainPart?, isBreak_newline]

/-- What `readPlain` does behind the last word. -/
theorem readPlain_nil (ahead : cursor.rest = []) :
    readPlain false indent fuel before between cursor =
      some (before, cursor, between.first.isSome) := by
  cases fuel with
  | zero => rfl
  | succ fuel => simp [readPlain, ahead, plainPart?, Cursor.atMarker]

/-- One word is read up to what stands behind it. -/
theorem readPlain_word (ahead : cursor.rest = word ++ rest) (visible : word ≠ [])
    (marker : cursor.atMarker = false) (comment : word.head? ≠ some '#')
    (part : plainPart? false (word ++ rest) = some word) :
    readPlain false indent (fuel + 1) before between cursor =
      if !rest.isEmpty && atGap rest then
        (readBetween (some (indent + 1)) fuel {} (cursor.skip word.length)).bind
          fun (gap, cursor) =>
            if (cursor.column : Int) < indent + 1 then
              some (before ++ between.folded ++ word, cursor, gap.first.isSome)
            else readPlain false indent fuel (before ++ between.folded ++ word) gap cursor
      else some (before ++ between.folded ++ word, cursor.skip word.length, false) := by
  obtain ⟨c, others, rfl⟩ := List.exists_cons_of_ne_nil visible
  rw [List.head?_cons] at comment
  have behind : (cursor.skip (c :: others).length).rest = rest := by
    rw [Cursor.rest_skip, ahead, List.drop_left]
  rw [readPlain, if_neg (by simp [marker, ahead]; simpa using comment), ahead, part]
  simp only [List.length_cons] at behind ⊢
  simp only [behind, Bool.not_false, Bool.true_and, decide_eq_true_eq]
  cases readBetween (some (indent + 1)) fuel {} (cursor.skip (others.length + 1)) <;> rfl

/-- The last word is read up to what ends the scalar. -/
theorem readPlain_last {atEnd : Bool} (words : ∀ c ∈ word, isSpace c = false)
    (plain : IsPlainTail previous word) (ahead : cursor.rest = word ++ after)
    (ends : PlainEnd indent after passed atEnd) (marker : cursor.atMarker = false)
    (enough : cursor.rest.length ≤ fuel) :
    readPlain false indent (fuel + 1) before between cursor =
      some (before ++ between.folded ++ word, cursor.past (word ++ passed), atEnd) := by
  have solid := plain.solid (List.Subset.refl word) words
  have last := getLast?_ne_colon (by rw [List.append_nil]; exact plain.inside)
    (show atGap [] = true from rfl)
  have flat : ∀ c ∈ word, isBreak c = false := fun c member => (plain.flat c member).1
  rw [readPlain_word ahead plain.visible marker plain.comment
    (plainPart?_append solid last (plainPart?_of_end ends)), ← Cursor.past_eq_skip flat]
  cases ends with
  | colon gap => simp [atGap, isGap, isBreak]
  | @line column rest resumes =>
    have behind : (cursor.past word).rest = '\n' :: (pad column ++ rest) := Cursor.rest_past ahead
    have stop := atWord_of_atToken resumes.token
    have room : column + 1 < fuel := by
      have size := congrArg List.length ahead
      have long := List.length_pos_iff.2 plain.visible
      simp only [List.length_append, List.length_cons, length_pad] at size
      omega
    rw [readBetween_newline behind stop room, if_pos (by simp [atGap, isBreak_newline]),
      Option.bind_some, Cursor.past_append]
    rcases resumes.outside with outside | ⟨rfl, rfl⟩
    · have place := (Cursor.past_line (cursor.past word) isBreak_newline column).1
      simp only [place]
      rw [if_pos (by omega)]
      rfl
    · have done : ((cursor.past word).past ('\n' :: pad 0)).rest = [] := Cursor.rest_past behind
      simp only [readPlain_nil done, Between.folded]
      simp

/-- A word is read with the spaces behind it, which are kept for the next word. -/
theorem readPlain_spaces {width : Nat} (words : ∀ c ∈ word, isSpace c = false)
    (plain : IsPlainTail previous (word ++ (pad (width + 1) ++ text)))
    (later : IsPlainTail ' ' text)
    (ahead : cursor.rest = word ++ (pad (width + 1) ++ (text ++ after)))
    (marker : cursor.atMarker = false) (deep : indent ≤ cursor.column)
    (enough : cursor.rest.length ≤ fuel) :
    readPlain false indent (fuel + 1) before between cursor =
      readPlain false indent fuel (before ++ between.folded ++ word) { gaps := pad (width + 1) }
        ((cursor.past word).past (pad (width + 1))) := by
  have solid := plain.solid (List.subset_append_left word _) words
  have flat : ∀ c ∈ word, isBreak c = false := fun c member => (solid c member).2
  have full : word ≠ [] := by
    rintro rfl
    have first := plain.front
    simp [pad_succ, isSpace] at first
  have comment : word.head? ≠ some '#' := by
    obtain ⟨c, others, rfl⟩ := List.exists_cons_of_ne_nil full
    simpa using plain.comment
  have part : plainPart? false (word ++ (pad (width + 1) ++ (text ++ after))) = some word :=
    plainPart?_append solid (getLast?_ne_colon plain.inside rfl) rfl
  have size := congrArg List.length ahead
  have long := List.length_pos_iff.2 full
  simp only [List.length_append, length_pad] at size
  have place := Cursor.column_past_past_pad cursor flat (width + 1)
  rw [readPlain_word ahead full marker comment part, ← Cursor.past_eq_skip flat,
    if_pos (by simp [pad_succ, atGap, isGap]),
    readBetween_spaces (Cursor.rest_past ahead) (later.atWord after) (by omega), Option.bind_some]
  simp only [place]
  rw [if_neg (by omega), List.nil_append]

/-- Text that may be written without quotes is read as it is, up to what ends it. -/
theorem readPlain_of_worded {atEnd : Bool} (words : Worded isSpace text)
    (plain : IsPlainTail previous text) (ahead : cursor.rest = text ++ after)
    (ends : PlainEnd indent after passed atEnd) (marker : cursor.atMarker = false)
    (deep : indent ≤ cursor.column) (enough : cursor.rest.length < fuel) :
    readPlain false indent fuel before between cursor =
      some (before ++ between.folded ++ text, cursor.past (text ++ passed), atEnd) := by
  obtain ⟨fuel, rfl⟩ := Nat.exists_eq_add_of_le' (show 1 ≤ fuel by omega)
  induction words generalizing previous before between cursor fuel with
  | word words => exact readPlain_last words plain ahead ends marker (by omega)
  | @gap word gap text words visible spaced front _ ih =>
    obtain ⟨width, rfl⟩ : ∃ width, gap = pad (width + 1) := exists_eq_pad visible spaced
    have later := plain.behind visible spaced front
    have whole : cursor.rest = word ++ (pad (width + 1) ++ (text ++ after)) := by
      simpa using ahead
    have next := Cursor.rest_past (Cursor.rest_past whole)
    have flat : ∀ c ∈ word, isBreak c = false := fun c member => (plain.flat c (by simp [member])).1
    have place := Cursor.column_past_past_pad cursor flat (width + 1)
    have size := congrArg List.length whole
    simp only [List.length_append, length_pad] at size
    obtain ⟨smaller, rfl⟩ := Nat.exists_eq_add_of_le' (show 1 ≤ fuel by omega)
    rw [readPlain_spaces words plain later whole marker deep (by omega),
      ih later next (by simp [Cursor.atMarker, place]) (by omega) smaller
        (by rw [next, List.length_append]; omega)]
    simp [Between.folded, Cursor.past_append]

theorem isPlainTail_of_plainAllowed (allowed : plainAllowed text = true) (visible : text ≠ []) :
    IsPlainTail 'a' text := by
  simp only [plainAllowed, Bool.and_eq_true, Bool.not_eq_true', List.any_eq_false] at allowed
  obtain ⟨⟨⟨⟨⟨⟨-, indicator⟩, inside⟩, front⟩, back⟩, flat⟩, special⟩ := allowed
  refine ⟨visible, ?_, ?_, ?_, ?_, ?_⟩
  · cases first : text.head? with
    | none => rfl
    | some c => simpa [first] using front
  · cases last : text.getLast? with
    | none => rfl
    | some c => simpa [last] using back
  · intro c member
    refine ⟨by simpa using flat c member, ?_⟩
    rintro rfl
    exact special _ member (by decide)
  · obtain ⟨c, others, rfl⟩ := List.exists_cons_of_ne_nil visible
    have colon : (c == ':' && atGap others) = false := by
      rw [Bool.eq_false_iff]
      intro both
      rw [Bool.and_eq_true] at both
      simp [beginsWithIndicator, both.1, both.2] at indicator
    simp only [endsInside, colon, inside]
    rfl
  · obtain ⟨c, others, rfl⟩ := List.exists_cons_of_ne_nil visible
    rw [List.head?_cons]
    intro comment
    cases comment
    cases indicator

/-- A text that may be written without quotes is not taken for the marker of a document. -/
theorem atMarker_of_plainAllowed {atEnd : Bool} (allowed : plainAllowed text = true)
    (ahead : cursor.rest = text ++ after) (ends : PlainEnd indent after passed atEnd) :
    cursor.atMarker = false := by
  have marker : beginsLikeMarker text = false := by
    simp only [plainAllowed, Bool.and_eq_true, Bool.not_eq_true'] at allowed
    exact allowed.1.1.1.1.1.1
  obtain ⟨c, others, split, colon⟩ : ∃ c others, after = c :: others ∧ (c = ':' ∨ c = '\n') := by
    cases ends with
    | colon gap => exact ⟨_, _, rfl, Or.inl rfl⟩
    | line resumes => exact ⟨_, _, rfl, Or.inr rfl⟩
  have other : c ≠ '-' ∧ c ≠ '.' := by
    rcases colon with rfl | rfl <;> decide
  rw [Cursor.atMarker, ahead, split, Bool.and_eq_false_iff]
  right
  match text, marker with
  | [], _ => simp [other]
  | [first], _ => simp [other]
  | [first, second], _ => simp [other]
  | first :: second :: third :: _, marker =>
    split
    · simp_all [beginsLikeMarker]
    · simp_all [beginsLikeMarker]
    · rfl

/-- A text that may be written without quotes is read as it is. -/
theorem readPlain_of_plainAllowed {atEnd : Bool} (allowed : plainAllowed text = true)
    (visible : text ≠ []) (ahead : cursor.rest = text ++ after)
    (ends : PlainEnd indent after passed atEnd) (deep : indent ≤ cursor.column)
    (enough : cursor.rest.length < fuel) :
    readPlain false indent fuel [] {} cursor =
      some (text, cursor.past (text ++ passed), atEnd) :=
  readPlain_of_worded (worded isSpace text) (isPlainTail_of_plainAllowed allowed visible) ahead ends
    (atMarker_of_plainAllowed allowed ahead ends) deep enough

end SaveManifest.Yaml
