import SaveManifest.Proofs.Yaml.Escape
import SaveManifest.Proofs.Yaml.Plain

/-!
# Reading quoted scalars

What the two kinds of quotes hold, as a grammar (`Quoted`): words with rows of spaces or, in
single quotes, rows of line breaks between them. Both kinds are read back as the text that was
written (`readQuoted_of_quoted`).
-/

namespace SaveManifest.Yaml

variable {single : Bool} {fuel width : Nat} {cursor : Cursor}
  {word text written part before rest after : List Char} {c : Char}

def quotedChar (single : Bool) (c : Char) : List Char :=
  if single then (if c = '\'' then [c, c] else [c]) else escaped c

def quotedWord (single : Bool) (word : List Char) : List Char := word.flatMap (quotedChar single)

def quotedStyleOf (single : Bool) : Style := if single then .singleQuoted else .doubleQuoted

/-- The quote that ends a scalar. -/
def closing (single : Bool) : Char := if single then '\'' else '"'

/-- A character that is no part of a gap inside quotes. Line breaks are escaped in double ones. -/
def isWordChar (single : Bool) (c : Char) : Bool :=
  if single then !(isGap c || isBreak c) else !isSpace c

/-- A line break that keeps its identity when it is read. -/
def isKeptBreak (c : Char) : Bool := c == '\u2028' || c == '\u2029'

/-- A text and what stands for it between quotes, later lines indented by `width`. -/
inductive Quoted (single : Bool) (width : Nat) : List Char → List Char → Prop
  | word {word : List Char} (solid : ∀ c ∈ word, isWordChar single c = true) :
    Quoted single width word (quotedWord single word)
  | spaces {word text written : List Char} (solid : ∀ c ∈ word, isWordChar single c = true)
      (count : Nat) (front : text.head?.all (isWordChar single) = true)
      (behind : Quoted single width text written) :
    Quoted single width (word ++ (pad (count + 1) ++ text))
      (quotedWord single word ++ (pad (count + 1) ++ written))
  | breaks {word gap text written : List Char} (kind : single = true)
      (solid : ∀ c ∈ word, isWordChar single c = true) (visible : gap ≠ [])
      (kept : ∀ c ∈ gap, isKeptBreak c = true) (front : text.head?.all (isWordChar single) = true)
      (behind : Quoted single width text written) :
    Quoted single width (word ++ (gap ++ text))
      (quotedWord single word ++ (gap ++ pad width ++ written))

/-- A break that keeps its identity is read as itself. -/
theorem keptBreak_spec (kept : isKeptBreak c = true) :
    isGap c = false ∧ isBreak c = true ∧ c ≠ '\n' ∧
      ∀ {cursor : Cursor} {rest : List Char}, cursor.rest = c :: rest →
        cursor.takeBreak = ([c], cursor.past [c]) := by
  have same : Cursor.readBreak c = c := if_pos kept
  simp only [isKeptBreak, Bool.or_eq_true, beq_iff_eq] at kept
  have breaks : isBreak c = true := by rcases kept with rfl | rfl <;> decide
  refine ⟨by rcases kept with rfl | rfl <;> decide, breaks,
    by rcases kept with rfl | rfl <;> decide, ?_⟩
  intro cursor rest ahead
  rw [Cursor.takeBreak_of_rest ahead breaks (by rcases kept with rfl | rfl <;> decide), same]

/-- What is written for a character of a word begins with a part of a word, has no line break,
and is read as the character. -/
structure IsQuotedChar (single : Bool) (c : Char) : Prop where
  front : ∃ first others, quotedChar single c = first :: others ∧ isGap first = false
  flat : ∀ d ∈ quotedChar single c, isBreak d = false
  read : ∀ {cursor : Cursor} {rest part : List Char} (fuel : Nat),
    cursor.rest = quotedChar single c ++ rest →
      quotedPart? single (fuel + 1) part cursor =
        quotedPart? single fuel (part ++ [c]) (cursor.past (quotedChar single c))

/-- Single quotes hold every character as itself, but for the quote. -/
theorem isQuotedChar_single (gap : isGap c = false) (flat : isBreak c = false) :
    IsQuotedChar true c := by
  by_cases quote : c = '\''
  · have written : quotedChar true c = ['\'', '\''] := by simp [quotedChar, quote]
    have flats : ∀ d ∈ ['\'', '\''], isBreak d = false := by simp [isBreak]
    refine ⟨⟨'\'', ['\''], written, rfl⟩, by rw [written]; exact flats, ?_⟩
    intro cursor rest part fuel ahead
    rw [written] at ahead ⊢
    rw [quotedPart?, ahead, Cursor.past_eq_skip flats, quote]
    simp [isGap, isBreak]
  · have written : quotedChar true c = [c] := by simp [quotedChar, quote]
    refine ⟨⟨c, [], written, gap⟩, by simp [written, flat], ?_⟩
    intro cursor rest part fuel ahead
    rw [written] at ahead ⊢
    rw [quotedPart?, ahead, ← Cursor.skip_one_eq_past flat]
    simp [gap, flat, quote]

/-- Double quotes hold every character as itself or as an escape. -/
theorem isQuotedChar_double (space : isSpace c = false) : IsQuotedChar false c := by
  have written : quotedChar false c = escaped c := rfl
  rcases escaped_eq c with ⟨itself, flat, printable, quote, backslash⟩ | escape
  · have gap : isGap c = false := by
      rw [isGap_eq_isSpace (by rw [isSpecial, printable]; rfl), space]
    rw [itself] at written
    refine ⟨⟨c, [], written, gap⟩, by simp [written, flat], ?_⟩
    intro cursor rest part fuel ahead
    rw [written] at ahead ⊢
    rw [quotedPart?, ahead, ← Cursor.skip_one_eq_past flat]
    simp [gap, flat, quote, backslash]
  · obtain ⟨tail, shape, breaks, read⟩ := escape.shape
    refine ⟨⟨_, _, written.trans shape, by decide⟩, fun d member => (escape.flat d member).1, ?_⟩
    intro cursor rest part fuel ahead
    have plainTail : (tail ++ rest).head?.any isBreak = false := by
      cases tail with
      | nil =>
        have none := read []
        cases none
      | cons d tail => exact breaks
    rw [written] at ahead ⊢
    have front : cursor.rest = '\\' :: (tail ++ rest) := by rw [ahead, shape, List.cons_append]
    rw [quotedPart?, front, Cursor.past_eq_skip fun d member => (escape.flat d member).1]
    simp only [show isGap '\\' = false from rfl, show isBreak '\\' = false from rfl, Bool.or_self,
      Bool.false_eq_true, if_false, show ('\\' == '"') = false from rfl, beq_self_eq_true, if_true,
      plainTail, read]

theorem isQuotedChar (solid : isWordChar single c = true) : IsQuotedChar single c := by
  cases single with
  | true =>
    simp only [isWordChar, if_true, Bool.not_or, Bool.and_eq_true, Bool.not_eq_true'] at solid
    exact isQuotedChar_single solid.1 solid.2
  | false => exact isQuotedChar_double (by simpa [isWordChar] using solid)

theorem quotedPart?_stop (gap : ∃ c others, cursor.rest = c :: others ∧
    (isGap c = true ∨ isBreak c = true ∨
      c = closing single ∧ (single = true → others.head? ≠ some '\''))) :
    quotedPart? single fuel part cursor = some (part, cursor, false) := by
  obtain ⟨c, others, ahead, ends⟩ := gap
  cases fuel with
  | zero => rfl
  | succ fuel =>
    rw [quotedPart?, ahead]
    rcases ends with gap | breaks | ⟨rfl, lone⟩
    · simp [gap]
    · simp [breaks]
    · cases single with
      | true => simp [closing, isGap, isBreak, lone]
      | false => simp [closing, isGap, isBreak]

/-- A word is read up to what ends it. -/
theorem quotedPart?_word (solid : ∀ c ∈ word, isWordChar single c = true)
    (ahead : cursor.rest = quotedWord single word ++ rest)
    (stop : ∀ (fuel : Nat) (part : List Char) (cursor : Cursor), cursor.rest = rest →
      quotedPart? single fuel part cursor = some (part, cursor, false))
    (enough : word.length ≤ fuel) :
    quotedPart? single fuel part cursor =
      some (part ++ word, cursor.past (quotedWord single word), false) := by
  induction word generalizing fuel part cursor with
  | nil =>
    rw [stop fuel part cursor ahead, List.append_nil]
    rfl
  | cons c word ih =>
    rw [List.length_cons] at enough
    obtain ⟨fuel, rfl⟩ := Nat.exists_eq_add_of_le' (show 1 ≤ fuel by omega)
    have split : quotedWord single (c :: word) = quotedChar single c ++ quotedWord single word :=
      List.flatMap_cons
    rw [split, List.append_assoc] at ahead
    rw [(isQuotedChar (solid c List.mem_cons_self)).read fuel ahead,
      ih (fun d member => solid d (List.mem_cons_of_mem _ member)) (Cursor.rest_past ahead)
      (by simpa using enough), split, Cursor.past_append]
    simp

/-- Line breaks that keep their identity are kept, but for the indentation behind them. -/
theorem readBetween_kept {gap : List Char} {first : Option (List Char)} {more : List Char}
    (kept : ∀ c ∈ gap, isKeptBreak c = true) (later : first.isSome = true)
    (ahead : cursor.rest = gap ++ (pad width ++ rest)) (stop : atWord rest = true)
    (enough : gap.length + width < fuel) :
    readBetween none fuel { first, more } cursor =
      some ({ first, more := more ++ gap }, cursor.past (gap ++ pad width)) := by
  induction gap generalizing fuel more cursor with
  | nil =>
    rw [readBetween_indentation ahead stop later (by simpa using enough), List.append_nil]
    rfl
  | cons c gap ih =>
    obtain ⟨fuel, rfl⟩ := Nat.exists_eq_add_of_le' (show 1 ≤ fuel by omega)
    obtain ⟨gaps, breaks, -, take⟩ := keptBreak_spec (kept c List.mem_cons_self)
    rw [readBetween, show cursor.rest = c :: (gap ++ (pad width ++ rest)) from ahead]
    simp only [gaps, breaks, Bool.false_eq_true, if_false, if_true, later, take ahead]
    have next : (cursor.past [c]).rest = gap ++ (pad width ++ rest) := Cursor.rest_past ahead
    rw [ih (fun d member => kept d (List.mem_cons_of_mem _ member)) next
      (by simp only [List.length_cons] at enough; omega), ← Cursor.past_append]
    simp

/-- A row of line breaks that keep their identity, and the indentation behind it. -/
theorem readBetween_breaks {gap : List Char} (visible : gap ≠ [])
    (kept : ∀ c ∈ gap, isKeptBreak c = true) (ahead : cursor.rest = gap ++ (pad width ++ rest))
    (stop : atWord rest = true) (enough : gap.length + width < fuel) :
    ∃ between : Between, between.folded = gap ∧
      readBetween none fuel {} cursor = some (between, cursor.past (gap ++ pad width)) := by
  obtain ⟨c, gap, rfl⟩ := List.exists_cons_of_ne_nil visible
  obtain ⟨fuel, rfl⟩ := Nat.exists_eq_add_of_le' (show 1 ≤ fuel by omega)
  obtain ⟨gaps, breaks, other, take⟩ := keptBreak_spec (kept c List.mem_cons_self)
  refine ⟨{ first := some [c], more := gap }, by simp [Between.folded, other], ?_⟩
  have next : (cursor.past [c]).rest = gap ++ (pad width ++ rest) := Cursor.rest_past ahead
  rw [readBetween, show cursor.rest = c :: (gap ++ (pad width ++ rest)) from ahead]
  simp only [gaps, breaks, Bool.false_eq_true, if_false, if_true, Option.isSome_none, take ahead]
  rw [readBetween_kept (fun d member => kept d (List.mem_cons_of_mem _ member)) rfl next stop
    (by simp only [List.length_cons] at enough; omega), ← Cursor.past_append]
  rfl

theorem atWord_quotedWord (solid : isWordChar single c = true) (rest : List Char) :
    atWord (quotedWord single (c :: word) ++ rest) = true := by
  obtain ⟨first, others, split, gap⟩ := (isQuotedChar solid).front
  have breaks : isBreak first = false := (isQuotedChar solid).flat first (by simp [split])
  simp [quotedWord, split, atWord, gap, breaks]

/-- What is written for a text that begins with a word does not begin with a gap. -/
theorem Quoted.atWord (quoted : Quoted single width text written)
    (front : text.head?.all (isWordChar single) = true) :
    Yaml.atWord (written ++ closing single :: after) = true := by
  have space : isWordChar single ' ' = false := by cases single <;> decide
  cases quoted with
  | word solid =>
    cases text with
    | nil => cases single <;> rfl
    | cons c word => exact atWord_quotedWord (solid c List.mem_cons_self) _
  | @spaces word _ _ solid count _ _ =>
    cases word with
    | nil => simp [pad_succ, space] at front
    | cons c word =>
      rw [List.append_assoc]
      exact atWord_quotedWord (solid c List.mem_cons_self) _
  | @breaks word gap _ _ kind solid visible kept _ _ =>
    cases word with
    | nil =>
      obtain ⟨c, gap, rfl⟩ := List.exists_cons_of_ne_nil visible
      obtain ⟨-, breaks, -⟩ := keptBreak_spec (kept c List.mem_cons_self)
      simp [isWordChar, kind, breaks] at front
    | cons c word =>
      rw [List.append_assoc]
      exact atWord_quotedWord (solid c List.mem_cons_self) _

theorem length_le_quotedWord (solid : ∀ c ∈ word, isWordChar single c = true) :
    word.length ≤ (quotedWord single word).length := by
  induction word with
  | nil => exact Nat.le_refl _
  | cons c word ih =>
    obtain ⟨first, others, split, -⟩ := (isQuotedChar (solid c List.mem_cons_self)).front
    have behind := ih fun d member => solid d (List.mem_cons_of_mem _ member)
    have parts : quotedWord single (c :: word) = quotedChar single c ++ quotedWord single word :=
      List.flatMap_cons
    rw [parts, split]
    simp only [List.length_cons, List.length_append]
    omega

theorem flat_quotedWord (solid : ∀ c ∈ word, isWordChar single c = true) :
    ∀ c ∈ quotedWord single word, isBreak c = false := by
  intro d member
  obtain ⟨c, inside, part⟩ := List.mem_flatMap.1 member
  exact (isQuotedChar (solid c inside)).flat d part

/-- What `readQuoted` does with a word in front of a gap or the closing quote. -/
theorem readQuoted_word (solid : ∀ c ∈ word, isWordChar single c = true)
    (ahead : cursor.rest = quotedWord single word ++ c :: rest)
    (stop : isGap c = true ∨ isBreak c = true ∨
      c = closing single ∧ (single = true → rest.head? ≠ some '\''))
    (inside : 0 < cursor.column) (enough : cursor.rest.length ≤ fuel) :
    readQuoted single (fuel + 1) before cursor =
      if c = closing single then
        some (before ++ word, cursor.past (quotedWord single word ++ [closing single]))
      else
        (readBetween none fuel {} (cursor.past (quotedWord single word))).bind
          fun (between, cursor) =>
            readQuoted single fuel (before ++ word ++ between.folded) cursor := by
  have marker : cursor.atMarker = false := by
    have away : cursor.column ≠ 0 := by omega
    simp [Cursor.atMarker, away]
  have full : cursor.rest.isEmpty = false := by simp [ahead]
  have long := length_le_quotedWord solid
  rw [ahead, List.length_append, List.length_cons] at enough
  have next : (cursor.past (quotedWord single word)).rest = c :: rest := Cursor.rest_past ahead
  rw [readQuoted, marker, full, quotedPart?_word solid ahead
    (fun _ _ _ here => quotedPart?_stop ⟨c, rest, here, stop⟩) (by omega)]
  simp only [Bool.or_self, Bool.false_eq_true, if_false, List.nil_append, next, List.head?_cons]
  have same : (some c == some (if single = true then '\'' else '"')) =
      decide (c = closing single) := by
    rw [closing]
    rfl
  rw [same]
  by_cases ends : c = closing single
  · have flat : isBreak (closing single) = false := by cases single <;> decide
    simp only [ends, decide_true, if_true]
    rw [Cursor.past_append, ← Cursor.skip_one_eq_past flat]
  · simp only [ends, decide_false, Bool.false_eq_true, if_false]
    cases readBetween none fuel {} (cursor.past (quotedWord single word)) <;> rfl

/-- A word is read with the gap behind it, once it is known what the gap is read as. -/
theorem readQuoted_gap {gap : List Char} {between : Between}
    (solid : ∀ c ∈ word, isWordChar single c = true)
    (gaps : ∃ c others, gap = c :: others ∧ (isGap c = true ∨ isBreak c = true))
    (ahead : cursor.rest = quotedWord single word ++ (gap ++ rest)) (inside : 0 < cursor.column)
    (enough : cursor.rest.length ≤ fuel)
    (read : readBetween none fuel {} (cursor.past (quotedWord single word)) =
      some (between, (cursor.past (quotedWord single word)).past gap)) :
    readQuoted single (fuel + 1) before cursor =
      readQuoted single fuel (before ++ word ++ between.folded)
        ((cursor.past (quotedWord single word)).past gap) := by
  obtain ⟨c, others, rfl, front⟩ := gaps
  have other : c ≠ closing single := by
    rintro rfl
    cases single <;> simp [closing, isGap, isBreak] at front
  rw [List.cons_append] at ahead
  rw [readQuoted_word solid ahead (front.imp_right Or.inl) inside enough, if_neg other, read,
    Option.bind_some]

/-- A quoted scalar is read back as the text it was written for. -/
theorem readQuoted_of_quoted (quoted : Quoted single width text written) (indented : 0 < width)
    (ahead : cursor.rest = written ++ closing single :: after) (inside : 0 < cursor.column)
    (lone : single = true → after.head? ≠ some '\'') (enough : cursor.rest.length < fuel) :
    readQuoted single fuel before cursor =
      some (before ++ text, cursor.past (written ++ [closing single])) := by
  obtain ⟨fuel, rfl⟩ := Nat.exists_eq_add_of_le' (show 1 ≤ fuel by omega)
  induction quoted generalizing fuel before cursor with
  | word solid =>
    rw [readQuoted_word solid ahead (Or.inr (Or.inr ⟨rfl, lone⟩)) inside (by omega), if_pos rfl]
  | @spaces word text written solid count front behind ih =>
    have whole : cursor.rest = quotedWord single word ++
        (pad (count + 1) ++ (written ++ closing single :: after)) := by
      simpa using ahead
    have next := Cursor.rest_past whole
    have later := Cursor.rest_past next
    have size := congrArg List.length whole
    simp only [List.length_append, List.length_cons, length_pad] at size
    have read : readBetween none fuel {} (cursor.past (quotedWord single word)) = _ :=
      readBetween_spaces next (behind.atWord front) (by omega)
    have column := Cursor.column_past_past_pad cursor (flat_quotedWord solid) (count + 1)
    obtain ⟨smaller, rfl⟩ := Nat.exists_eq_add_of_le' (show 1 ≤ fuel by omega)
    rw [readQuoted_gap solid ⟨' ', pad count, pad_succ count, Or.inl rfl⟩ whole inside (by omega)
      read, ih later (by omega) smaller
        (by rw [later]; simp only [List.length_append, List.length_cons]; omega)]
    simp [Between.folded, Cursor.past_append]
  | @breaks word gap text written kind solid visible kept front behind ih =>
    have whole : cursor.rest = quotedWord single word ++
        ((gap ++ pad width) ++ (written ++ closing single :: after)) := by
      simpa using ahead
    have next := Cursor.rest_past whole
    have later := Cursor.rest_past next
    have size := congrArg List.length whole
    simp only [List.length_append, List.length_cons, length_pad] at size
    rw [List.append_assoc] at next
    obtain ⟨between, folded, read⟩ := readBetween_breaks visible kept next (behind.atWord front)
      (show gap.length + width < fuel by omega)
    have gaps : ∃ c others, gap ++ pad width = c :: others ∧
        (isGap c = true ∨ isBreak c = true) := by
      obtain ⟨c, others, rfl⟩ := List.exists_cons_of_ne_nil visible
      exact ⟨c, others ++ pad width, rfl, Or.inr (keptBreak_spec (kept c List.mem_cons_self)).2.1⟩
    have column : 0 < ((cursor.past (quotedWord single word)).past (gap ++ pad width)).column := by
      rw [Cursor.past_append, Cursor.past_pad]
      exact Nat.lt_of_lt_of_le indented (Nat.le_add_left _ _)
    have long := List.length_pos_iff.2 visible
    obtain ⟨smaller, rfl⟩ := Nat.exists_eq_add_of_le' (show 1 ≤ fuel by omega)
    rw [readQuoted_gap solid gaps whole inside (by omega) read, folded, ih later column smaller
      (by rw [later]; simp only [List.length_append, List.length_cons]; omega)]
    simp [Cursor.past_append]

/-! ### What the printer writes between quotes -/

theorem quotedWord_false : quotedWord false word = word.flatMap escaped := rfl

theorem flatMap_escaped_pad (count : Nat) : (pad count).flatMap escaped = pad count := by
  induction count with
  | zero => rfl
  | succ count ih => rw [pad_succ, List.flatMap_cons, ih]; rfl

/-- Any text can stand between double quotes. -/
theorem quoted_flatMap_escaped (width : Nat) (text : List Char) :
    Quoted false width text (text.flatMap escaped) := by
  induction worded isSpace text with
  | word solid => exact .word (by simpa [isWordChar] using solid)
  | @gap word gap text solid visible spaced front _ ih =>
    obtain ⟨count, rfl⟩ : ∃ count, gap = pad (count + 1) := exists_eq_pad visible spaced
    rw [List.flatMap_append, List.flatMap_append, flatMap_escaped_pad, ← quotedWord_false]
    exact .spaces (by simpa [isWordChar] using solid) count front ih

theorem hasNeighbours_iff {first second : Char → Bool} :
    hasNeighbours first second text = true ↔
      ∃ c d, [c, d] <:+: text ∧ first c = true ∧ second d = true := by
  induction text with
  | nil => simp [hasNeighbours]
  | cons a text ih =>
    cases text with
    | nil => simp [hasNeighbours, List.infix_cons_iff]
    | cons b text =>
      rw [hasNeighbours, Bool.or_eq_true, ih, Bool.and_eq_true]
      constructor
      · rintro (here | ⟨c, d, inside, both⟩)
        · exact ⟨a, b, (List.prefix_append [a, b] text).isInfix, here⟩
        · exact ⟨c, d, inside.trans (List.suffix_cons a _).isInfix, both⟩
      · rintro ⟨c, d, inside, both⟩
        rcases List.infix_cons_iff.1 inside with front | later
        · obtain ⟨behind, split⟩ := front
          cases split
          exact Or.inl both
        · exact Or.inr ⟨c, d, later, both⟩

/-- A text that keeps its form between single quotes: no line feed, nothing that needs an escape,
and no space beside a line break. -/
structure IsSingleText (text : List Char) : Prop where
  printable : ∀ c ∈ text, isSpecial c = false ∧ c ≠ '\n'
  apart : ∀ c d, [c, d] <:+: text →
    ¬ (isBreak c = true ∧ isSpace d = true) ∧ ¬ (isSpace c = true ∧ isBreak d = true)

theorem IsSingleText.of_infix (plain : IsSingleText text) (part : word <:+: text) :
    IsSingleText word where
  printable c member := plain.printable c (part.subset member)
  apart c d inside := plain.apart c d (inside.trans part)

theorem isSingleText_of_allowed (allowed : singleQuotedAllowed text = true) (flat : '\n' ∉ text) :
    IsSingleText text := by
  simp only [singleQuotedAllowed, Bool.and_eq_true, Bool.not_eq_true', List.any_eq_false] at allowed
  obtain ⟨⟨breaks, spaces⟩, special⟩ := allowed
  constructor
  · intro c member
    refine ⟨by simpa using special c member, ?_⟩
    rintro rfl
    exact flat member
  · intro c d inside
    rw [Bool.eq_false_iff, ne_eq, hasNeighbours_iff] at breaks spaces
    exact ⟨fun both => breaks ⟨c, d, inside, both⟩, fun both => spaces ⟨c, d, inside, both⟩⟩

theorem IsSingleText.kept (plain : IsSingleText text) (member : c ∈ text)
    (breaks : isBreak c = true) : isKeptBreak c = true := by
  obtain ⟨special, other⟩ := plain.printable c member
  simp only [isBreak, Bool.or_eq_true, beq_iff_eq] at breaks
  rcases breaks with (((rfl | rfl) | rfl) | rfl) | rfl
  · exact absurd rfl other
  · cases special
  · cases special
  · rfl
  · rfl

/-- A gap holds spaces only or line breaks only. -/
theorem IsSingleText.uniform {gap : List Char} (plain : IsSingleText gap)
    (spaced : ∀ c ∈ gap, (isSpace c || isBreak c) = true) :
    (∀ c ∈ gap, isSpace c = true) ∨ ∀ c ∈ gap, isBreak c = true := by
  induction gap with
  | nil => exact Or.inl (by simp)
  | cons c gap ih =>
    have here := spaced c List.mem_cons_self
    rw [Bool.or_eq_true] at here
    have behind := ih (plain.of_infix (List.suffix_cons c gap).isInfix)
      fun d member => spaced d (List.mem_cons_of_mem _ member)
    cases gap with
    | nil => simpa using here
    | cons d gap =>
      obtain ⟨notBefore, notAfter⟩ := plain.apart c d (List.prefix_append [c, d] gap).isInfix
      rcases here with space | breaks
      · left
        rcases behind with spaces | breaks
        · exact List.forall_mem_cons.2 ⟨space, spaces⟩
        · exact absurd ⟨space, breaks d List.mem_cons_self⟩ notAfter
      · right
        rcases behind with spaces | later
        · exact absurd ⟨breaks, spaces d List.mem_cons_self⟩ notBefore
        · exact List.forall_mem_cons.2 ⟨breaks, later⟩

theorem singleQuotedInside_word (width : Nat)
    (solid : ∀ c ∈ word, (isSpace c || isBreak c) = false) (rest : List Char) :
    singleQuotedInside width false (word ++ rest) =
      quotedWord true word ++ singleQuotedInside width false rest := by
  induction word with
  | nil => rfl
  | cons c word ih =>
    have here := solid c List.mem_cons_self
    rw [Bool.or_eq_false_iff] at here
    rw [List.cons_append, singleQuotedInside, here.1, here.2,
      ih fun d member => solid d (List.mem_cons_of_mem _ member)]
    simp [quotedWord, quotedChar]

theorem singleQuotedInside_pad (count : Nat) (rest : List Char) :
    singleQuotedInside width false (pad count ++ rest) =
      pad count ++ singleQuotedInside width false rest := by
  induction count with
  | zero => rfl
  | succ count ih =>
    rw [pad_succ, List.cons_append, singleQuotedInside, ih]
    rfl

theorem singleQuotedInside_breaks {gap : List Char} (visible : gap ≠ [])
    (breaks : ∀ c ∈ gap, isBreak c = true) (fresh : Bool) (rest : List Char) :
    singleQuotedInside width fresh (gap ++ rest) = gap ++ singleQuotedInside width true rest := by
  induction gap generalizing fresh with
  | nil => exact absurd rfl visible
  | cons c gap ih =>
    have here := breaks c List.mem_cons_self
    have space : isSpace c = false := by
      rw [isSpace, beq_eq_false_iff_ne]
      rintro rfl
      cases here
    rw [List.cons_append, singleQuotedInside, space, here]
    cases gap with
    | nil => rfl
    | cons d gap =>
      have later := ih (List.cons_ne_nil d gap)
        (fun e member => breaks e (List.mem_cons_of_mem _ member)) true
      rw [later]
      rfl

/-- A word on a new line is indented. -/
theorem singleQuotedInside_fresh
    (front : text.head?.all (fun c => !(isSpace c || isBreak c)) = true) :
    singleQuotedInside width true text = pad width ++ singleQuotedInside width false text := by
  cases text with
  | nil => simp [singleQuotedInside]
  | cons c text =>
    simp only [List.head?_cons, Option.all_some, Bool.not_or, Bool.and_eq_true,
      Bool.not_eq_true'] at front
    simp [singleQuotedInside, front.1, front.2]

theorem IsSingleText.isWordChar (plain : IsSingleText text) (member : c ∈ text)
    (solid : (isSpace c || isBreak c) = false) : isWordChar true c = true := by
  simp [Yaml.isWordChar, isGap_eq_isSpace (plain.printable c member).1, solid]

/-- A text that keeps its form stands between single quotes. -/
theorem quoted_singleQuotedInside (width : Nat) (plain : IsSingleText text) :
    Quoted true width text (singleQuotedInside width false text) := by
  induction worded (fun c => isSpace c || isBreak c) text with
  | @word word solid =>
    have written := singleQuotedInside_word width solid []
    simp only [List.append_nil] at written
    rw [written, show singleQuotedInside width false [] = [] from rfl, List.append_nil]
    exact .word fun c member => plain.isWordChar member (solid c member)
  | @gap word gap text solid visible spaced front _ ih =>
    have behind := ih (plain.of_infix
      ((List.suffix_append gap text).trans (List.suffix_append word _)).isInfix)
    have words : ∀ c ∈ word, Yaml.isWordChar true c = true := fun c member =>
      plain.isWordChar (List.mem_append_left _ member) (solid c member)
    have ahead : text.head?.all (Yaml.isWordChar true) = true := by
      cases text with
      | nil => rfl
      | cons c text =>
        apply plain.isWordChar (by simp : c ∈ word ++ (gap ++ c :: text))
        simpa using front
    have between : gap <:+: word ++ (gap ++ text) :=
      (List.prefix_append gap text).isInfix.trans (List.suffix_append word _).isInfix
    rw [singleQuotedInside_word width solid]
    rcases (plain.of_infix between).uniform spaced with spaces | breaks
    · obtain ⟨count, rfl⟩ : ∃ count, gap = pad (count + 1) := exists_eq_pad visible spaces
      rw [singleQuotedInside_pad]
      exact .spaces words count ahead behind
    · rw [singleQuotedInside_breaks visible breaks, singleQuotedInside_fresh front,
        ← List.append_assoc gap]
      exact .breaks rfl words visible
        (fun c member => (plain.of_infix between).kept member (breaks c member)) ahead behind

end SaveManifest.Yaml
