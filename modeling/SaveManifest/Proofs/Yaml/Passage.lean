import SaveManifest.Yaml.Printer
import SaveManifest.Yaml.ScalarText

/-!
# Passing over a text

Whichever reader takes a text, it leaves the cursor where the characters of the text lead:
`Cursor.past` is that place. A text falls into words and the gaps between them (`Worded`), which
is the order in which the readers of plain and quoted scalars take it.
-/

namespace SaveManifest.Yaml

namespace Cursor

/-- Behind one more character; a line break begins a line. -/
def pass (cursor : Cursor) (c : Char) : Cursor :=
  if isBreak c then
    { rest := cursor.rest.tail, index := cursor.index + 1, line := cursor.line + 1, column := 0 }
  else cursor.skip 1

/-- Behind a text that stands at the cursor. -/
def past (cursor : Cursor) (text : List Char) : Cursor := text.foldl pass cursor

variable {cursor : Cursor} {c : Char} {text rest : List Char}

@[simp] theorem past_nil : cursor.past [] = cursor := rfl

theorem past_cons : cursor.past (c :: text) = (cursor.pass c).past text := rfl

theorem past_append {more : List Char} :
    cursor.past (text ++ more) = (cursor.past text).past more := List.foldl_append

@[simp] theorem rest_skip {count : Nat} : (cursor.skip count).rest = cursor.rest.drop count := rfl

@[simp] theorem column_skip {count : Nat} :
    (cursor.skip count).column = cursor.column + count := rfl

@[simp] theorem line_skip {count : Nat} : (cursor.skip count).line = cursor.line := rfl

@[simp] theorem index_skip {count : Nat} : (cursor.skip count).index = cursor.index + count := rfl

@[simp] theorem skip_zero : cursor.skip 0 = cursor := rfl

theorem skip_skip {first second : Nat} :
    (cursor.skip first).skip second = cursor.skip (first + second) := by
  simp [skip, Nat.add_assoc]

theorem rest_pass : (cursor.pass c).rest = cursor.rest.tail := by
  unfold pass
  split
  · rfl
  · rw [rest_skip, List.drop_one]

theorem rest_past (ahead : cursor.rest = text ++ rest) : (cursor.past text).rest = rest := by
  induction text generalizing cursor with
  | nil => exact ahead
  | cons c text ih =>
    rw [past_cons]
    apply ih
    rw [rest_pass, ahead, List.cons_append, List.tail_cons]

/-- A text without line breaks is passed by counting its characters. -/
theorem past_eq_skip (flat : ∀ c ∈ text, isBreak c = false) :
    cursor.past text = cursor.skip text.length := by
  induction text generalizing cursor with
  | nil => rfl
  | cons c text ih =>
    rw [past_cons, ih fun d member => flat d (List.mem_cons_of_mem _ member), pass,
      if_neg (by simp [flat c]), skip_skip, Nat.add_comm, List.length_cons]

theorem line_le_past : cursor.line ≤ (cursor.past text).line := by
  induction text generalizing cursor with
  | nil => exact Nat.le_refl _
  | cons c text ih =>
    refine Nat.le_trans ?_ ih
    unfold pass
    split
    · exact Nat.le_succ _
    · exact Nat.le_refl _

/-- A line break is taken as the character it is read as. A carriage return could be the first half
of a break. -/
theorem takeBreak_of_rest (ahead : cursor.rest = c :: rest) (breaks : isBreak c = true)
    (single : c ≠ '\r') : cursor.takeBreak = ([readBreak c], cursor.past [c]) := by
  obtain ⟨here, index, line, column⟩ := cursor
  subst ahead
  simp [takeBreak, past_cons, pass, breaks, single]

/-- The line breaks that can be written without an escape are read as themselves. -/
theorem takeBreak_of_printable (ahead : cursor.rest = c :: rest) (breaks : isBreak c = true)
    (printable : isSpecial c = false) : cursor.takeBreak = ([c], cursor.past [c]) := by
  have shape := breaks
  simp only [isBreak, Bool.or_eq_true, beq_iff_eq] at shape
  rcases shape with (((rfl | rfl) | rfl) | rfl) | rfl
  · exact takeBreak_of_rest ahead breaks (by decide)
  · cases printable
  · cases printable
  · exact takeBreak_of_rest ahead breaks (by decide)
  · exact takeBreak_of_rest ahead breaks (by decide)

end Cursor

theorem isBreak_newline : isBreak '\n' = true := by decide

theorem isBreak_space : isBreak ' ' = false := by decide

/-- Of the characters that can be written without an escape, only the space is a gap. -/
theorem isGap_eq_isSpace {c : Char} (printable : isSpecial c = false) : isGap c = isSpace c := by
  have tab : c ≠ '\t' := by
    rintro rfl
    cases printable
  rw [isGap, isSpace, beq_eq_false_iff_ne.2 tab, Bool.or_false]

theorem length_pad (width : Nat) : (pad width).length = width := List.length_replicate

theorem pad_succ (width : Nat) : pad (width + 1) = ' ' :: pad width := rfl

theorem eq_space_of_mem_pad {width : Nat} {c : Char} (member : c ∈ pad width) : c = ' ' :=
  List.eq_of_mem_replicate member

/-- Indentation is passed by counting it. -/
theorem Cursor.past_pad {cursor : Cursor} (width : Nat) :
    cursor.past (pad width) = cursor.skip width := by
  have flat : ∀ c ∈ pad width, isBreak c = false := by
    intro c member
    rw [eq_space_of_mem_pad member, isBreak_space]
  rw [past_eq_skip flat, length_pad]

/-- The place at the beginning of a later line, behind its indentation. -/
theorem Cursor.past_line (cursor : Cursor) {c : Char} (breaks : isBreak c = true) (width : Nat) :
    (cursor.past (c :: pad width)).column = width ∧
      (cursor.past (c :: pad width)).line = cursor.line + 1 := by
  rw [past_cons, past_pad]
  simp [pass, breaks]

/-- Whether a token can stand here, or nothing any more: no gap, line break or comment. -/
def atToken (text : List Char) : Bool :=
  text.head?.all fun c => !(isGap c || isBreak c || c == '#' || c == '\ufeff')

/-- A later line at `column` that ends all that is indented deeper than `indent`, as the end of
the stream does. -/
structure Resumes (indent : Int) (column : Nat) (rest : List Char) : Prop where
  token : atToken rest = true
  outside : (column : Int) ≤ indent ∨ rest = [] ∧ column = 0

/-- What is left behind the characters of a kind does not begin with one of them. -/
theorem all_head?_dropWhile (kind : Char → Bool) (text : List Char) :
    (text.dropWhile kind).head?.all (!kind ·) = true := by
  have kept := List.head?_dropWhile_not kind text
  cases first : (text.dropWhile kind).head? with
  | none => rfl
  | some c =>
    rw [first] at kept
    simpa using kept

/-- A text that is a word, or a word and a gap in front of a text that does not begin with a
gap. `sep` tells the characters of gaps. -/
inductive Worded (sep : Char → Bool) : List Char → Prop
  | word {word : List Char} (solid : ∀ c ∈ word, sep c = false) : Worded sep word
  | gap {word gap text : List Char} (solid : ∀ c ∈ word, sep c = false) (visible : gap ≠ [])
      (spaced : ∀ c ∈ gap, sep c = true) (front : text.head?.all (!sep ·) = true)
      (behind : Worded sep text) : Worded sep (word ++ (gap ++ text))

/-- Every text falls into words. -/
theorem worded (sep : Char → Bool) (text : List Char) : Worded sep text := by
  induction length : text.length using Nat.strongRecOn generalizing text with
  | ind n ih =>
    subst length
    have solid : ∀ c ∈ text.takeWhile (!sep ·), sep c = false := by
      intro c member
      simpa using List.all_eq_true.1 List.all_takeWhile c member
    have split := List.takeWhile_append_dropWhile (p := (!sep ·)) (l := text)
    cases rest : text.dropWhile (!sep ·) with
    | nil =>
      rw [rest, List.append_nil] at split
      rw [← split]
      exact .word solid
    | cons c others =>
      have first : sep c = true := by
        have kept := all_head?_dropWhile (!sep ·) text
        rw [rest] at kept
        simpa using kept
      have behind := List.takeWhile_append_dropWhile (p := sep) (l := c :: others)
      rw [rest, ← behind] at split
      rw [← split]
      refine .gap solid ?_ ?_ ?_ (ih _ ?_ _ rfl)
      · rw [List.takeWhile_cons_of_pos first]
        exact List.cons_ne_nil _ _
      · intro d member
        exact List.all_eq_true.1 List.all_takeWhile d member
      · exact all_head?_dropWhile sep (c :: others)
      · have parts := congrArg List.length split
        rw [List.length_append, List.length_append, List.takeWhile_cons_of_pos first,
          List.length_cons] at parts
        omega

end SaveManifest.Yaml
