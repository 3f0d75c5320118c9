import SaveManifest.Proofs.Yaml.Lines
import SaveManifest.Proofs.Yaml.Plain

/-!
# Reading literal blocks

A literal block holds its lines as they are, each behind the indentation of the block
(`BlockLine`). The reader gathers them line by line; the header tells whether the indentation is
given and how many of the line breaks at the end belong to the text. A text written as a block is
read back as it is (`readBlock_literal`).
-/

namespace SaveManifest.Yaml

variable {cursor : Cursor} {fuel width column : Nat} {parent : Int}
  {text last breaks rest : List Char} {c : Char}

/-- A line of a block that is not empty, the break that ends it, and the empty lines behind it. -/
structure BlockLine where
  text : List Char
  ending : Char
  empties : List Char

/-- A break that is read as itself. -/
def isPlainBreak (c : Char) : Bool := isBreak c && !isSpecial c

theorem isPlainBreak_iff : isPlainBreak c = true ↔ isBreak c = true ∧ isSpecial c = false := by
  rw [isPlainBreak, Bool.and_eq_true, Bool.not_eq_true']

structure BlockLine.IsReadable (line : BlockLine) : Prop where
  visible : line.text ≠ []
  flat : ∀ c ∈ line.text, isBreak c = false ∧ isSpecial c = false
  ending : isPlainBreak line.ending = true
  empties : ∀ c ∈ line.empties, isPlainBreak c = true

/-- The characters of a line and the breaks behind it. -/
def BlockLine.content (line : BlockLine) : List Char := line.text ++ line.ending :: line.empties

/-- How far the next line is indented, or what follows the last one. -/
def leadOf (width column : Nat) : List BlockLine → Nat
  | [] => column
  | _ :: _ => width

/-- The lines of a block and what follows them, from behind the indentation of the first one. -/
def linesText (width column : Nat) (rest : List Char) : List BlockLine → List Char
  | [] => rest
  | line :: lines =>
    line.content ++ (pad (leadOf width column lines) ++ linesText width column rest lines)

/-- Text, last break and empty lines that were read, with one more line read. -/
def gather (read : List Char × List Char × List Char) (line : BlockLine) :
    List Char × List Char × List Char :=
  (read.1 ++ read.2.1 ++ read.2.2 ++ line.text, [line.ending], line.empties)

/-- What follows the indentation of a line is no line break, and no gap where the line is
indented less than the block. -/
def IsLineText (width lead : Nat) (rest : List Char) : Prop :=
  lead ≤ width ∧ rest.head?.all (fun c => !isBreak c) = true ∧
    (lead < width → rest.head?.all (fun c => !isGap c) = true)

theorem takeWhile_pad (lead : Nat) (rest : List Char) :
    ((pad lead ++ rest).takeWhile (· == ' ')).length =
      lead + (rest.takeWhile (· == ' ')).length := by
  induction lead with
  | zero => simp [pad]
  | succ lead ih =>
    rw [pad_succ, List.cons_append, List.takeWhile_cons_of_pos (by rfl), List.length_cons, ih]
    omega

/-- Where a line is indented less than the block, neither a space nor a tab follows. -/
theorem IsLineText.not_gap {lead : Nat} (line : IsLineText width lead (c :: rest))
    (less : lead < width) : (c == ' ') = false ∧ (c == '\t') = false := by
  have solid := line.2.2 less
  simpa only [List.head?_cons, Option.all_some, Bool.not_eq_true', isGap, Bool.or_eq_false_iff]
    using solid

/-- Of the spaces at the beginning of a line, those inside the indentation of the block. -/
theorem IsLineText.spaces {lead : Nat} (line : IsLineText width lead rest) :
    min ((pad lead ++ rest).takeWhile (· == ' ')).length width = lead := by
  have inside := line.1
  rw [takeWhile_pad]
  rcases Nat.lt_or_ge lead width with less | same
  · have none : rest.takeWhile (· == ' ') = [] := by
      cases rest with
      | nil => rfl
      | cons c rest => rw [List.takeWhile_cons_of_neg (by rw [(line.not_gap less).1]; simp)]
    rw [none, List.length_nil]
    omega
  · omega

/-- The indentation of a line that is not empty, at a known indentation. -/
theorem readEmptyLines_line {lead : Nat} (acc : List Char) (deepest : Nat)
    (line : IsLineText width lead rest) (fresh : cursor.column = 0)
    (ahead : cursor.rest = pad lead ++ rest) :
    readEmptyLines (some width) (fuel + 1) acc deepest cursor =
      some (acc, max deepest lead, cursor.past (pad lead)) := by
  have next : (cursor.skip lead).rest = rest := by
    rw [Cursor.rest_skip, ahead]
    exact List.drop_left' (length_pad lead)
  have place : (cursor.skip lead).column = lead := by rw [Cursor.column_skip, fresh, Nat.zero_add]
  simp only [readEmptyLines, fresh, ahead, Nat.sub_zero, line.spaces, Cursor.past_pad, next, place]
  cases rest with
  | nil => rfl
  | cons c rest =>
    have flat : isBreak c = false := by simpa using line.2.1
    have tab : (decide (lead < width) && c == '\t') = false := by
      rw [Bool.and_eq_false_imp, decide_eq_true_iff]
      exact fun less => (line.not_gap less).2
    simp only [Option.all_some, tab, flat]
    rfl

/-- One more empty line, at a known indentation. -/
theorem readEmptyLines_break (acc : List Char) (deepest : Nat) (plain : isPlainBreak c = true)
    (ahead : cursor.rest = c :: rest) :
    readEmptyLines (some width) (fuel + 1) acc deepest cursor =
      readEmptyLines (some width) fuel (acc ++ [c]) (max deepest cursor.column)
        (cursor.past [c]) := by
  obtain ⟨here, printable⟩ := isPlainBreak_iff.1 plain
  have space : c ≠ ' ' := by
    rintro rfl
    cases here
  have tab : c ≠ '\t' := by
    rintro rfl
    cases here
  have spaces : (cursor.rest.takeWhile (· == ' ')).length = 0 := by
    rw [ahead, List.takeWhile_cons_of_neg (by simpa using space)]
    rfl
  simp only [readEmptyLines, spaces, Nat.zero_min, Cursor.skip_zero]
  simp only [ahead, here, beq_eq_false_iff_ne.2 tab, Bool.and_false, Bool.false_eq_true, if_false,
    if_true, Cursor.takeBreak_of_printable ahead here printable]

/-- Empty lines, and the indentation of the line behind them, at a known indentation. -/
theorem readEmptyLines_known {lead : Nat} (acc : List Char) (deepest : Nat)
    (plain : ∀ c ∈ breaks, isPlainBreak c = true) (line : IsLineText width lead rest)
    (fresh : cursor.column = 0) (ahead : cursor.rest = breaks ++ (pad lead ++ rest))
    (enough : breaks.length < fuel) :
    ∃ deepest', readEmptyLines (some width) fuel acc deepest cursor =
      some (acc ++ breaks, deepest', cursor.past (breaks ++ pad lead)) := by
  obtain ⟨fuel, rfl⟩ := Nat.exists_eq_add_of_le' (show 1 ≤ fuel by omega)
  induction breaks generalizing fuel acc deepest cursor with
  | nil =>
    rw [List.append_nil, List.nil_append]
    exact ⟨_, readEmptyLines_line acc deepest line fresh ahead⟩
  | cons c breaks ih =>
    have here := plain c List.mem_cons_self
    have column : (cursor.past [c]).column = 0 := by
      simp [Cursor.past_cons, Cursor.pass, (isPlainBreak_iff.1 here).1]
    rw [List.length_cons] at enough
    obtain ⟨smaller, rfl⟩ := Nat.exists_eq_add_of_le' (show 1 ≤ fuel by omega)
    obtain ⟨deepest', read⟩ := ih (acc ++ [c]) (max deepest cursor.column)
      (fun d member => plain d (List.mem_cons_of_mem _ member)) column (Cursor.rest_past ahead)
      smaller (by omega)
    refine ⟨deepest', ?_⟩
    rw [readEmptyLines_break acc deepest here ahead, read, List.append_assoc, ← Cursor.past_append]
    rfl

theorem Cursor.column_past_breaks_pad (plain : ∀ c ∈ breaks, isPlainBreak c = true)
    (fresh : cursor.column = 0) (lead : Nat) :
    (cursor.past (breaks ++ pad lead)).column = lead := by
  rw [past_append, past_pad, column_skip]
  suffices start : (cursor.past breaks).column = 0 by rw [start, Nat.zero_add]
  induction breaks generalizing cursor with
  | nil => exact fresh
  | cons c breaks ih =>
    have here := (isPlainBreak_iff.1 (plain c List.mem_cons_self)).1
    exact ih (fun d member => plain d (List.mem_cons_of_mem _ member)) (by simp [pass, here])

variable {lines : List BlockLine} {gap : Bool}

theorem isLineText_linesText (readable : ∀ line ∈ lines, line.IsReadable)
    (ends : IsLineText width column rest) :
    IsLineText width (leadOf width column lines) (linesText width column rest lines) := by
  cases lines with
  | nil => exact ends
  | cons line lines =>
    obtain ⟨c, others, split⟩ := List.exists_cons_of_ne_nil (readable line (by simp)).visible
    have flat := ((readable line (by simp)).flat c (by simp [split])).1
    exact ⟨Nat.le_refl _, by simp [linesText, BlockLine.content, split, flat],
      fun less => absurd less (Nat.lt_irrefl _)⟩

/-- One line of a block is gathered, with the empty lines behind it. -/
theorem readBlockLines_line {line : BlockLine} {lead : Nat} (here : line.IsReadable)
    (behind : IsLineText width lead rest) (place : cursor.column = width)
    (ahead : cursor.rest = line.content ++ (pad lead ++ rest))
    (enough : line.empties.length < fuel) :
    ∃ gap', readBlockLines true width (fuel + 1) text last breaks gap cursor =
      readBlockLines true width fuel (gather (text, last, breaks) line).1 [line.ending] line.empties
        gap' (cursor.past (line.content ++ pad lead)) := by
  obtain ⟨ends, printable⟩ := isPlainBreak_iff.1 here.ending
  have flat : ∀ c ∈ line.text, isBreak c = false := fun c member => (here.flat c member).1
  have whole : cursor.rest = line.text ++ line.ending :: (line.empties ++ (pad lead ++ rest)) := by
    rw [ahead, BlockLine.content, List.append_assoc, List.cons_append]
  have taken : cursor.rest.takeWhile (fun c => !isBreak c) = line.text := by
    rw [whole, List.takeWhile_append_of_pos fun c member => by rw [flat c member]; rfl,
      List.takeWhile_cons_of_neg (by simp [ends]), List.append_nil]
  have ending := Cursor.rest_past whole
  have fresh : ((cursor.past line.text).past [line.ending]).column = 0 := by
    simp [Cursor.past_cons, Cursor.pass, ends]
  have next : ((cursor.past line.text).past [line.ending]).rest =
      line.empties ++ (pad lead ++ rest) := Cursor.rest_past ending
  obtain ⟨deepest, empties⟩ := readEmptyLines_known [] 0 here.empties behind fresh next enough
  refine ⟨cursor.rest.head?.any isGap, ?_⟩
  rw [readBlockLines, if_pos ⟨place, by simp [whole]⟩]
  simp only [taken, ← Cursor.past_eq_skip flat,
    Cursor.takeBreak_of_printable ending ends printable, empties, List.nil_append, Bool.not_true,
    Bool.false_and, Bool.false_eq_true, if_false]
  simp [gather, BlockLine.content, Cursor.past_append, Cursor.past_cons]

/-- The lines of a block are gathered one by one. -/
theorem readBlockLines_lines (readable : ∀ line ∈ lines, line.IsReadable)
    (ends : IsLineText width column rest) (short : column < width)
    (place : cursor.column = leadOf width column lines)
    (ahead : cursor.rest = linesText width column rest lines) (enough : cursor.rest.length < fuel) :
    readBlockLines true width fuel text last breaks gap cursor =
      some ((lines.foldl gather (text, last, breaks)).1,
        (lines.foldl gather (text, last, breaks)).2.1,
        (lines.foldl gather (text, last, breaks)).2.2,
        cursor.past (linesText width column [] lines)) := by
  obtain ⟨fuel, rfl⟩ := Nat.exists_eq_add_of_le' (show 1 ≤ fuel by omega)
  induction lines generalizing fuel text last breaks gap cursor with
  | nil =>
    have outside : cursor.column ≠ width := by
      rw [place]
      exact Nat.ne_of_lt short
    rw [readBlockLines, if_neg fun both => outside both.1]
    rfl
  | cons line lines ih =>
    have here := readable line List.mem_cons_self
    have later : ∀ line ∈ lines, line.IsReadable := fun other member =>
      readable other (List.mem_cons_of_mem _ member)
    have behind := isLineText_linesText later ends
    have size := congrArg List.length ahead
    simp only [linesText, BlockLine.content, List.length_append, List.length_cons] at size
    obtain ⟨smaller, rfl⟩ := Nat.exists_eq_add_of_le' (show 1 ≤ fuel by omega)
    obtain ⟨gap', read⟩ := @readBlockLines_line _ _ width text last breaks _ gap _ _ here behind
      place ahead (show line.empties.length < smaller + 1 by omega)
    have next := ahead
    rw [linesText, ← List.append_assoc] at next
    have arrived := Cursor.rest_past next
    have column : (cursor.past (line.content ++ pad (leadOf width column lines))).column =
        leadOf width column lines := by
      rw [BlockLine.content, List.append_assoc, List.cons_append, Cursor.past_append,
        Cursor.past_cons]
      apply Cursor.column_past_breaks_pad here.empties
      simp [Cursor.pass, (isPlainBreak_iff.1 here.ending).1]
    rw [read, ih later column arrived smaller (by rw [arrived]; omega)]
    simp [gather, linesText, Cursor.past_append]

/-! ### The lines of a text -/

/-- A text that ends its last line, and begins with a line that is not empty, is made of lines. -/
theorem exists_lines (printable : ∀ c ∈ text, isSpecial c = false)
    (ended : text.getLast?.all isBreak = true)
    (front : text.head?.all (fun c => !isBreak c) = true) :
    ∃ lines : List BlockLine, (∀ line ∈ lines, line.IsReadable) ∧
      text = lines.flatMap BlockLine.content := by
  induction worded isBreak text with
  | @word word solid =>
    cases last : word.getLast? with
    | none => exact ⟨[], by simp, by rw [List.getLast?_eq_none_iff.1 last]; rfl⟩
    | some c =>
      rw [last] at ended
      have flat := solid c (List.mem_of_getLast? last)
      rw [Option.all_some, flat] at ended
      cases ended
  | @gap word gap text solid visible breaks start _ ih =>
    obtain ⟨ending, empties, rfl⟩ := List.exists_cons_of_ne_nil visible
    have visible : word ≠ [] := by
      rintro rfl
      simp [breaks ending List.mem_cons_self] at front
    have inside : ∀ c ∈ text, isSpecial c = false := fun c member => printable c (by simp [member])
    have endedBehind : text.getLast?.all isBreak = true := by
      rw [← List.append_assoc, List.getLast?_append] at ended
      cases last : text.getLast? with
      | none => rfl
      | some c => rwa [last, Option.some_or] at ended
    obtain ⟨lines, readable, split⟩ := ih inside endedBehind start
    refine ⟨⟨word, ending, empties⟩ :: lines, ?_, ?_⟩
    · intro line member
      rcases List.mem_cons.1 member with rfl | later
      · exact ⟨visible, fun c member => ⟨solid c member, printable c (by simp [member])⟩,
          isPlainBreak_iff.2 ⟨breaks _ List.mem_cons_self, printable _ (by simp)⟩,
          fun c member => isPlainBreak_iff.2
            ⟨breaks c (List.mem_cons_of_mem _ member), printable c (by simp [member])⟩⟩
      · exact readable line later
    · rw [List.flatMap_cons, ← split]
      simp [BlockLine.content]

theorem indentLines_content {line : BlockLine} (readable : line.IsReadable) (rest : List Char) :
    indentLines width true (line.content ++ rest) =
      pad width ++ (line.content ++ indentLines width true rest) := by
  obtain ⟨text, ending, empties⟩ := line
  obtain ⟨c, others, rfl⟩ := List.exists_cons_of_ne_nil readable.visible
  have here := (readable.flat c List.mem_cons_self).1
  have later : ∀ d ∈ others, isBreak d = false := fun d member =>
    (readable.flat d (List.mem_cons_of_mem _ member)).1
  have breaks := (isPlainBreak_iff.1 readable.ending).1
  rw [BlockLine.content, List.append_assoc, List.cons_append, List.cons_append, indentLines,
    if_neg (by simp [here]), if_pos rfl, indentLines_flat later, indentLines, if_pos breaks,
    indentLines_breaks fun c member => (isPlainBreak_iff.1 (readable.empties c member)).1]
  simp

/-- What the printer writes for lines is what the reader takes as lines. -/
theorem indentLines_lines (readable : ∀ line ∈ lines, line.IsReadable) (rest : List Char) :
    indentLines width true (lines.flatMap BlockLine.content) ++ (pad column ++ rest) =
      pad (leadOf width column lines) ++ linesText width column rest lines := by
  induction lines with
  | nil => rfl
  | cons line lines ih =>
    rw [List.flatMap_cons, indentLines_content (readable line List.mem_cons_self),
      List.append_assoc, List.append_assoc,
      ih fun other member => readable other (List.mem_cons_of_mem _ member)]
    rfl

/-! ### The end of a block -/

/-- Everything that was read so far. -/
def joined (read : List Char × List Char × List Char) : List Char :=
  read.1 ++ read.2.1 ++ read.2.2

theorem joined_gather (lines : List BlockLine) (read : List Char × List Char × List Char) :
    joined (lines.foldl gather read) = joined read ++ lines.flatMap BlockLine.content := by
  induction lines generalizing read with
  | nil => simp
  | cons line lines ih =>
    rw [List.foldl_cons, ih, List.flatMap_cons]
    simp [joined, gather, BlockLine.content]

/-- What becomes of the breaks at the end of a text, by the header that is written for it. -/
def chompingOf (text : List Char) : Chomping :=
  match text.reverse with
  | [] => .strip
  | [c] => if isBreak c then .keep else .strip
  | c :: d :: _ => if isBreak c then (if isBreak d then .keep else .clip) else .strip

/-- The breaks at the end that belong to the text. -/
def Chomping.tail (chomping : Chomping) (last breaks : List Char) : List Char :=
  match chomping with
  | .strip => []
  | .clip => last
  | .keep => last ++ breaks

/-- Where not all breaks at the end are kept, there is one. -/
theorem exists_of_chompingOf (visible : text ≠ []) :
    (chompingOf text = .keep ∧ endLine text = text) ∨ ∃ front d c, isBreak d = false ∧
      endLine text = front ++ [d, c] ∧
      text = front ++ [d] ++ (chompingOf text).tail [c] [] := by
  have split := List.reverse_reverse text
  cases reversed : text.reverse with
  | nil => exact absurd (List.reverse_eq_nil_iff.1 reversed) visible
  | cons c others =>
    rw [reversed, List.reverse_cons] at split
    have last : text.getLast? = some c := by rw [← split]; simp
    cases breaks : isBreak c with
    | false =>
      right
      have strip : chompingOf text = .strip := by
        rw [chompingOf, reversed]
        cases others <;> simp [breaks]
      refine ⟨others.reverse, c, '\n', breaks, ?_, ?_⟩
      · rw [endLine, last, Option.any_some, breaks, if_neg (by decide), ← split]
        simp
      · rw [strip, ← split]
        simp [Chomping.tail]
    | true =>
      have closed : endLine text = text := by
        rw [endLine, last, Option.any_some, breaks, if_pos rfl]
      cases others with
      | nil => exact Or.inl ⟨by rw [chompingOf, reversed]; simp [breaks], closed⟩
      | cons d others =>
        cases before : isBreak d with
        | true => exact Or.inl ⟨by rw [chompingOf, reversed]; simp [breaks, before], closed⟩
        | false =>
          have clip : chompingOf text = .clip := by
            rw [chompingOf, reversed]
            simp [breaks, before]
          refine Or.inr ⟨others.reverse, d, c, before, ?_, ?_⟩
          · rw [closed, ← split]
            simp
          · rw [clip, ← split]
            simp [Chomping.tail]

/-- A row of breaks at the end, with something else in front of the last character, is one
break. -/
theorem eq_of_single_break {front text breaks : List Char} {c d ending : Char}
    (same : text ++ ending :: breaks = front ++ [d, c]) (flat : isBreak d = false)
    (first : isBreak ending = true) (others : ∀ e ∈ breaks, isBreak e = true) :
    breaks = [] ∧ text = front ++ [d] ∧ ending = c := by
  rcases List.eq_nil_or_concat breaks with rfl | ⟨init, e, rfl⟩
  · have inner := List.append_inj'
      (show text ++ [ending] = (front ++ [d]) ++ [c] by simpa using same)
      rfl
    exact ⟨rfl, inner.1, by simpa using inner.2⟩
  · rw [List.concat_eq_append] at same others
    have inner := (List.append_inj' (show (text ++ ending :: init) ++ [e] = (front ++ [d]) ++ [c] by
      simpa using same) rfl).1
    have member : d ∈ ending :: init := by
      have last := congrArg List.getLast? inner
      rw [List.getLast?_append, List.getLast?_concat] at last
      apply List.mem_of_getLast?
      rwa [List.getLast?_cons, Option.some_or, ← List.getLast?_cons] at last
    have breaks : isBreak d = true := by
      rcases List.mem_cons.1 member with rfl | inside
      · exact first
      · exact others d (List.mem_append_left _ inside)
    rw [flat] at breaks
    cases breaks

/-- The text of a block is what was written into it. -/
theorem gather_chomped (visible : text ≠ []) {empties : List Char}
    (plain : ∀ c ∈ empties, isPlainBreak c = true) (readable : ∀ line ∈ lines, line.IsReadable)
    (split : endLine text = empties ++ lines.flatMap BlockLine.content) :
    (lines.foldl gather ([], [], empties)).1 ++
      (chompingOf text).tail (lines.foldl gather ([], [], empties)).2.1
        (lines.foldl gather ([], [], empties)).2.2 = text := by
  rcases exists_of_chompingOf visible with ⟨keep, closed⟩ | ⟨front, d, c, flat, ended, same⟩
  · rw [keep, Chomping.tail, ← List.append_assoc]
    change joined (lines.foldl gather ([], [], empties)) = text
    rw [joined_gather, ← closed, split]
    rfl
  · rcases List.eq_nil_or_concat lines with rfl | ⟨init, line, rfl⟩
    · have inside : d ∈ empties := by
        rw [ended, List.flatMap_nil, List.append_nil] at split
        rw [← split]
        simp
      have breaks := (isPlainBreak_iff.1 (plain d inside)).1
      rw [flat] at breaks
      cases breaks
    · rw [List.concat_eq_append] at readable split ⊢
      have here := readable line (by simp)
      have before := joined_gather init ([], [], empties)
      rw [List.foldl_append, List.foldl_cons, List.foldl_nil]
      generalize init.foldl gather ([], [], empties) = read at before ⊢
      have whole : joined read ++ line.text ++ (line.ending :: line.empties) = front ++ [d, c] := by
        rw [before, ← ended, split]
        simp [joined, BlockLine.content]
      obtain ⟨lone, inner, rfl⟩ := eq_of_single_break whole flat
        (isPlainBreak_iff.1 here.ending).1
        fun e member => (isPlainBreak_iff.1 (here.empties e member)).1
      simp only [gather, lone]
      rw [show read.1 ++ read.2.1 ++ read.2.2 ++ line.text = front ++ [d] from inner]
      exact same.symm

/-! ### The header -/

/-- The sign of a header for what becomes of the breaks at the end. -/
def Chomping.sign : Chomping → List Char
  | .strip => ['-']
  | .clip => []
  | .keep => ['+']

/-- Whether the indentation of a block has to be given, since its text begins with a gap. -/
def givesIndent (text : List Char) : Bool := text.head?.any fun c => isSpace c || isBreak c

def headerSigns (deep : Bool) (chomping : Chomping) : List Char :=
  (if deep then ['2'] else []) ++ chomping.sign

theorem literalHeader_eq (text : List Char) :
    literalHeader text = '|' :: headerSigns (givesIndent text) (chompingOf text) := by
  rw [headerSigns, chompingOf]
  refine congrArg ('|' :: ·) (congr (congrArg _ ?indent) ?chomp)
  case indent =>
    cases text with
    | nil => rfl
    | cons c text => rfl
  case chomp =>
    rcases text.reverse with _ | ⟨c, _ | ⟨d, others⟩⟩
    · rfl
    · change (if isBreak c then ['+'] else ['-']) =
        Chomping.sign (if isBreak c then .keep else .strip)
      split <;> rfl
    · change (if isBreak c then (if isBreak d then ['+'] else []) else ['-']) =
        Chomping.sign (if isBreak c then (if isBreak d then .keep else .clip) else .strip)
      split
      · split <;> rfl
      · rfl

theorem readHeader?_signs {deep : Bool} {chomping : Chomping}
    (ahead : cursor.rest = headerSigns deep chomping ++ '\n' :: rest) :
    readHeader? cursor = some (if deep then some 2 else none, chomping,
      cursor.past (headerSigns deep chomping ++ ['\n'])) := by
  have finish : ∀ {cursor : Cursor}, cursor.rest = '\n' :: rest →
      cursor.finishLine? = some (cursor.past ['\n']) := by
    intro cursor here
    have gaps : cursor.skipWhile isGap = cursor := by
      rw [Cursor.skipWhile, here]
      rfl
    have comment : cursor.skipComment = cursor := by
      rw [Cursor.skipComment, here]
      rfl
    rw [Cursor.finishLine?, gaps, comment, here,
      if_pos (show atLineEnd ('\n' :: rest) = true from rfl), Cursor.skipBreak,
      Cursor.takeBreak_of_rest here isBreak_newline (by decide)]
  obtain ⟨here, index, line, column⟩ := cursor
  subst ahead
  cases deep <;> cases chomping <;>
    simp [readHeader?, headerSigns, Chomping.sign, Cursor.skip, Text.isDigit, finish,
      Cursor.past_cons, Cursor.pass, isBreak]

/-! ### Whole blocks -/

/-- The text of a block as empty lines and lines; without empty lines where the text does not
begin with a break. -/
theorem exists_block (visible : text ≠ []) (printable : ∀ c ∈ text, isSpecial c = false) :
    ∃ (empties : List Char) (lines : List BlockLine), (∀ c ∈ empties, isPlainBreak c = true) ∧
      (∀ line ∈ lines, line.IsReadable) ∧
      endLine text = empties ++ lines.flatMap BlockLine.content ∧
      (givesIndent text = false → empties = []) := by
  have closed : ∀ c ∈ endLine text, isSpecial c = false :=
    forall_mem_endLine printable (by decide)
  have whole := List.takeWhile_append_dropWhile (p := isBreak) (l := endLine text)
  have ended : ((endLine text).dropWhile isBreak).getLast?.all isBreak = true := by
    obtain ⟨before, last, same, breaks⟩ := exists_endLine text
    cases final : ((endLine text).dropWhile isBreak).getLast? with
    | none => rfl
    | some c =>
      rw [same] at whole final
      have both := congrArg List.getLast? whole
      rw [List.getLast?_append, final, List.getLast?_concat] at both
      cases both
      exact breaks
  obtain ⟨lines, readable, split⟩ := exists_lines
    (fun c member => closed c ((List.dropWhile_suffix isBreak).subset member)) ended
    (all_head?_dropWhile isBreak _)
  refine ⟨(endLine text).takeWhile isBreak, lines, ?_, readable, ?_, ?_⟩
  · intro c member
    exact isPlainBreak_iff.2 ⟨List.all_eq_true.1 List.all_takeWhile c member,
      closed c ((List.takeWhile_prefix isBreak).subset member)⟩
  · rw [← split, whole]
  · intro first
    obtain ⟨c, others, rfl⟩ := List.exists_cons_of_ne_nil visible
    simp only [givesIndent, List.head?_cons, Option.any_some, Bool.or_eq_false_iff] at first
    obtain ⟨more, same⟩ := List.head?_eq_some_iff.1 (head?_endLine visible)
    rw [same, List.takeWhile_cons_of_neg (by simp [first.2])]

/-- The indentation of the first line, where it is not given. -/
theorem readEmptyLines_detect (fresh : cursor.column = 0) (ahead : cursor.rest = pad width ++ rest)
    (visible : rest ≠ []) (token : atWord rest = true) :
    readEmptyLines none (fuel + 1) [] 0 cursor = some ([], width, cursor.past (pad width)) := by
  obtain ⟨c, others, rfl⟩ := List.exists_cons_of_ne_nil visible
  simp only [atWord, List.head?_cons, Option.all_some, isGap, Bool.not_or, Bool.and_eq_true,
    Bool.not_eq_true'] at token
  obtain ⟨⟨space, tab⟩, flat⟩ := token
  have spaces : ((pad width ++ c :: others).takeWhile (· == ' ')).length = width := by
    rw [takeWhile_pad, List.takeWhile_cons_of_neg (by rw [space]; simp), List.length_nil,
      Nat.add_zero]
  have next : (cursor.skip width).rest = c :: others := by
    rw [Cursor.rest_skip, ahead]
    exact List.drop_left' (length_pad width)
  simp only [readEmptyLines, ahead, spaces, next, tab, flat, Cursor.past_pad, Cursor.column_skip,
    fresh, Bool.and_false, Bool.false_eq_true, if_false, Nat.zero_add, Nat.zero_max]

/-- The indentation of a block behind its header, given there or found with the first line. -/
theorem readEmptyLines_block {lines : List BlockLine} (visible : text ≠ [])
    (printable : ∀ c ∈ text, isSpecial c = false) (wide : width = parent.toNat + 2)
    (plain : ∀ c ∈ breaks, isPlainBreak c = true) (readable : ∀ line ∈ lines, line.IsReadable)
    (ends : IsLineText width column rest)
    (split : endLine text = breaks ++ lines.flatMap BlockLine.content)
    (solid : givesIndent text = false → breaks = []) (fresh : cursor.column = 0)
    (ahead : cursor.rest =
      breaks ++ (pad (leadOf width column lines) ++ linesText width column rest lines)) :
    ∃ deepest,
      readEmptyLines ((if givesIndent text then some 2 else none).map fun width =>
          if 0 ≤ parent then parent.toNat + width else width) (cursor.rest.length + 1) [] 0 cursor =
        some (breaks, deepest, cursor.past (breaks ++ pad (leadOf width column lines))) ∧
      ((if givesIndent text then some 2 else none).map fun width =>
        if 0 ≤ parent then parent.toNat + width else width).getD
          (max deepest (max (parent + 1).toNat 1)) = width := by
  have given : (if 0 ≤ parent then parent.toNat + 2 else 2) = width := by
    split <;> omega
  cases gives : givesIndent text with
  | true =>
    simp only [if_true, Option.map_some, given]
    have room : breaks.length < cursor.rest.length + 1 := by
      rw [ahead, List.length_append]
      omega
    obtain ⟨deepest, read⟩ :=
      readEmptyLines_known [] 0 plain (isLineText_linesText readable ends) fresh ahead room
    exact ⟨deepest, read, rfl⟩
  | false =>
    obtain rfl := solid gives
    refine ⟨width, ?_, ?_⟩
    · have first := head?_endLine visible
      rw [split, List.nil_append] at first
      cases lines with
      | nil => exact absurd (List.head?_eq_none_iff.1 first.symm) visible
      | cons line lines =>
        obtain ⟨c, others, same⟩ := List.exists_cons_of_ne_nil (readable line (by simp)).visible
        have front : (linesText width column rest (line :: lines)).head? = text.head? := by
          rw [← first]
          simp [linesText, BlockLine.content, same]
        apply readEmptyLines_detect fresh ahead
        · simp [linesText, BlockLine.content, same]
        · obtain ⟨d, behind, rfl⟩ := List.exists_cons_of_ne_nil visible
          rw [atWord, front]
          simpa [isGap_eq_isSpace (printable d List.mem_cons_self), givesIndent] using gives
    · simp only [Bool.false_eq_true, if_false, Option.map_none, Option.getD_none]
      omega

/-- What ends a block is indented less than the block. -/
theorem Resumes.isLineText (resumes : Resumes parent column rest) (short : column < width) :
    IsLineText width column rest := by
  have token := resumes.token
  cases rest with
  | nil => exact ⟨Nat.le_of_lt short, rfl, fun _ => rfl⟩
  | cons c rest =>
    simp only [atToken, List.head?_cons, Option.all_some, Bool.not_or, Bool.and_eq_true] at token
    exact ⟨Nat.le_of_lt short, token.1.1.2, fun _ => token.1.1.1⟩

/-- The text of a block as the printer writes it, and as the reader takes it. -/
theorem indentLines_block (plain : ∀ c ∈ breaks, isPlainBreak c = true)
    (readable : ∀ line ∈ lines, line.IsReadable)
    (split : endLine text = breaks ++ lines.flatMap BlockLine.content) (rest : List Char) :
    indentLines width true (endLine text) ++ (pad column ++ rest) =
      breaks ++ (pad (leadOf width column lines) ++ linesText width column rest lines) := by
  rw [split, indentLines_breaks fun c member => (isPlainBreak_iff.1 (plain c member)).1,
    List.append_assoc, indentLines_lines readable]

/-- A literal block is read back as the text that was written. -/
theorem readBlock_literal (visible : text ≠ []) (printable : ∀ c ∈ text, isSpecial c = false)
    (wide : width = parent.toNat + 2) (resumes : Resumes parent column rest)
    (ahead : cursor.rest = (literalHeader text).tail ++
      '\n' :: (indentLines width true (endLine text) ++ (pad column ++ rest))) :
    readBlock true parent cursor = some (text, cursor.past ((literalHeader text).tail ++
      '\n' :: (indentLines width true (endLine text) ++ pad column))) := by
  obtain ⟨empties, lines, plain, readable, split, solid⟩ := exists_block visible printable
  have body := @indentLines_block width column _ _ _ plain readable split
  have short : column < width := by
    rcases resumes.outside with inside | ⟨-, start⟩ <;> omega
  have ends := resumes.isLineText short
  rw [literalHeader_eq, List.tail_cons] at ahead ⊢
  have header := readHeader?_signs ahead
  generalize headerSigns (givesIndent text) (chompingOf text) = signs at ahead header ⊢
  have fresh : (cursor.past (signs ++ ['\n'])).column = 0 := by
    rw [Cursor.past_append]
    rfl
  have start : (cursor.past (signs ++ ['\n'])).rest =
      empties ++ (pad (leadOf width column lines) ++ linesText width column rest lines) := by
    rw [← body]
    apply Cursor.rest_past
    rw [ahead]
    simp
  obtain ⟨deepest, read, indent⟩ :=
    readEmptyLines_block visible printable wide plain readable ends split solid fresh start
  rw [← List.append_assoc] at start
  have next := Cursor.rest_past start
  have lead := Cursor.column_past_breaks_pad plain fresh (leadOf width column lines)
  rw [readBlock, header]
  simp only [Option.bind_eq_bind, Option.bind_some, read, indent,
    readBlockLines_lines readable ends short lead next (Nat.lt_succ_self _)]
  have place :
      cursor.past (signs ++ '\n' :: (indentLines width true (endLine text) ++ pad column)) =
      ((cursor.past (signs ++ ['\n'])).past (empties ++ pad (leadOf width column lines))).past
        (linesText width column [] lines) := by
    have written := body []
    rw [List.append_nil] at written
    rw [written]
    simp [Cursor.past_append, Cursor.past_cons]
  rw [place]
  exact congrArg some (Prod.ext (gather_chomped visible plain readable split) rfl)

end SaveManifest.Yaml
