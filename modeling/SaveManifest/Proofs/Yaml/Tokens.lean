import SaveManifest.Proofs.Yaml.Situation
import SaveManifest.Proofs.Yaml.Written

/-!
# Steps of the lexer

What each token that ends a line or begins an item leads to: the indicators of items and keys, the
colon of a value, scalars and the empty collections.
-/

namespace SaveManifest.Yaml.Lexer

variable {lexer : Lexer} {situation : Situation} {tokens : List Token} {indent : Int}
  {indents : List Int} {keyAllowed : Bool} {column width fuel : Nat} {rest : List Char} {c : Char}

/-- The token in front of a collection that begins at a column: none where it belongs to the block
around. -/
def opens (indent : Int) (column : Nat) (opening : Token) : List Token :=
  if indent < column then [opening] else []

/-- The indentations inside a collection that begins at a column. -/
def within (indent : Int) (indents : List Int) (column : Nat) : List Int :=
  if indent < column then column :: indent :: indents else indent :: indents

/-! ### Frames -/

theorem Holds.emit (holds : lexer.Holds situation) (token : Token) (cursor : Cursor) :
    (lexer.emit token cursor).Holds { situation with
      tokens := situation.tokens ++ [token], column := cursor.column, rest := cursor.rest } where
  rest := rfl
  column := rfl
  indents := holds.indents
  outside := holds.outside
  keyAllowed := holds.keyAllowed
  tokens := by
    rw [Lexer.emit, List.reverse_cons, resolveSlots_append, holds.tokens, resolveSlots_token]
  slots := by
    intro number member
    rcases List.mem_cons.1 member with token | former
    · cases token
    · exact holds.slots number former
  fillings := holds.fillings

theorem Holds.allow (holds : lexer.Holds situation) (allowed : Bool) :
    { lexer with keyAllowed := allowed }.Holds { situation with keyAllowed := allowed } :=
  ⟨holds.rest, holds.column, holds.indents, holds.outside, rfl, holds.tokens, holds.slots,
    holds.fillings⟩

theorem giveUp_of_none (none : lexer.candidate = none) : lexer.giveUp = some lexer := by
  have same : { lexer with candidate := Option.none } = lexer := by rw [← none]
  rw [giveUp, none, Option.any_none, if_neg (by decide), same]

/-- What stands in front of a token that opens a collection or goes on with it. -/
theorem Stands.open (stands : lexer.Stands ⟨tokens, indent :: indents, keyAllowed, column, rest⟩)
    (opening : Token) :
    ∃ next : Lexer, ((lexer.openBlock column opening).1.emitAll
        (lexer.openBlock column opening).2) = next ∧ next.cursor = lexer.cursor ∧
      next.Stands ⟨tokens ++ opens indent column opening, within indent indents column, keyAllowed,
        column, rest⟩ := by
  obtain ⟨here, around⟩ := List.cons.inj stands.indents
  refine ⟨_, rfl, ?_⟩
  rw [openBlock, stands.inFlow, opens, within, here]
  by_cases deeper : indent < column
  · simp only [deeper, decide_true, Bool.not_false, Bool.and_self, if_true]
    have entered : Holds
        { lexer with indent := column, outerIndents := indent :: lexer.outerIndents }
        ⟨tokens, column :: indent :: indents, keyAllowed, column, rest⟩ :=
      ⟨stands.rest, stands.column, by rw [around], stands.outside, stands.keyAllowed, stands.tokens,
        stands.slots, stands.fillings⟩
    have emitted := entered.emit opening lexer.cursor
    rw [stands.rest, stands.column] at emitted
    exact ⟨rfl, emitted, stands.candidate⟩
  · simp only [deeper, decide_false, Bool.not_false, Bool.and_false, Bool.false_eq_true, if_false,
      List.append_nil]
    exact ⟨rfl, stands⟩

/-! ### Indicators -/

/-- Only dashes and dots begin the marker of a document. -/
theorem atMarker_of_sign (ahead : lexer.cursor.rest = c :: rest) (dash : c ≠ '-') (dot : c ≠ '.') :
    lexer.cursor.atMarker = false := by
  rw [Cursor.atMarker, ahead]
  simp [dash, dot]

theorem token_entry (ahead : lexer.cursor.rest = '-' :: ' ' :: rest) :
    token fuel lexer '-' (' ' :: rest) = lexer.indicator .blockSequence .blockEntry true := by
  have marker : lexer.cursor.atMarker = false := by
    rw [Cursor.atMarker, ahead]
    simp
  simp only [token, marker]
  simp [atGap, isGap]

theorem token_question (outside : lexer.inFlow = false)
    (ahead : lexer.cursor.rest = '?' :: ' ' :: rest) :
    token fuel lexer '?' (' ' :: rest) = lexer.indicator .blockMapping .key true := by
  simp only [token, atMarker_of_sign ahead (by decide) (by decide), outside]
  simp [atGap, isGap]

theorem token_colon (outside : lexer.inFlow = false) (gap : atGap rest = true)
    (ahead : lexer.cursor.rest = ':' :: rest) : token fuel lexer ':' rest = lexer.value := by
  simp only [token, atMarker_of_sign ahead (by decide) (by decide), outside, gap]
  simp

/-- Where no key can have begun, the colon of a value is an indicator like the others. -/
theorem value_eq_indicator (outside : lexer.inFlow = false) (none : lexer.candidate = none) :
    lexer.value = lexer.indicator .blockMapping .value true := by
  have still : ((lexer.openBlock lexer.cursor.column .blockMapping).1.emitAll
      (lexer.openBlock lexer.cursor.column .blockMapping).2).candidate = Option.none := by
    unfold openBlock
    split <;> exact none
  have flow : ((lexer.openBlock lexer.cursor.column .blockMapping).1.emitAll
      (lexer.openBlock lexer.cursor.column .blockMapping).2).inFlow = false := by
    unfold openBlock
    split <;> exact outside
  rw [value, none, indicator]
  simp only [giveUp_of_none still, flow]
  rfl

/-- An indicator and the space behind it. -/
theorem leads_indicator {opening found : Token} (inside : indent ≤ column)
    (solid : atToken (c :: ' ' :: rest) = true) (token : atToken rest = true)
    (reads : ∀ {fuel : Nat} {lexer : Lexer}, lexer.inFlow = false → lexer.candidate = none →
      lexer.cursor.rest = c :: ' ' :: rest →
        Lexer.token fuel lexer c (' ' :: rest) = lexer.indicator opening found true) :
    Leads ⟨tokens, indent :: indents, true, column, c :: ' ' :: rest⟩
      ⟨tokens ++ opens indent column opening ++ [found], within indent indents column, true,
        column + 2, rest⟩ := by
  refine Leads.trans ?_ (leads_space token)
  apply leads_of_token solid inside (Nat.le_refl _)
  intro lexer stands
  obtain ⟨next, opened, cursor, standsNext⟩ := stands.open opening
  have behind : (next.cursor.skip 1).rest = ' ' :: rest := by
    rw [Cursor.rest_skip, standsNext.rest]
    rfl
  have emitted := (standsNext.toHolds.allow true).emit found (next.cursor.skip 1)
  rw [behind, Cursor.column_skip, standsNext.column] at emitted
  refine ⟨_, ⟨emitted, standsNext.candidate⟩, ?_⟩
  intro fuel _
  rw [reads stands.inFlow stands.candidate stands.rest, indicator]
  simp only [stands.inFlow, stands.keyAllowed, stands.column, Bool.not_true, Bool.and_false]
  rw [if_neg (by decide), opened, giveUp_of_none standsNext.candidate]
  rfl

/-- The dash of an item. -/
theorem leads_entry (inside : indent ≤ column) (token : atToken rest = true) :
    Leads ⟨tokens, indent :: indents, true, column, '-' :: ' ' :: rest⟩
      ⟨tokens ++ opens indent column .blockSequence ++ [.blockEntry], within indent indents column,
        true, column + 2, rest⟩ :=
  leads_indicator inside rfl token fun _ _ ahead => token_entry ahead

/-- The question mark of a key on lines of its own. -/
theorem leads_question (inside : indent ≤ column) (token : atToken rest = true) :
    Leads ⟨tokens, indent :: indents, true, column, '?' :: ' ' :: rest⟩
      ⟨tokens ++ opens indent column .blockMapping ++ [.key], within indent indents column, true,
        column + 2, rest⟩ :=
  leads_indicator inside rfl token fun outside _ ahead => token_question outside ahead

/-- The colon of a value whose key stands on lines of its own. -/
theorem leads_colon (inside : indent ≤ column) (token : atToken rest = true) :
    Leads ⟨tokens, indent :: indents, true, column, ':' :: ' ' :: rest⟩
      ⟨tokens ++ opens indent column .blockMapping ++ [.value], within indent indents column, true,
        column + 2, rest⟩ := by
  refine leads_indicator inside rfl token fun outside none ahead => ?_
  rw [token_colon outside rfl ahead, value_eq_indicator outside none]

/-! ### Candidates -/

/-- The lexer with a candidate where it stands. -/
def proposed (lexer : Lexer) : Lexer :=
  { lexer with
    candidate := some {
      slot := lexer.slots
      required := lexer.indent == lexer.cursor.column
      index := lexer.cursor.index
      line := lexer.cursor.line
      column := lexer.cursor.column }
    items := .slot lexer.slots :: lexer.items
    slots := lexer.slots + 1 }

theorem Holds.propose (holds : lexer.Holds situation) : lexer.proposed.Holds situation where
  rest := holds.rest
  column := holds.column
  indents := holds.indents
  outside := holds.outside
  keyAllowed := holds.keyAllowed
  tokens := by
    have empty : lexer.fillings.lookup lexer.slots = none := by
      rw [List.lookup_eq_none_iff]
      intro filling member
      have less := holds.fillings filling member
      simp only [bne_iff_ne]
      omega
    rw [proposed, List.reverse_cons, resolveSlots_append, holds.tokens]
    simp [resolveSlots, empty]
  slots := by
    intro number member
    rcases List.mem_cons.1 member with slot | former
    · cases slot
      exact Nat.lt_succ_self _
    · exact Nat.lt_succ_of_lt (holds.slots number former)
  fillings := fun filling member => Nat.lt_succ_of_lt (holds.fillings filling member)

theorem Stands.propose_eq (stands : lexer.Stands situation) :
    lexer.propose = some (if situation.keyAllowed then lexer.proposed else lexer) := by
  rw [propose, stands.keyAllowed]
  cases situation.keyAllowed with
  | false => rfl
  | true =>
    rw [if_pos rfl, giveUp_of_none stands.candidate]
    simp only [Option.bind_eq_bind, Option.bind_some, stands.inFlow, Bool.not_false, Bool.true_and]
    rfl

/-- A token that may begin a key, deeper than the block around: what is left is a candidate that
need not be one. -/
theorem Stands.propose (stands : lexer.Stands situation)
    (deeper : ∀ indent ∈ situation.indents.head?, indent < situation.column) :
    ∃ next : Lexer, lexer.propose = some next ∧ next.Holds situation ∧ next.cursor = lexer.cursor ∧
      ∀ candidate, next.candidate = some candidate →
        candidate.required = false ∧ candidate.line = lexer.cursor.line := by
  rw [stands.propose_eq]
  cases situation.keyAllowed with
  | false => exact ⟨lexer, rfl, stands.toHolds, rfl, by simp [stands.candidate]⟩
  | true =>
    refine ⟨lexer.proposed, rfl, stands.toHolds.propose, rfl, ?_⟩
    intro candidate held
    cases held
    have less := deeper lexer.indent (by rw [← stands.indents]; rfl)
    refine ⟨?_, rfl⟩
    rw [stands.column]
    simp only [beq_eq_false_iff_ne]
    omega

/-! ### Scalars at the end of a line -/

/-- A token that may begin a key and ends a line. -/
theorem leads_atom {found : Token} {written behind : List Char} (deeper : indent < column)
    (solid : atToken (c :: behind) = true)
    (split : c :: behind = written ++ '\n' :: (pad width ++ rest)) (visible : written ≠ [])
    (token : atToken rest = true)
    (reads : ∀ {fuel : Nat} {lexer : Lexer},
      lexer.Stands ⟨tokens, indent :: indents, keyAllowed, column, c :: behind⟩ →
        behind.length < fuel → ∃ read, Lexer.token (fuel + 1) lexer c behind = lexer.atom read ∧
          read lexer.cursor = some (found, lexer.cursor.past written)) :
    Leads ⟨tokens, indent :: indents, keyAllowed, column, c :: behind⟩
      ⟨tokens ++ [found], indent :: indents, true, width, rest⟩ := by
  have size := congrArg List.length split
  have long := List.length_pos_iff.2 visible
  simp only [List.length_cons, List.length_append] at size
  apply leads_of_token solid (Int.le_of_lt deeper) (by simp only; omega)
  intro lexer stands
  obtain ⟨middle, proposes, holds, cursor, optional⟩ := stands.propose (by simpa using deeper)
  have emitted := (holds.allow false).emit found (lexer.cursor.past written)
  rw [Cursor.rest_past (stands.rest.trans split)] at emitted
  obtain ⟨next, standsNext, same⟩ := settle_line emitted token (by
    intro candidate held
    obtain ⟨optional, line⟩ := optional candidate held
    exact ⟨optional, by rw [line]; exact Cursor.line_le_past⟩)
  refine ⟨next, standsNext, ?_⟩
  intro fuel enough
  obtain ⟨read, reader, result⟩ := reads stands enough
  obtain ⟨fuel, rfl⟩ := Nat.exists_eq_add_of_le' (show 2 ≤ fuel by omega)
  rw [reader, atom, proposes, Option.bind_eq_bind, Option.bind_some, cursor, result,
    ← same fuel]
  rfl

theorem token_quoted {single : Bool} {behind : List Char}
    (ahead : lexer.cursor.rest = closing single :: behind) :
    token fuel lexer (closing single) behind = quoted fuel lexer single := by
  have marker : lexer.cursor.atMarker = false :=
    atMarker_of_sign ahead (by cases single <;> decide) (by cases single <;> decide)
  simp only [token, marker]
  cases single <;> simp [closing]

/-- A quoted scalar is read up to its closing quote. -/
theorem token_quoted_spec {single : Bool} {text written after : List Char} {inner : Nat}
    (quoted : Quoted single inner text written) (indented : 0 < inner)
    (lone : after.head? ≠ some '\'')
    (ahead : lexer.cursor.rest = closing single :: (written ++ closing single :: after))
    (enough : (written ++ closing single :: after).length < fuel) :
    ∃ read, token fuel lexer (closing single) (written ++ closing single :: after) =
        lexer.atom read ∧
      read lexer.cursor = some (.scalar (quotedStyleOf single) (String.ofList text),
        lexer.cursor.past (closing single :: (written ++ [closing single]))) := by
  have flat : isBreak (closing single) = false := by cases single <;> decide
  refine ⟨_, token_quoted ahead, ?_⟩
  have behind : (lexer.cursor.skip 1).rest = written ++ closing single :: after := by
    rw [Cursor.rest_skip, ahead]
    rfl
  have place : lexer.cursor.past (closing single :: (written ++ [closing single])) =
      (lexer.cursor.skip 1).past (written ++ [closing single]) := by
    rw [Cursor.past_cons, Cursor.pass, flat]
    rfl
  rw [readQuoted_of_quoted quoted indented behind (by rw [Cursor.column_skip]; omega)
    (fun _ => lone) (by rw [behind]; exact enough), place]
  rfl

/-- A quoted scalar at the end of a line. -/
theorem leads_quoted {single : Bool} {text written : List Char} {inner : Nat}
    (deeper : indent < column) (quoted : Quoted single inner text written) (indented : 0 < inner)
    (token : atToken rest = true) :
    Leads ⟨tokens, indent :: indents, keyAllowed, column,
        closing single :: (written ++ closing single :: '\n' :: (pad width ++ rest))⟩
      ⟨tokens ++ [.scalar (quotedStyleOf single) (String.ofList text)], indent :: indents, true,
        width, rest⟩ := by
  have split : closing single :: (written ++ closing single :: '\n' :: (pad width ++ rest)) =
      (closing single :: (written ++ [closing single])) ++ '\n' :: (pad width ++ rest) := by simp
  refine leads_atom deeper (atToken_closing single _) split (by simp) token ?_
  intro fuel lexer stands enough
  exact token_quoted_spec quoted indented (by simp) stands.rest (Nat.lt_succ_of_lt enough)

/-- A text that may be written without quotes begins with no indicator: neither with one that is
an indicator anywhere, nor with one that is in front of a gap. -/
theorem first_of_plainAllowed {text : List Char} (allowed : plainAllowed (c :: text) = true)
    (after : List Char) :
    (∀ indicator ∈ indicators, c ≠ indicator) ∧
      ∀ sign ∈ ['?', ':', '-'], c = sign → atGap (text ++ after) = false := by
  have indicator : beginsWithIndicator (c :: text) = false := by
    simp only [plainAllowed, Bool.and_eq_true, Bool.not_eq_true'] at allowed
    exact allowed.1.1.1.1.1.2
  rw [beginsWithIndicator, Bool.or_eq_false_iff] at indicator
  obtain ⟨first, signs⟩ := indicator
  constructor
  · rintro indicator member rfl
    rw [List.contains_eq_mem, decide_eq_false_iff_not] at first
    exact first member
  · rintro sign member rfl
    have sign : (c == '?' || c == ':' || c == '-') = true := by simpa [or_assoc] using member
    rw [sign, Bool.true_and] at signs
    cases text with
    | nil => cases signs
    | cons d text => exact signs

theorem beginsPlain_of_plainAllowed {text : List Char} (allowed : plainAllowed (c :: text) = true)
    (after : List Char) : beginsPlain false c (text ++ after) = true := by
  obtain ⟨others, solid⟩ := first_of_plainAllowed allowed after
  have shape := isPlainTail_of_plainAllowed allowed (List.cons_ne_nil c text)
  obtain ⟨flat, tab⟩ := shape.flat c List.mem_cons_self
  have space := shape.front
  simp only [List.head?_cons, Option.all_some, Bool.not_eq_true', isSpace] at space
  have first : indicators.contains c = false := by
    rw [List.contains_eq_mem, decide_eq_false_iff_not]
    exact fun member => others c member rfl
  have gap : c = '-' → (text ++ after).head?.any isGap = false := by
    intro sign
    have none := solid '-' (by decide) sign
    cases behind : text ++ after with
    | nil => rfl
    | cons d others =>
      rw [behind] at none
      simp only [atGap, Bool.or_eq_false_iff] at none
      exact none.1
  rw [beginsPlain, if_neg (by simp [isGap, space, flat, tab])]
  split
  · next sign => rw [gap (by simpa using sign)]; rfl
  · split
    · next sign =>
      rw [Bool.or_eq_true, beq_iff_eq, beq_iff_eq] at sign
      rcases sign with same | same
      · rw [solid '?' (by decide) same]; rfl
      · rw [solid ':' (by decide) same]; rfl
    · rw [first]; rfl

/-- A text that may be written without quotes is read as a plain scalar. -/
theorem token_plain {text after : List Char} {atEnd : Bool} {passed : List Char}
    (allowed : plainAllowed (c :: text) = true) (ends : PlainEnd indent after passed atEnd)
    (outside : lexer.inFlow = false) (ahead : lexer.cursor.rest = c :: (text ++ after)) :
    token fuel lexer c (text ++ after) = plain fuel lexer := by
  have marker := atMarker_of_plainAllowed allowed (by rw [ahead]; rfl) ends
  obtain ⟨others, solid⟩ := first_of_plainAllowed allowed after
  have begins := beginsPlain_of_plainAllowed allowed after
  have sign : ∀ sign ∈ ['?', ':', '-'], (c == sign && atGap (text ++ after)) = false := by
    intro sign member
    rw [Bool.and_eq_false_iff, beq_eq_false_iff_ne]
    exact Decidable.or_iff_not_imp_left.2 fun same => solid sign member (Decidable.not_not.1 same)
  have other : ∀ indicator ∈ indicators, (c == indicator) = false := fun indicator member =>
    beq_eq_false_iff_ne.2 (others indicator member)
  rw [token]
  · simp only [marker, outside, other '%' (by decide), other '|' (by decide), other '>' (by decide),
      sign '-' (by decide), sign '?' (by decide), sign ':' (by decide), begins, Bool.and_false,
      Bool.false_and, Bool.false_or, Bool.false_eq_true, if_false, if_true]
  all_goals exact others _ (by decide)

/-- What a plain scalar leaves behind, with the line break at its end if there is one. -/
theorem plain_eq {middle : Lexer} {text after passed : List Char} {atEnd : Bool}
    (allowed : plainAllowed text = true) (visible : text ≠ [])
    (ends : PlainEnd middle.indent after passed atEnd) (proposes : lexer.propose = some middle)
    (outside : middle.inFlow = false) (cursor : middle.cursor = lexer.cursor)
    (ahead : lexer.cursor.rest = text ++ after) (deep : middle.indent ≤ lexer.cursor.column)
    (enough : lexer.cursor.rest.length < fuel) :
    plain fuel lexer = some ({ middle with keyAllowed := atEnd }.emit
      (.scalar .plain (String.ofList text)) (lexer.cursor.past (text ++ passed))) := by
  rw [← cursor] at ahead deep enough ⊢
  rw [plain, proposes, Option.bind_eq_bind, Option.bind_some, outside,
    readPlain_of_plainAllowed allowed visible ahead ends deep enough]
  rfl

/-- A plain scalar at the end of a line. -/
theorem leads_plain {text : List Char} (deeper : indent < column)
    (allowed : plainAllowed text = true) (visible : text ≠ [])
    (resumes : Resumes indent width rest) :
    Leads ⟨tokens, indent :: indents, keyAllowed, column, text ++ '\n' :: (pad width ++ rest)⟩
      ⟨tokens ++ [.scalar .plain (String.ofList text)], indent :: indents, true, width, rest⟩ := by
  obtain ⟨c, others, rfl⟩ := List.exists_cons_of_ne_nil visible
  rw [List.cons_append]
  apply leads_of_token (atToken_of_plainAllowed allowed _) (Int.le_of_lt deeper)
    (by simp only [List.length_append, List.length_cons]; omega)
  intro lexer stands
  obtain ⟨middle, proposes, holds, cursor, optional⟩ := stands.propose (by simpa using deeper)
  obtain ⟨place, line⟩ := Cursor.past_line (lexer.cursor.past (c :: others)) isBreak_newline width
  rw [← Cursor.past_append] at place line
  have behind : (lexer.cursor.past (c :: others ++ '\n' :: pad width)).rest = rest := by
    apply Cursor.rest_past
    rw [stands.rest]
    simp
  have emitted := (holds.allow true).emit (.scalar .plain (String.ofList (c :: others)))
    (lexer.cursor.past (c :: others ++ '\n' :: pad width))
  rw [behind, place] at emitted
  obtain ⟨next, standsNext, same⟩ := settle emitted resumes.token (by
    intro candidate held
    obtain ⟨optional, start⟩ := optional candidate held
    refine ⟨optional, ?_⟩
    change candidate.line < (lexer.cursor.past (c :: others ++ '\n' :: pad width)).line
    rw [line, start]
    exact Nat.lt_succ_of_le Cursor.line_le_past)
  refine ⟨next, standsNext, ?_⟩
  intro fuel enough
  obtain ⟨fuel, rfl⟩ := Nat.exists_eq_add_of_le' (show 1 ≤ fuel by omega)
  have low := (List.cons.inj holds.indents).1
  have room : lexer.cursor.rest.length < fuel + 1 + 1 := by
    rw [stands.rest]
    exact Nat.succ_lt_succ enough
  rw [← low] at deeper resumes
  rw [token_plain allowed (PlainEnd.line resumes) stands.inFlow stands.rest,
    plain_eq allowed visible (PlainEnd.line resumes) proposes holds.inFlow cursor stands.rest
    (by rw [stands.column]; exact Int.le_of_lt deeper) room, Option.bind_some, same]

/-- A block ends in a line break, so the place behind it is told by the indentation that follows. -/
theorem column_past_block (cursor : Cursor) (signs text : List Char) (inner : Nat) :
    (cursor.past (signs ++ '\n' :: (indentLines inner true (endLine text) ++ pad width))).column =
      width := by
  obtain ⟨front, c, split, breaks⟩ := exists_endLine text
  have regrouped : signs ++ '\n' :: (indentLines inner true (endLine text) ++ pad width) =
      (signs ++ '\n' :: indentLines inner true front) ++ (c :: pad width) := by
    rw [split, indentLines_concat breaks]
    simp
  rw [regrouped, Cursor.past_append]
  exact (Cursor.past_line _ breaks width).1

theorem token_literal (outside : lexer.inFlow = false) (ahead : lexer.cursor.rest = '|' :: rest) :
    token fuel lexer '|' rest = lexer.block true := by
  simp only [token, atMarker_of_sign ahead (by decide) (by decide), outside]
  simp

/-- A literal block. -/
theorem leads_literal {text : List Char} {inner : Nat} (inside : indent ≤ column)
    (visible : text ≠ []) (printable : ∀ c ∈ text, isSpecial c = false)
    (wide : inner = indent.toNat + 2) (resumes : Resumes indent width rest) :
    Leads ⟨tokens, indent :: indents, keyAllowed, column, literalHeader text ++
        '\n' :: (indentLines inner true (endLine text) ++ (pad width ++ rest))⟩
      ⟨tokens ++ [.scalar .literal (String.ofList text)], indent :: indents, true, width,
        rest⟩ := by
  have header : literalHeader text = '|' :: (literalHeader text).tail := by
    rw [literalHeader_eq, List.tail_cons]
  rw [header, List.cons_append]
  generalize hsigns : (literalHeader text).tail = signs
  apply leads_of_token (show atToken ('|' :: _) = true from rfl) inside
    (by simp only [List.length_append, List.length_cons]; omega)
  intro lexer stands
  have low := (List.cons.inj stands.indents).1
  have behind : (lexer.cursor.skip 1).rest = (literalHeader text).tail ++
      '\n' :: (indentLines inner true (endLine text) ++ (pad width ++ rest)) := by
    rw [Cursor.rest_skip, stands.rest, hsigns]
    rfl
  have read := readBlock_literal visible printable wide resumes behind
  rw [hsigns] at read behind
  have arrived : ((lexer.cursor.skip 1).past (signs ++
      '\n' :: (indentLines inner true (endLine text) ++ pad width))).rest = rest := by
    apply Cursor.rest_past
    rw [behind]
    simp
  have emitted := (stands.toHolds.allow true).emit (.scalar .literal (String.ofList text))
    ((lexer.cursor.skip 1).past (signs ++
      '\n' :: (indentLines inner true (endLine text) ++ pad width)))
  rw [arrived, column_past_block] at emitted
  refine ⟨_, ⟨emitted, stands.candidate⟩, ?_⟩
  intro fuel _
  rw [token_literal stands.inFlow stands.rest, block, giveUp_of_none stands.candidate,
    Option.bind_eq_bind, Option.bind_some, low, read]
  rfl

/-- A text in the style chosen for it. -/
theorem leads_text {style : Style} {text written : List Char} {inner : Nat}
    (deeper : indent < column) (lines : Written inner text style written)
    (wide : inner = indent.toNat + 2) (resumes : Resumes indent width rest) :
    Leads ⟨tokens, indent :: indents, keyAllowed, column, endLine written ++ (pad width ++ rest)⟩
      ⟨tokens ++ [.scalar style (String.ofList text)], indent :: indents, true, width, rest⟩ := by
  cases lines with
  | plain allowed visible =>
    have last : text.getLast?.any isBreak = false := by
      cases final : text.getLast? with
      | none => rfl
      | some c =>
        have shape := isPlainTail_of_plainAllowed allowed visible
        exact (shape.flat c (List.mem_of_getLast? final)).1
    rw [endLine_of_flat last, List.append_assoc]
    exact leads_plain deeper allowed visible resumes
  | @quoted inside single quoted printable =>
    have last : (closing single :: (inside ++ [closing single])).getLast?.any isBreak = false := by
      rw [← List.cons_append, List.getLast?_concat]
      cases single <;> decide
    rw [endLine_of_flat last, List.append_assoc, List.cons_append, List.append_assoc]
    exact leads_quoted deeper quoted (by omega) resumes.token
  | literal visible printable several =>
    have lines : indentLines inner true text ≠ [] := by
      intro empty
      have last := @getLast?_indentLines inner true text
      rw [empty] at last
      exact visible (List.getLast?_eq_none_iff.1 last.symm)
    rw [endLine_append (List.cons_ne_nil _ _), endLine_cons lines, endLine_indentLines,
      List.append_assoc, List.cons_append]
    exact leads_literal (Int.le_of_lt deeper) visible printable wide resumes

/-! ### Empty collections -/

/-- The brackets of an empty collection, and the tokens they stand for. -/
structure IsBrackets (opened closed : Char) (opening closing : Token) : Prop where
  plain : ∀ c ∈ [opened, closed], isBreak c = false ∧ isPrintable c = true
  solid : ∀ rest, atToken (opened :: rest) = true ∧ atToken (closed :: rest) = true
  opens : ∀ {fuel : Nat} {lexer : Lexer} {rest : List Char}, lexer.cursor.rest = opened :: rest →
    Lexer.token fuel lexer opened rest = lexer.openFlow opening
  closes : ∀ {fuel : Nat} {lexer : Lexer} {rest : List Char}, lexer.cursor.rest = closed :: rest →
    Lexer.token fuel lexer closed rest = lexer.closeFlow closing

theorem isBrackets_list : IsBrackets '[' ']' .flowSequence .flowSequenceEnd := by
  refine ⟨List.forall_mem_cons.2 ⟨by decide, List.forall_mem_singleton.2 (by decide)⟩,
    fun _ => ⟨rfl, rfl⟩, ?_, ?_⟩ <;>
  · intro fuel lexer rest ahead
    simp [token, Cursor.atMarker, ahead]

theorem isBrackets_map : IsBrackets '{' '}' .flowMapping .flowMappingEnd := by
  refine ⟨List.forall_mem_cons.2 ⟨by decide, List.forall_mem_singleton.2 (by decide)⟩,
    fun _ => ⟨rfl, rfl⟩, ?_, ?_⟩ <;>
  · intro fuel lexer rest ahead
    simp [token, Cursor.atMarker, ahead]

variable {opened closed : Char} {opening closing : Token}

/-- The lexer behind an opening bracket. -/
def entered (lexer : Lexer) (opening : Token) : Lexer :=
  { lexer with
    candidate := none
    outerCandidates := lexer.candidate :: lexer.outerCandidates
    keyAllowed := true }.emit opening (lexer.cursor.skip 1)

/-- The lexer behind a pair of brackets, with the candidate that is left. -/
def bracketed (lexer : Lexer) (opening closing : Token) (kept : Option Candidate) : Lexer :=
  ({ lexer with candidate := kept, outerCandidates := [], keyAllowed := false }.emit opening
    (lexer.cursor.skip 1)).emit closing ((lexer.cursor.skip 1).skip 1)

theorem Holds.bracketed {rest : List Char}
    (holds : lexer.Holds ⟨tokens, indents, keyAllowed, column, opened :: closed :: rest⟩)
    (kept : Option Candidate) :
    (lexer.bracketed opening closing kept).Holds
      ⟨tokens ++ [opening, closing], indents, false, column + 2, rest⟩ := by
  have both := ((holds.allow false).emit opening (lexer.cursor.skip 1)).emit closing
    ((lexer.cursor.skip 1).skip 1)
  have ended : ((lexer.cursor.skip 1).skip 1).rest = rest := by
    rw [Cursor.rest_skip, Cursor.rest_skip, holds.rest]
    rfl
  have place : ((lexer.cursor.skip 1).skip 1).column = column + 2 := by
    rw [Cursor.column_skip, Cursor.column_skip, holds.column]
  exact ⟨ended, place, both.indents, rfl, both.keyAllowed,
    both.tokens.trans (List.append_assoc tokens [opening] [closing]), both.slots, both.fillings⟩

/-- The closing bracket brings the candidate around back, unless it lapsed. -/
theorem run_entered (brackets : IsBrackets opened closed opening closing)
    (outside : lexer.outerCandidates = []) (ahead : lexer.cursor.rest = opened :: closed :: rest)
    (optional : ∀ held, lexer.candidate = some held → held.required = false) :
    ∃ kept : Option Candidate, (∀ held, kept = some held → lexer.candidate = some held) ∧
      ∀ fuel, run (fuel + 1) (lexer.entered opening) =
        run fuel (lexer.bracketed opening closing kept) := by
  generalize hkept : lexer.candidate.filter
    (fun held => !held.hasLapsed (lexer.cursor.skip 1)) = kept
  refine ⟨kept, ?_, ?_⟩
  · intro held same
    rw [← hkept] at same
    exact (Option.filter_eq_some_iff.1 same).1
  · intro fuel
    have behind : (lexer.entered opening).cursor.rest = closed :: rest := by
      change (lexer.cursor.skip 1).rest = _
      rw [Cursor.rest_skip, ahead]
      rfl
    have lost : (lexer.candidate.any fun held =>
        held.hasLapsed (lexer.cursor.skip 1) && held.required) = false := by
      cases held : lexer.candidate with
      | none => rfl
      | some candidate => simp [optional candidate held]
    have dropped : (lexer.entered opening).dropLapsed =
        some { lexer.entered opening with outerCandidates := [kept] } := by
      rw [← hkept]
      simp [dropLapsed, entered, emit, outside, lost]
    have reader := @brackets.closes (fuel + 1)
      { lexer.entered opening with outerCandidates := [kept] } rest behind
    have gave := @giveUp_of_none { lexer.entered opening with outerCandidates := [kept] } rfl
    rw [run_succ, prepare, skipToToken_token (by rw [behind]; exact (brackets.solid rest).2),
      dropped]
    change proceed fuel { lexer.entered opening with outerCandidates := [kept] } = _
    rw [proceed]
    simp only [behind, reader, closeFlow, gave, Option.bind_eq_bind, Option.bind_some]
    rfl

/-- An empty collection at the end of a line. -/
theorem leads_flow (brackets : IsBrackets opened closed opening closing) (deeper : indent < column)
    (token : atToken rest = true) :
    Leads ⟨tokens, indent :: indents, keyAllowed, column,
        opened :: closed :: '\n' :: (pad width ++ rest)⟩
      ⟨tokens ++ [opening, closing], indent :: indents, true, width, rest⟩ := by
  apply leads_of_tokens (brackets.solid _).1 (Int.le_of_lt deeper)
  intro lexer stands
  obtain ⟨middle, proposes, holds, cursor, optional⟩ := stands.propose (by simpa using deeper)
  obtain ⟨kept, former, closes⟩ := run_entered brackets holds.outside holds.rest
    fun held same => (optional held same).1
  obtain ⟨next, standsNext, same⟩ := settle_line (holds.bracketed kept) token (by
    intro held same
    obtain ⟨optional, line⟩ := optional held (former held same)
    refine ⟨optional, Nat.le_of_eq (line.trans ?_)⟩
    rw [← cursor]
    rfl)
  refine ⟨next, standsNext, ?_⟩
  intro fuel enough
  simp only [List.length_cons, List.length_append] at enough
  obtain ⟨fuel, rfl⟩ := Nat.exists_eq_add_of_le' (show 3 ≤ fuel by omega)
  refine ⟨fuel + 2, by simp only; omega, ?_⟩
  rw [brackets.opens stands.rest, openFlow, proposes, Option.bind_eq_bind, Option.bind_some,
    ← same fuel]
  exact closes (fuel + 2)

end SaveManifest.Yaml.Lexer
