import SaveManifest.Proofs.Yaml.Tokens

/-!
# Keys in front of their colon

A scalar that stands where a key may begin leaves a candidate and a slot behind. The colon behind
it tells that the scalar is a key: the slot gets the token of a key, and the one that opens the
block if the key is the first of its map. What was found before the key stays as it is.
-/

namespace SaveManifest.Yaml.Lexer

variable {lexer : Lexer} {tokens : List Token} {indent : Int} {indents : List Int}
  {column width fuel : Nat} {rest : List Char} {c : Char}

/-- A filling for a new slot changes nothing before the slot. -/
theorem resolveSlots_fresh {items : List Item} {number : Nat}
    (fresh : ∀ other, Item.slot other ∈ items → other ≠ number) (filling : List Token)
    (fillings : List (Nat × List Token)) :
    resolveSlots ((number, filling) :: fillings) items = resolveSlots fillings items := by
  induction items with
  | nil => rfl
  | cons item items ih =>
    have behind := ih fun other member => fresh other (List.mem_cons_of_mem _ member)
    rw [resolveSlots, resolveSlots, List.flatMap_cons, List.flatMap_cons]
    change _ ++ resolveSlots _ items = _ ++ resolveSlots _ items
    rw [behind]
    cases item with
    | token token => rfl
    | slot other =>
      have different := fresh other List.mem_cons_self
      simp only [List.lookup_cons, beq_eq_false_iff_ne.2 different]

theorem dropLapsed_keep (outside : lexer.outerCandidates = [])
    (alive : ∀ candidate, lexer.candidate = some candidate →
      candidate.hasLapsed lexer.cursor = false) : lexer.dropLapsed = some lexer := by
  have kept : lexer.candidate.filter (fun candidate => !candidate.hasLapsed lexer.cursor) =
      lexer.candidate := by
    cases held : lexer.candidate with
    | none => rfl
    | some candidate => simp [alive candidate held]
  have lost : (lexer.candidate.any fun candidate =>
      candidate.hasLapsed lexer.cursor && candidate.required) = false := by
    cases held : lexer.candidate with
    | none => rfl
    | some candidate => simp [alive candidate held]
  rw [dropLapsed]
  simp only [lost, outside, List.any_nil, Bool.or_self, Bool.false_eq_true, if_false, List.map_nil,
    kept]
  rw [← outside]

/-- The lexer behind a token that may turn out to be a key. -/
def undecided (lexer : Lexer) (found : Token) (written : List Char) : Lexer :=
  { lexer.proposed with keyAllowed := false }.emit found (lexer.cursor.past written)

/-- The lexer behind the colon of a key that began where the lexer stood. -/
def decided (lexer : Lexer) (found : Token) (written : List Char) (column : Nat) : Lexer :=
  { lexer with
    cursor := (lexer.cursor.past written).skip 1
    indent := if lexer.indent < column then column else lexer.indent
    outerIndents :=
      if lexer.indent < column then lexer.indent :: lexer.outerIndents else lexer.outerIndents
    candidate := none
    keyAllowed := false
    items := .token .value :: .token found :: .slot lexer.slots :: lexer.items
    fillings :=
      (lexer.slots, opens lexer.indent column .blockMapping ++ [.key]) :: lexer.fillings
    slots := lexer.slots + 1 }

variable {found : Token} {written : List Char}

theorem stands_decided (flat : ∀ c ∈ written, isBreak c = false)
    (stands : lexer.Stands
      ⟨tokens, indent :: indents, true, column, written ++ ':' :: rest⟩) :
    (lexer.decided found written column).Stands ⟨tokens ++ opens indent column .blockMapping ++
      [.key, found, .value], within indent indents column, false, column + written.length + 1,
      rest⟩ := by
  have behind : (lexer.cursor.past written).rest = ':' :: rest := Cursor.rest_past stands.rest
  obtain ⟨rfl, rfl⟩ := List.cons.inj stands.indents
  refine ⟨⟨?_, ?_, ?_, stands.outside, rfl, ?_, ?_, ?_⟩, rfl⟩
  · change ((lexer.cursor.past written).skip 1).rest = rest
    rw [Cursor.rest_skip, behind]
    rfl
  · change ((lexer.cursor.past written).skip 1).column = _
    rw [Cursor.past_eq_skip flat, Cursor.column_skip, Cursor.column_skip, stands.column]
  · simp only [decided, within]
    split <;> rfl
  · have fresh : ∀ other, Item.slot other ∈ lexer.items.reverse → other ≠ lexer.slots := by
      intro other member
      exact Nat.ne_of_lt (stands.slots other (List.mem_reverse.1 member))
    simp only [decided, List.reverse_cons, List.append_assoc, resolveSlots_append]
    rw [resolveSlots_fresh fresh, stands.tokens]
    simp [resolveSlots]
  · intro number member
    simp only [decided, List.mem_cons, reduceCtorEq, Item.slot.injEq, false_or] at member
    rcases member with rfl | former
    · exact Nat.lt_succ_self _
    · exact Nat.lt_succ_of_lt (stands.slots number former)
  · intro filling member
    rcases List.mem_cons.1 member with rfl | former
    · exact Nat.lt_succ_self _
    · exact Nat.lt_succ_of_lt (stands.fillings filling former)

/-- The colon behind a key tells that the key began at the candidate. -/
theorem run_undecided (inside : indent ≤ column) (gap : atGap rest = true)
    (flat : ∀ c ∈ written, isBreak c = false) (short : written.length ≤ maxKeyLength)
    (stands : lexer.Stands
      ⟨tokens, indent :: indents, true, column, written ++ ':' :: rest⟩) (fuel : Nat) :
    run (fuel + 1) (lexer.undecided found written) =
      run fuel (lexer.decided found written column) := by
  have behind : (lexer.undecided found written).cursor.rest = ':' :: rest :=
    Cursor.rest_past stands.rest
  have place : (lexer.undecided found written).cursor.column = column + written.length := by
    change (lexer.cursor.past written).column = _
    rw [Cursor.past_eq_skip flat, Cursor.column_skip, stands.column]
  have kept : (lexer.undecided found written).dropLapsed =
      some (lexer.undecided found written) := by
    refine dropLapsed_keep stands.outside ?_
    rintro candidate ⟨⟩
    simp only [Candidate.hasLapsed, undecided, emit, Cursor.past_eq_skip flat, Cursor.line_skip,
      Cursor.index_skip, Nat.lt_irrefl, decide_false, Bool.false_or, decide_eq_false_iff_not]
    omega
  have low := (List.cons.inj stands.indents).1
  have still : (lexer.undecided found written).closeBlocks (column + written.length : Nat) =
      lexer.undecided found written := by
    apply closeBlocks_of_le
    change lexer.indent ≤ _
    rw [low]
    omega
  have outside : (lexer.undecided found written).inFlow = false := stands.inFlow
  have read : (lexer.undecided found written).value =
      some (lexer.decided found written column) := by
    have held : (lexer.undecided found written).candidate = lexer.proposed.candidate := rfl
    rw [value, held]
    simp only [proposed, openBlock, outside, stands.column]
    by_cases deeper : lexer.indent < column
    · simp [undecided, decided, proposed, opens, emit, deeper]
    · simp [undecided, decided, proposed, opens, emit, deeper]
  rw [run_succ, prepare, skipToToken_token (by rw [behind]; rfl), kept]
  simp only [Option.bind_eq_bind, Option.bind_some, place, still]
  rw [proceed, behind]
  simp only [Option.bind_eq_bind, token_colon outside gap behind, read, Option.bind_some]

/-- A scalar on one line in front of a colon is a key. -/
theorem leads_key {word : List Char} (inside : indent ≤ column) (gap : atGap rest = true)
    (flat : ∀ d ∈ c :: word, isBreak d = false) (short : (c :: word).length ≤ maxKeyLength)
    (solid : atToken (c :: (word ++ ':' :: rest)) = true)
    (reads : ∀ {fuel : Nat} {lexer : Lexer},
      lexer.Stands ⟨tokens, indent :: indents, true, column, c :: (word ++ ':' :: rest)⟩ →
        (word ++ ':' :: rest).length < fuel →
        Lexer.token (fuel + 1) lexer c (word ++ ':' :: rest) =
          some (lexer.undecided found (c :: word))) :
    Leads ⟨tokens, indent :: indents, true, column, c :: (word ++ ':' :: rest)⟩
      ⟨tokens ++ opens indent column .blockMapping ++ [.key, found, .value],
        within indent indents column, false, column + (c :: word).length + 1, rest⟩ := by
  apply leads_of_tokens solid inside
  intro lexer stands
  refine ⟨lexer.decided found (c :: word) column, stands_decided flat stands, ?_⟩
  intro fuel enough
  simp only [List.length_append, List.length_cons] at enough
  obtain ⟨fuel, rfl⟩ := Nat.exists_eq_add_of_le' (show 1 ≤ fuel by omega)
  refine ⟨fuel, by simp only; omega, ?_⟩
  rw [reads stands (by simp only [List.length_append, List.length_cons]; omega), Option.bind_some]
  exact run_undecided inside gap flat short stands fuel

/-- A text that can be a key on one line, in front of its colon. -/
theorem leads_simpleKey {style : Style} {text written : List Char} (inside : indent ≤ column)
    (gap : atGap rest = true) (lines : Written width text style written)
    (simple : isSimpleKey text = true) (indented : 0 < width) :
    Leads ⟨tokens, indent :: indents, true, column, written ++ ':' :: rest⟩
      ⟨tokens ++ opens indent column .blockMapping ++
          [.key, .scalar style (String.ofList text), .value],
        within indent indents column, false, column + written.length + 1, rest⟩ := by
  obtain ⟨flat, short⟩ := lines.of_isSimpleKey simple
  have bound : 4 * maxSimpleKey + 2 ≤ maxKeyLength := by decide
  have short := Nat.le_trans short bound
  cases lines with
  | plain allowed visible =>
    obtain ⟨c, text, rfl⟩ := List.exists_cons_of_ne_nil visible
    refine leads_key inside gap flat short (atToken_of_plainAllowed allowed _) ?_
    intro fuel lexer stands enough
    have read := @plain_eq lexer (fuel + 1) lexer.proposed (c :: text) (':' :: rest) [] false
      allowed visible (.colon gap) stands.propose_eq stands.inFlow rfl stands.rest
      (by rw [stands.column]; exact (List.cons.inj stands.indents).1 ▸ inside)
      (by rw [stands.rest, List.length_cons]; omega)
    rw [token_plain allowed (@PlainEnd.colon indent rest gap) stands.inFlow stands.rest, read,
      List.append_nil]
    rfl
  | @quoted word single quoted printable =>
    refine leads_key inside gap flat short (atToken_closing single _) ?_
    intro fuel lexer stands enough
    have split : closing single :: (word ++ [closing single] ++ ':' :: rest) =
        closing single :: (word ++ closing single :: ':' :: rest) := by simp
    rw [(List.cons.inj split).2] at enough ⊢
    obtain ⟨read, reader, result⟩ := token_quoted_spec quoted indented (by simp)
      (stands.rest.trans split) (Nat.lt_succ_of_lt enough)
    rw [reader, atom, stands.propose_eq, if_pos rfl, Option.bind_eq_bind, Option.bind_some]
    change (read lexer.cursor).bind _ = _
    rw [result]
    rfl
  | literal visible printable several =>
    have here := flat '\n' (by simp)
    cases here

end SaveManifest.Yaml.Lexer
