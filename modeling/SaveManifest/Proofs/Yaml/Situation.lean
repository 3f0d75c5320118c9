import SaveManifest.Proofs.Yaml.Passage
import SaveManifest.Yaml.Lexer

/-!
# Situations of the lexer

What reading has come to between two tokens outside brackets: the tokens found, the indentation
of the blocks around, and what is left of the stream (`Situation`). One situation leads to another
where reading from the first amounts to reading from the second (`Leads`); the way from the
beginning of a stream to its end is put together from such steps. Here are the steps that find no
token of their own: white space, and the end of blocks.
-/

namespace SaveManifest.Yaml.Lexer

/-- What reading has come to between two tokens outside brackets. The indentations of the blocks
around are listed from the innermost on. -/
structure Situation where
  tokens : List Token
  indents : List Int
  keyAllowed : Bool
  column : Nat
  rest : List Char

/-- A lexer in a situation, but for its candidate. -/
structure Holds (lexer : Lexer) (situation : Situation) : Prop where
  rest : lexer.cursor.rest = situation.rest
  column : lexer.cursor.column = situation.column
  indents : lexer.indent :: lexer.outerIndents = situation.indents
  outside : lexer.outerCandidates = []
  keyAllowed : lexer.keyAllowed = situation.keyAllowed
  tokens : resolveSlots lexer.fillings lexer.items.reverse = situation.tokens
  slots : ∀ number, Item.slot number ∈ lexer.items → number < lexer.slots
  fillings : ∀ filling ∈ lexer.fillings, filling.1 < lexer.slots

/-- A lexer in a situation where no key can have begun. -/
structure Stands (lexer : Lexer) (situation : Situation) : Prop extends
    Holds lexer situation where
  candidate : lexer.candidate = none

/-- Reading from the first situation amounts to reading from the second. -/
def Leads (before after : Situation) : Prop :=
  ∀ lexer : Lexer, lexer.Stands before → ∃ next : Lexer, next.Stands after ∧
    ∀ fuel, before.rest.length < fuel →
      ∃ left, after.rest.length < left ∧ run fuel lexer = run left next

theorem Leads.trans {first second third : Situation} (early : Leads first second)
    (late : Leads second third) : Leads first third := by
  intro lexer stands
  obtain ⟨middle, standsMiddle, reads⟩ := early lexer stands
  obtain ⟨last, standsLast, readsOn⟩ := late middle standsMiddle
  refine ⟨last, standsLast, ?_⟩
  intro fuel enough
  obtain ⟨left, enough, same⟩ := reads fuel enough
  obtain ⟨left, enough, sameOn⟩ := readsOn left enough
  exact ⟨left, enough, same.trans sameOn⟩

variable {lexer other : Lexer} {situation : Situation} {fuel width : Nat} {rest : List Char}
  {c : Char}

theorem Holds.inFlow (holds : lexer.Holds situation) : lexer.inFlow = false := by
  rw [Lexer.inFlow, holds.outside]
  rfl

/-! ### White space -/

/-- What `run` does in front of a token. -/
def prepare (fuel : Nat) (lexer : Lexer) : Option Lexer := do
  let lexer ← (lexer.skipToToken fuel).dropLapsed
  some (lexer.closeBlocks lexer.cursor.column)

/-- What `run` does from a token on. -/
def proceed (fuel : Nat) (lexer : Lexer) : Option Lexer :=
  match lexer.cursor.rest with
  | [] => (lexer.closeBlocks (-1)).giveUp
  | c :: behind => do
    let lexer ← token (fuel + 1) lexer c behind
    run fuel lexer

theorem run_succ : run (fuel + 1) lexer = (prepare (fuel + 1) lexer).bind (proceed fuel) := by
  rw [run, prepare]
  cases (lexer.skipToToken (fuel + 1)).dropLapsed with
  | none => rfl
  | some lexer => rfl

/-- Lexers that are the same in front of the next token read alike. -/
theorem run_congr (same : prepare (fuel + 1) lexer = prepare (fuel + 1) other) :
    run (fuel + 1) lexer = run (fuel + 1) other := by
  rw [run_succ, run_succ, same]

/-- The characters skipped on a line in front of a token. -/
def isSkipped (lexer : Lexer) (c : Char) : Bool :=
  c == ' ' || ((lexer.inFlow || !lexer.keyAllowed) && c == '\t')

theorem skipWhile_pad (condition : Char → Bool) (space : condition ' ' = true) {cursor : Cursor}
    (ahead : cursor.rest = pad width ++ rest)
    (stop : rest.head?.all (fun c => !condition c) = true) :
    cursor.skipWhile condition = cursor.past (pad width) := by
  have none : rest.takeWhile condition = [] := by
    cases rest with
    | nil => rfl
    | cons c rest => exact List.takeWhile_cons_of_neg (by simpa using stop)
  have spaces : ∀ c ∈ pad width, condition c = true := by
    intro c member
    rw [eq_space_of_mem_pad member, space]
  rw [Cursor.skipWhile, ahead, List.takeWhile_append_of_pos spaces, none, List.append_nil,
    length_pad, Cursor.past_pad]

theorem head?_of_atToken (lexer : Lexer) (token : atToken rest = true) :
    rest.head?.all (fun c => !lexer.isSkipped c) = true ∧ (rest.head? == some '#') = false ∧
      rest.head?.any isBreak = false ∧ (rest.head? == some '\ufeff') = false := by
  cases rest with
  | nil => exact ⟨rfl, rfl, rfl, rfl⟩
  | cons c rest =>
    simp only [atToken, List.head?_cons, Option.all_some, isGap, Bool.not_or, Bool.and_eq_true,
      Bool.not_eq_true'] at token
    obtain ⟨⟨⟨⟨space, tab⟩, flat⟩, comment⟩, mark⟩ := token
    refine ⟨?_, ?_, flat, ?_⟩
    · simp [isSkipped, space, tab]
    · simpa using comment
    · simpa using mark

/-- Spaces in front of a token are skipped. -/
theorem skipToToken_pad (ahead : lexer.cursor.rest = pad width ++ rest)
    (token : atToken rest = true) :
    skipToToken (fuel + 1) lexer = { lexer with cursor := lexer.cursor.past (pad width) } := by
  obtain ⟨skipped, comment, flat, mark⟩ := head?_of_atToken lexer token
  have start : (lexer.cursor.index == 0 && lexer.cursor.rest.head? == some '\ufeff') = false := by
    rw [ahead]
    cases width with
    | zero =>
      rw [show pad 0 ++ rest = rest from rfl, mark, Bool.and_false]
    | succ width => simp [pad_succ]
  have behind := Cursor.rest_past ahead
  rw [skipToToken]
  simp only [start, Bool.false_eq_true, if_false]
  have spaces : (lexer.cursor.skipWhile lexer.isSkipped) = lexer.cursor.past (pad width) :=
    skipWhile_pad _ rfl ahead skipped
  have still : (lexer.cursor.past (pad width)).skipComment = lexer.cursor.past (pad width) := by
    rw [Cursor.skipComment, behind, comment]
    rfl
  change (if ((lexer.cursor.skipWhile lexer.isSkipped).skipComment).rest.head?.any isBreak then _
    else { lexer with cursor := (lexer.cursor.skipWhile lexer.isSkipped).skipComment }) = _
  rw [spaces, still, behind, flat]
  rfl

theorem skipToToken_token (token : atToken lexer.cursor.rest = true) :
    skipToToken (fuel + 1) lexer = lexer :=
  skipToToken_pad (show lexer.cursor.rest = pad 0 ++ lexer.cursor.rest from rfl) token

/-- A line break is skipped with the indentation of the next line, and a key may begin there. -/
theorem skipToToken_line (outside : lexer.inFlow = false)
    (ahead : lexer.cursor.rest = '\n' :: (pad width ++ rest)) (token : atToken rest = true) :
    skipToToken (fuel + 2) lexer =
      { lexer with cursor := lexer.cursor.past ('\n' :: pad width), keyAllowed := true } := by
  have here : lexer.cursor.rest = pad 0 ++ '\n' :: (pad width ++ rest) := ahead
  have spaces : lexer.cursor.skipWhile lexer.isSkipped = lexer.cursor :=
    skipWhile_pad _ rfl here (by simp [isSkipped])
  have still : lexer.cursor.skipComment = lexer.cursor := by
    rw [Cursor.skipComment, ahead]
    rfl
  have start : (lexer.cursor.index == 0 && lexer.cursor.rest.head? == some '\ufeff') = false := by
    simp [ahead]
  rw [skipToToken]
  simp only [start, Bool.false_eq_true, if_false]
  change (if ((lexer.cursor.skipWhile lexer.isSkipped).skipComment).rest.head?.any isBreak then
      skipToToken (fuel + 1) { lexer with
        cursor := ((lexer.cursor.skipWhile lexer.isSkipped).skipComment).skipBreak
        keyAllowed := lexer.keyAllowed || !lexer.inFlow }
    else _) = _
  rw [spaces, still, if_pos (by rw [ahead]; rfl), Cursor.skipBreak,
    Cursor.takeBreak_of_rest ahead isBreak_newline (by decide), outside, Bool.not_false,
    Bool.or_true]
  rw [skipToToken_pad (Cursor.rest_past ahead) token, Cursor.past_cons]
  rfl

theorem dropLapsed_eq (outside : lexer.outerCandidates = [])
    (lapsed : ∀ candidate, lexer.candidate = some candidate →
      candidate.required = false ∧ candidate.line < lexer.cursor.line) :
    lexer.dropLapsed = some { lexer with candidate := none } := by
  rw [dropLapsed, outside]
  cases held : lexer.candidate with
  | none => simp
  | some candidate =>
    obtain ⟨optional, line⟩ := lapsed candidate held
    have late : candidate.hasLapsed lexer.cursor = true := by simp [Candidate.hasLapsed, line]
    simp [optional, late]

/-- In front of a token the lexer gives up a candidate that lapsed. -/
theorem settle (holds : lexer.Holds situation) (token : atToken situation.rest = true)
    (lapsed : ∀ candidate, lexer.candidate = some candidate →
      candidate.required = false ∧ candidate.line < lexer.cursor.line) :
    ∃ next : Lexer, next.Stands situation ∧ ∀ fuel, run (fuel + 1) lexer = run (fuel + 1) next := by
  refine ⟨{ lexer with candidate := none }, ⟨⟨holds.rest, holds.column, holds.indents,
    holds.outside, holds.keyAllowed, holds.tokens, holds.slots, holds.fillings⟩, rfl⟩, ?_⟩
  intro fuel
  rw [← holds.rest] at token
  apply run_congr
  rw [prepare, prepare, skipToToken_token token, dropLapsed_eq holds.outside lapsed,
    @skipToToken_token { lexer with candidate := none } fuel token,
    @dropLapsed_eq { lexer with candidate := none } holds.outside (by simp)]

/-- At the end of a line every candidate lapses that need not be a key. -/
theorem settle_line {tokens : List Token} {indents : List Int} {keyAllowed : Bool} {column : Nat}
    (holds : lexer.Holds ⟨tokens, indents, keyAllowed, column, '\n' :: (pad width ++ rest)⟩)
    (token : atToken rest = true)
    (optional : ∀ candidate, lexer.candidate = some candidate →
      candidate.required = false ∧ candidate.line ≤ lexer.cursor.line) :
    ∃ next : Lexer, next.Stands ⟨tokens, indents, true, width, rest⟩ ∧
      ∀ fuel, run (fuel + 2) lexer = run (fuel + 2) next := by
  have behind : (lexer.cursor.past ('\n' :: pad width)).rest = rest :=
    Cursor.rest_past holds.rest
  obtain ⟨column, line⟩ := Cursor.past_line lexer.cursor isBreak_newline width
  have moved : Holds { lexer with
      cursor := lexer.cursor.past ('\n' :: pad width), keyAllowed := true }
      ⟨tokens, indents, true, width, rest⟩ :=
    ⟨behind, column, holds.indents, holds.outside, rfl, holds.tokens, holds.slots, holds.fillings⟩
  obtain ⟨next, stands, same⟩ := settle moved token (by
    intro candidate held
    obtain ⟨optional, before⟩ := optional candidate held
    exact ⟨optional, by rw [line]; exact Nat.lt_succ_of_le before⟩)
  refine ⟨next, stands, fun fuel => Eq.trans ?_ (same (fuel + 1))⟩
  apply run_congr
  rw [prepare, prepare, skipToToken_line holds.inFlow holds.rest token, skipToToken_token]
  rw [behind]
  exact token

variable {tokens : List Token} {indents : List Int} {keyAllowed : Bool} {column : Nat}

/-- The end of a line. -/
theorem leads_line (token : atToken rest = true) :
    Leads ⟨tokens, indents, keyAllowed, column, '\n' :: (pad width ++ rest)⟩
      ⟨tokens, indents, true, width, rest⟩ := by
  intro lexer stands
  obtain ⟨next, standsNext, reads⟩ := settle_line stands.toHolds token (by simp [stands.candidate])
  refine ⟨next, standsNext, ?_⟩
  intro fuel enough
  simp only [List.length_cons, List.length_append] at enough
  obtain ⟨fuel, rfl⟩ := Nat.exists_eq_add_of_le' (show 2 ≤ fuel by omega)
  exact ⟨fuel + 2, by simp only; omega, reads fuel⟩

/-- A space in front of a token. -/
theorem leads_space (token : atToken rest = true) :
    Leads ⟨tokens, indents, keyAllowed, column, ' ' :: rest⟩
      ⟨tokens, indents, keyAllowed, column + 1, rest⟩ := by
  intro lexer stands
  have ahead : lexer.cursor.rest = pad 1 ++ rest := stands.rest
  have behind := Cursor.rest_past ahead
  refine ⟨{ lexer with cursor := lexer.cursor.past (pad 1) },
    ⟨⟨behind, ?_, stands.indents, stands.outside, stands.keyAllowed, stands.tokens, stands.slots,
      stands.fillings⟩, stands.candidate⟩, ?_⟩
  · rw [Cursor.past_pad, Cursor.column_skip, stands.column]
  · intro fuel enough
    simp only [List.length_cons] at enough
    obtain ⟨fuel, rfl⟩ := Nat.exists_eq_add_of_le' (show 1 ≤ fuel by omega)
    refine ⟨fuel + 1, by simp only; omega, run_congr ?_⟩
    rw [prepare, prepare, skipToToken_pad ahead token, skipToToken_token]
    rw [behind]
    exact token

/-! ### The end of blocks -/

/-- The lexer with its innermost block ended. -/
def leave (lexer : Lexer) (indent : Int) (outerIndents : List Int) : Lexer :=
  { lexer with indent, outerIndents, items := .token .blockEnd :: lexer.items }

/-- Blocks are closed one by one. -/
theorem closeBlocks_leave {limit indent : Int} {outerIndents : List Int}
    (outside : lexer.inFlow = false) (around : lexer.outerIndents = indent :: outerIndents)
    (deeper : limit < lexer.indent) :
    lexer.closeBlocks limit = (lexer.leave indent outerIndents).closeBlocks limit := by
  have stays : (lexer.leave indent outerIndents).inFlow = false := outside
  rw [closeBlocks, closeBlocks, if_neg (by simp [outside]), if_neg (by simp [stays]), around,
    closed, if_pos deeper]
  simp only [leave, emitAll, Lexer.mk.injEq, true_and, List.map_replicate, List.reverse_replicate]
  simp [List.replicate_succ']

theorem closed_of_le {limit indent : Int} {outerIndents : List Int} (inside : indent ≤ limit) :
    closed limit indent outerIndents = (indent, outerIndents, 0) := by
  cases outerIndents with
  | nil => rfl
  | cons outer outers => rw [closed, if_neg (by omega)]

theorem closeBlocks_of_le {limit : Int} (inside : lexer.indent ≤ limit) :
    lexer.closeBlocks limit = lexer := by
  rw [closeBlocks, closed_of_le inside]
  split <;> rfl

/-- Closing blocks up to a column first makes no difference to closing all blocks. -/
theorem closeBlocks_closeBlocks {limit : Int} (low : -1 ≤ limit) (outside : lexer.inFlow = false) :
    (lexer.closeBlocks limit).closeBlocks (-1) = lexer.closeBlocks (-1) := by
  induction around : lexer.outerIndents generalizing lexer with
  | nil =>
    have none : lexer.closeBlocks limit = lexer := by
      rw [closeBlocks, around, closed]
      split
      · rfl
      · rw [← around]
        rfl
    rw [none]
  | cons outer outers ih =>
    rcases Int.lt_or_le limit lexer.indent with deeper | inside
    · have stays : (lexer.leave outer outers).inFlow = false := outside
      rw [closeBlocks_leave outside around deeper, ih stays rfl,
        closeBlocks_leave outside around (by omega)]
    · rw [closeBlocks_of_le inside]

theorem resolveSlots_append (fillings : List (Nat × List Token)) (items more : List Item) :
    resolveSlots fillings (items ++ more) =
      resolveSlots fillings items ++ resolveSlots fillings more :=
  List.flatMap_append

theorem resolveSlots_token (fillings : List (Nat × List Token)) (token : Token) :
    resolveSlots fillings [.token token] = [token] := rfl

/-- In front of a token only the end of blocks is left to find. -/
theorem prepare_token (stands : lexer.Stands situation) (token : atToken situation.rest = true) :
    prepare (fuel + 1) lexer = some (lexer.closeBlocks situation.column) := by
  have same : { lexer with candidate := none } = lexer := by
    rw [← stands.candidate]
  rw [prepare, skipToToken_token (by rw [stands.rest]; exact token),
    dropLapsed_eq stands.outside (by simp [stands.candidate]), same, ← stands.column]
  rfl

theorem run_end (stands : lexer.Stands situation) (ended : situation.rest = []) :
    run (fuel + 1) lexer = (lexer.closeBlocks (-1)).giveUp := by
  have token : atToken situation.rest = true := by rw [ended]; rfl
  have rest : (lexer.closeBlocks situation.column).cursor.rest = [] := by
    have same : (lexer.closeBlocks situation.column).cursor = lexer.cursor := by
      unfold closeBlocks
      split <;> rfl
    rw [same, stands.rest, ended]
  rw [run_succ, prepare_token stands token, Option.bind_some, proceed, rest]
  simp only [closeBlocks_closeBlocks (by omega : (-1 : Int) ≤ situation.column) stands.inFlow]

/-- The end of the innermost block. -/
theorem leads_close {inner indent : Int} (token : atToken rest = true)
    (ended : (column : Int) < inner ∨ rest = [] ∧ -1 < inner) :
    Leads ⟨tokens, inner :: indent :: indents, keyAllowed, column, rest⟩
      ⟨tokens ++ [.blockEnd], indent :: indents, keyAllowed, column, rest⟩ := by
  intro lexer stands
  obtain ⟨here, around⟩ := List.cons.inj stands.indents
  have left : (lexer.leave indent indents).Stands
      ⟨tokens ++ [.blockEnd], indent :: indents, keyAllowed, column, rest⟩ := by
    refine ⟨⟨stands.rest, stands.column, rfl, stands.outside, stands.keyAllowed, ?_, ?_,
      stands.fillings⟩, stands.candidate⟩
    · rw [leave, List.reverse_cons, resolveSlots_append, stands.tokens, resolveSlots_token]
    · intro number member
      rcases List.mem_cons.1 member with token | former
      · cases token
      · exact stands.slots number former
  refine ⟨lexer.leave indent indents, left, ?_⟩
  intro fuel enough
  obtain ⟨fuel, rfl⟩ := Nat.exists_eq_add_of_le' (show 1 ≤ fuel by omega)
  refine ⟨fuel + 1, enough, ?_⟩
  rcases ended with deeper | ⟨done, low⟩
  · apply run_congr
    rw [prepare_token stands token, prepare_token left token,
      closeBlocks_leave stands.inFlow around (by rw [here]; exact deeper)]
  · rw [run_end stands done, run_end left done,
      closeBlocks_leave stands.inFlow around (by rw [here]; exact low)]

/-! ### Tokens -/

/-- Tokens that are read where no block ends. What the lexer comes to behind the first one has to
read like a lexer in the next situation. -/
theorem leads_of_tokens {indent : Int} {after : Situation} {behind : List Char}
    (token : atToken (c :: behind) = true) (inside : indent ≤ column)
    (reads : ∀ lexer : Lexer,
      lexer.Stands ⟨tokens, indent :: indents, keyAllowed, column, c :: behind⟩ →
        ∃ next : Lexer, next.Stands after ∧ ∀ fuel, behind.length < fuel →
          ∃ left, after.rest.length < left ∧
            (Lexer.token (fuel + 1) lexer c behind).bind (run fuel) = run left next) :
    Leads ⟨tokens, indent :: indents, keyAllowed, column, c :: behind⟩ after := by
  intro lexer stands
  obtain ⟨next, standsNext, same⟩ := reads lexer stands
  refine ⟨next, standsNext, ?_⟩
  intro fuel enough
  simp only [List.length_cons] at enough
  obtain ⟨fuel, rfl⟩ := Nat.exists_eq_add_of_le' (show 1 ≤ fuel by omega)
  obtain ⟨left, enough, same⟩ := same fuel (by omega)
  refine ⟨left, enough, ?_⟩
  have still : lexer.closeBlocks column = lexer :=
    closeBlocks_of_le (by rw [(List.cons.inj stands.indents).1]; exact inside)
  rw [run_succ, prepare_token stands token, still, Option.bind_some, proceed, stands.rest, ← same]
  rfl

/-- A token that is read where no block ends. -/
theorem leads_of_token {indent : Int} {after : Situation} {behind : List Char}
    (token : atToken (c :: behind) = true) (inside : indent ≤ column)
    (shorter : after.rest.length ≤ behind.length)
    (reads : ∀ lexer : Lexer,
      lexer.Stands ⟨tokens, indent :: indents, keyAllowed, column, c :: behind⟩ →
        ∃ next : Lexer, next.Stands after ∧ ∀ fuel, behind.length < fuel →
          (Lexer.token (fuel + 1) lexer c behind).bind (run fuel) = run fuel next) :
    Leads ⟨tokens, indent :: indents, keyAllowed, column, c :: behind⟩ after := by
  apply leads_of_tokens token inside
  intro lexer stands
  obtain ⟨next, standsNext, same⟩ := reads lexer stands
  exact ⟨next, standsNext, fun fuel enough => ⟨fuel, by omega, same fuel enough⟩⟩

end SaveManifest.Yaml.Lexer

namespace SaveManifest.Yaml

open Lexer

/-- The tokens of a text that reading leads through. -/
theorem tokens?_of_leads {text : List Char} {tokens : List Token} {keyAllowed : Bool}
    (allowed : text.all isAllowed = true)
    (leads : Leads ⟨[], [-1], true, 0, text⟩ ⟨tokens, [-1], keyAllowed, 0, []⟩) :
    tokens? text = some tokens := by
  have start : Lexer.Stands { cursor := { rest := text } } ⟨[], [-1], true, 0, text⟩ :=
    ⟨⟨rfl, rfl, rfl, rfl, rfl, rfl, by simp, by simp⟩, rfl⟩
  obtain ⟨last, stands, reads⟩ := leads _ start
  obtain ⟨fuel, enough, same⟩ := reads (text.length + 1) (Nat.lt_succ_self _)
  obtain ⟨fuel, rfl⟩ := Nat.exists_eq_add_of_le' (show 1 ≤ fuel by omega)
  obtain ⟨low, around⟩ := List.cons.inj stands.indents
  have still : last.closeBlocks (-1) = last := closeBlocks_of_le (Int.le_of_eq low)
  have done : last.giveUp = some { last with candidate := none } := by
    rw [giveUp, stands.candidate]
    rfl
  rw [tokens?, allowed, same, run_end stands rfl, still, done]
  simp [stands.tokens]

end SaveManifest.Yaml
