import SaveManifest.Proofs.Text.Number
import SaveManifest.Proofs.Yaml.Keys

/-!
# Values as tokens

What is written for a value is read as the tokens of the value (`Value.tokens`). Items and fields
are entries: each begins a line, the first one opens the block, and the block ends where a line is
indented less. A list behind a key on the same line is not indented, so nothing opens or ends it.
-/

namespace SaveManifest.Yaml

namespace Value

/-- Induction over a value, with the items of a list and the values of a map. -/
@[elab_as_elim]
theorem induction {motive : Value → Prop} (null : motive .null)
    (bool : ∀ value, motive (.bool value)) (number : ∀ value, motive (.number value))
    (text : ∀ value, motive (.text value))
    (list : ∀ items, (∀ item ∈ items, motive item) → motive (.list items))
    (map : ∀ fields, (∀ field ∈ fields, motive field.2) → motive (.map fields))
    (value : Value) : motive value :=
  @Value.rec motive (fun items => ∀ item ∈ items, motive item)
    (fun fields => ∀ field ∈ fields, motive field.2) (fun field => motive field.2) null bool number
    text list map (fun _ none => nomatch none)
    (fun _ _ head tail => List.forall_mem_cons.2 ⟨head, tail⟩) (fun _ none => nomatch none)
    (fun _ _ head tail => List.forall_mem_cons.2 ⟨head, tail⟩) (fun _ _ value => value) value

mutual

/-- The tokens of a value; `indentless` says that it stands behind a key on the same line. -/
def tokens (indentless : Bool) : Value → List Token
  | .null => [.scalar .plain "null"]
  | .bool value => [.scalar .plain (if value then "true" else "false")]
  | .number value => [.scalar .plain (toString value)]
  | .text value => [.scalar (styleOf value.toList) value]
  | .list [] => [.flowSequence, .flowSequenceEnd]
  | .list (item :: items) =>
    if indentless then itemTokens (item :: items)
    else .blockSequence :: (itemTokens (item :: items) ++ [.blockEnd])
  | .map [] => [.flowMapping, .flowMappingEnd]
  | .map (field :: fields) => .blockMapping :: (fieldTokens (field :: fields) ++ [.blockEnd])

def itemTokens : List Value → List Token
  | [] => []
  | item :: items => .blockEntry :: (item.tokens false ++ itemTokens items)

def fieldTokens : List (String × Value) → List Token
  | [] => []
  | (key, value) :: fields =>
    .key :: .scalar (styleOf key.toList) key :: .value ::
      (value.tokens (isSimpleKey key.toList) ++ fieldTokens fields)

end

/-- Whether a value is written as a block of lines of its own. -/
def isBlock : Value → Bool
  | .list items => !items.isEmpty
  | .map fields => !fields.isEmpty
  | _ => false

/-- What is written for a value that is no block, later lines indented by `inner`. -/
def inline (inner : Nat) : Value → List Char
  | .null => "null".toList
  | .bool value => (if value then "true" else "false").toList
  | .number value => (toString value).toList
  | .text value => scalarLines inner value.toList
  | .list _ => ['[', ']']
  | .map _ => ['{', '}']

/-- What is written for a value at `column`. -/
def content (column inner : Nat) : Value → List Char
  | .list (item :: items) => listLines column (item :: items)
  | .map (field :: fields) => mapLines column (field :: fields)
  | other => other.inline inner

theorem itemLines_eq (indent : Nat) (value : Value) :
    itemLines indent value = ' ' :: value.content (indent + 2) (indent + 2) := by
  rcases value with _ | value | value | value | (_ | ⟨item, items⟩) | (_ | ⟨field, fields⟩) <;> rfl

theorem valueLines_eq (indent : Nat) {value : Value} (flat : value.isBlock = false) :
    valueLines indent value = ' ' :: value.inline (indent + 2) := by
  rcases value with _ | value | value | value | (_ | ⟨item, items⟩) | (_ | ⟨field, fields⟩)
  all_goals first
    | rfl
    | cases flat

theorem valueLines_ne_nil (indent : Nat) (value : Value) : valueLines indent value ≠ [] := by
  rcases value with _ | value | value | value | (_ | ⟨item, items⟩) | (_ | ⟨field, fields⟩) <;>
    exact List.cons_ne_nil _ _

theorem atGap_valueLines (indent : Nat) (value : Value) (behind : List Char) :
    atGap (valueLines indent value ++ behind) = true := by
  rcases value with _ | value | value | value | (_ | ⟨item, items⟩) | (_ | ⟨field, fields⟩) <;> rfl

theorem print_eq (value : Value) : print value = String.ofList (endLine (value.content 0 2)) := by
  rcases value with _ | value | value | value | (_ | ⟨item, items⟩) | (_ | ⟨field, fields⟩) <;> rfl

end Value

open Lexer

variable {tokens found more : List Token} {opening : Token} {indent : Int} {indents : List Int}
  {keyAllowed : Bool} {column width inner : Nat} {line lines rest : List Char} {value : Value}

/-! ### Values on a line -/

theorem endsInside_of_solid {text : List Char} (solid : ∀ c ∈ text, c ≠ '#' ∧ c ≠ ':') :
    endsInside text = false := by
  induction text with
  | nil => rfl
  | cons c text ih =>
    have behind := ih fun d member => solid d (List.mem_cons_of_mem _ member)
    cases text with
    | nil => rfl
    | cons d text =>
      obtain ⟨comment, colon⟩ := solid d (by simp)
      rw [endsInside, behind, beq_eq_false_iff_ne.2 comment, beq_eq_false_iff_ne.2 colon]
      simp

/-- A row of digits needs no quotes. -/
theorem plainAllowed_of_digits {text : List Char} (visible : text ≠ [])
    (digital : ∀ c ∈ text, Text.isDigit c = true) : plainAllowed text = true := by
  have signs : ∀ c ∈ ['0', '1', '2', '3', '4', '5', '6', '7', '8', '9'],
      (c ≠ '#' ∧ c ≠ ':') ∧ (isSpace c = false ∧ isBreak c = false ∧ isSpecial c = false) ∧
        ∀ behind, beginsLikeMarker (c :: behind) = false ∧
          beginsWithIndicator (c :: behind) = false := by
    intro c member
    simp only [List.mem_cons, List.not_mem_nil, or_false] at member
    rcases member with rfl | rfl | rfl | rfl | rfl | rfl | rfl | rfl | rfl | rfl <;>
      exact ⟨by decide, by decide, fun _ => ⟨rfl, rfl⟩⟩
  have plain := fun c member => signs c (Text.mem_of_isDigit (digital c member))
  obtain ⟨c, behind, rfl⟩ := List.exists_cons_of_ne_nil visible
  obtain ⟨-, ⟨space, -⟩, begins⟩ := plain c List.mem_cons_self
  have last : (c :: behind).getLast?.any isSpace = false := by
    cases final : (c :: behind).getLast? with
    | none => rfl
    | some d => exact (plain d (List.mem_of_getLast? final)).2.1.1
  have breaks : (c :: behind).any isBreak = false := by
    simpa using fun d member => (plain d member).2.1.2.1
  have special : (c :: behind).any isSpecial = false := by
    simpa using fun d member => (plain d member).2.1.2.2
  rw [plainAllowed, (begins behind).1, (begins behind).2,
    endsInside_of_solid fun d member => (plain d member).1, List.head?_cons, Option.any_some, space,
    last, breaks, special]
  rfl

/-- What stands for a value on a line: a scalar, or the brackets of an empty collection. -/
inductive Inline (inner : Nat) : List Token → List Char → Prop
  | scalar {text : String} {style : Style} {written : List Char}
      (lines : Written inner text.toList style written) :
    Inline inner [.scalar style text] written
  | brackets {opened closed : Char} {opening closing : Token}
      (brackets : IsBrackets opened closed opening closing) :
    Inline inner [opening, closing] [opened, closed]

/-- A value that is no block stands on a line. -/
theorem Value.inline_spec (flat : value.isBlock = false) (inner : Nat) (indentless : Bool) :
    Inline inner (value.tokens indentless) (value.inline inner) := by
  rcases value with _ | value | value | value | (_ | ⟨item, items⟩) | (_ | ⟨field, fields⟩)
  case null => exact .scalar (.plain (by decide) (by decide))
  case bool => exact .scalar (.plain (by cases value <;> decide) (by cases value <;> decide))
  case number =>
    have visible := Text.toList_toString_ne_nil value
    exact .scalar (.plain (plainAllowed_of_digits visible
      fun c member => Text.isDigit_of_mem_toString member) visible)
  case text => exact .scalar (written_scalarLines inner value.toList)
  case list.nil => exact .brackets isBrackets_list
  case map.nil => exact .brackets isBrackets_map
  all_goals cases flat

/-- What stands on a line is read as its tokens. -/
theorem Inline.leads (inside : Inline (indent.toNat + 2) found line) (deeper : indent < column)
    (resumes : Resumes indent width rest) :
    Leads ⟨tokens, indent :: indents, keyAllowed, column, endLine line ++ (pad width ++ rest)⟩
      ⟨tokens ++ found, indent :: indents, true, width, rest⟩ := by
  cases inside with
  | @scalar text style written lines =>
    have leads := @leads_text tokens indent indents keyAllowed column width rest style text.toList
      line (indent.toNat + 2) deeper lines rfl resumes
    rwa [String.ofList_toList] at leads
  | @brackets opened closed opening closing brackets =>
    have last : [opened, closed].getLast?.any isBreak = false := (brackets.plain closed (by simp)).1
    rw [endLine_of_flat last]
    exact leads_flow brackets deeper resumes.token

theorem Inline.printable (inside : Inline inner found line) : ∀ c ∈ line, isPrintable c = true := by
  cases inside with
  | scalar lines => exact lines.printable
  | brackets brackets => exact fun c member => (brackets.plain c member).2

theorem Inline.visible (inside : Inline inner found line) : line ≠ [] := by
  cases inside with
  | scalar lines => exact lines.visible
  | brackets brackets => exact List.cons_ne_nil _ _

theorem Inline.token (inside : Inline inner found line) (behind : List Char) :
    atToken (line ++ behind) = true := by
  cases inside with
  | scalar lines => exact lines.token behind
  | brackets brackets => exact (brackets.solid _).1

/-! ### Entries of a block -/

/-- What begins a line at a column of its own, in a block that it opens if need be. -/
structure IsEntry (column : Nat) (opening : Token) (line : List Char) (found : List Token) :
    Prop where
  visible : line ≠ []
  token : ∀ behind, atToken (line ++ behind) = true
  printable : ∀ c ∈ line, isPrintable c = true
  leads : ∀ {tokens : List Token} {indent : Int} {indents : List Int} {width : Nat}
    {rest : List Char}, indent ≤ column → Resumes column width rest →
      Leads ⟨tokens, indent :: indents, true, column, endLine line ++ (pad width ++ rest)⟩
        ⟨tokens ++ opens indent column opening ++ found, within indent indents column, true, width,
          rest⟩

theorem opens_self : opens column column opening = [] := if_neg (Int.lt_irrefl _)

theorem within_self : within column indents column = (column : Int) :: indents :=
  if_neg (Int.lt_irrefl _)

theorem exists_within (inside : indent ≤ column) :
    ∃ outer, within indent indents column = (column : Int) :: outer := by
  unfold within
  split
  · exact ⟨_, rfl⟩
  · next shallow =>
    have same : indent = column := by omega
    exact ⟨_, by rw [same]⟩

/-- Entries one below the other are read one after the other. -/
theorem IsEntry.append (first : IsEntry column opening line found)
    (second : IsEntry column opening lines more) :
    IsEntry column opening (endLine line ++ pad column ++ lines) (found ++ more) where
  visible := List.append_ne_nil_of_right_ne_nil _ second.visible
  token behind := by
    rw [List.append_assoc, List.append_assoc]
    exact atToken_endLine first.token _
  printable := List.forall_mem_append.2 ⟨List.forall_mem_append.2
    ⟨forall_mem_endLine first.printable (by decide), fun c member => isPrintable_of_mem_pad member⟩,
    second.printable⟩
  leads {tokens indent indents width rest} inside resumes := by
    obtain ⟨outer, around⟩ := @exists_within indent indents column inside
    have below : Resumes column column (endLine lines ++ (pad width ++ rest)) :=
      ⟨atToken_endLine second.token _, Or.inl (Int.le_refl _)⟩
    have early := @first.leads tokens indent indents column _ inside below
    have late := @second.leads (tokens ++ opens indent column opening ++ found) column outer width
      rest (Int.le_refl _) resumes
    rw [opens_self, within_self, List.append_nil] at late
    rw [around] at early ⊢
    rw [endLine_append second.visible, List.append_assoc, List.append_assoc,
      ← List.append_assoc _ found]
    exact early.trans late

/-- A block of entries, up to a line that is indented less. -/
theorem IsEntry.leads_block (entry : IsEntry column opening line found) (deeper : indent < column)
    (resumes : Resumes indent width rest) :
    Leads ⟨tokens, indent :: indents, true, column, endLine line ++ (pad width ++ rest)⟩
      ⟨tokens ++ opening :: (found ++ [.blockEnd]), indent :: indents, true, width, rest⟩ := by
  have below : Resumes column width rest :=
    ⟨resumes.token, resumes.outside.imp_left fun outside => by omega⟩
  have entered := @entry.leads tokens indent indents width rest (Int.le_of_lt deeper) below
  rw [opens, within, if_pos deeper, if_pos deeper] at entered
  have close := @leads_close rest (tokens ++ [opening] ++ found) indents true width column indent
    resumes.token (by
      rcases resumes.outside with outside | ⟨none, -⟩
      · exact Or.inl (by omega)
      · exact Or.inr ⟨none, by omega⟩)
  have all := entered.trans close
  simpa using all

/-! ### Values as entries -/

/-- What is written for a value is read as its tokens, wherever the value stands. -/
structure IsLexed (value : Value) : Prop where
  visible : ∀ column inner, value.content column inner ≠ []
  token : ∀ column inner behind, atToken (value.content column inner ++ behind) = true
  printable : ∀ column inner, ∀ c ∈ value.content column inner, isPrintable c = true
  content : ∀ {tokens : List Token} {indent : Int} {indents : List Int} {column width : Nat}
    {rest : List Char}, indent < column → Resumes indent width rest →
      Leads ⟨tokens, indent :: indents, true, column,
          endLine (value.content column (indent.toNat + 2)) ++ (pad width ++ rest)⟩
        ⟨tokens ++ value.tokens false, indent :: indents, true, width, rest⟩
  behindPrintable : ∀ indent, ∀ c ∈ valueLines indent value, isPrintable c = true
  behind : ∀ {tokens : List Token} {indents : List Int} {indent column width : Nat}
    {rest : List Char}, indent < column → Resumes indent width rest →
      Leads ⟨tokens, indent :: indents, false, column,
          endLine (valueLines indent value) ++ (pad width ++ rest)⟩
        ⟨tokens ++ value.tokens true, indent :: indents, true, width, rest⟩

/-- A value that is no block is read wherever it stands. -/
theorem isLexed_of_inline (flat : value.isBlock = false)
    (same : ∀ column inner, value.content column inner = value.inline inner) : IsLexed value where
  visible column inner := by
    rw [same]
    exact (value.inline_spec flat inner false).visible
  token column inner behind := by
    rw [same]
    exact (value.inline_spec flat inner false).token behind
  printable column inner := by
    rw [same]
    exact (value.inline_spec flat inner false).printable
  content {tokens indent indents column width rest} deeper resumes := by
    rw [same]
    exact (value.inline_spec flat _ false).leads deeper resumes
  behindPrintable indent := by
    rw [Value.valueLines_eq indent flat]
    exact List.forall_mem_cons.2 ⟨by decide, (value.inline_spec flat _ false).printable⟩
  behind {tokens indents indent column width rest} deeper resumes := by
    have inside : Inline ((indent : Int).toNat + 2) (value.tokens true)
        (value.inline (indent + 2)) := value.inline_spec flat _ true
    rw [Value.valueLines_eq indent flat, endLine_cons inside.visible, List.cons_append]
    exact (leads_space (atToken_endLine inside.token _)).trans (inside.leads (by omega) resumes)

/-- What stands behind an indicator and a space, in a block at a column. -/
structure IsContent (indent : Nat) (lines : List Char) (found : List Token) : Prop where
  visible : lines ≠ []
  token : ∀ behind, atToken (lines ++ behind) = true
  printable : ∀ c ∈ lines, isPrintable c = true
  leads : ∀ {tokens : List Token} {indents : List Int} {width : Nat} {rest : List Char},
    Resumes indent width rest →
      Leads ⟨tokens, indent :: indents, true, indent + 2, endLine lines ++ (pad width ++ rest)⟩
        ⟨tokens ++ found, indent :: indents, true, width, rest⟩

theorem IsLexed.isContent (lexed : IsLexed value) (indent : Nat) :
    IsContent indent (value.content (indent + 2) (indent + 2)) (value.tokens false) where
  visible := lexed.visible _ _
  token := lexed.token _ _
  printable := lexed.printable _ _
  leads {tokens indents width rest} resumes :=
    @lexed.content tokens indent indents (indent + 2) width rest (by omega) resumes

theorem isContent_key (indent : Nat) (key : String) :
    IsContent indent (scalarLines (indent + 2) key.toList) [.scalar (styleOf key.toList) key] where
  visible := (written_scalarLines _ _).visible
  token := (written_scalarLines _ _).token
  printable := (written_scalarLines _ _).printable
  leads {tokens indents width rest} resumes := by
    have written : Inline ((indent : Int).toNat + 2) [.scalar (styleOf key.toList) key]
        (scalarLines (indent + 2) key.toList) := .scalar (written_scalarLines _ _)
    exact written.leads (by omega) resumes

/-- An indicator makes an entry of what stands behind it. -/
theorem isEntry_indicator {sign : Char} {token : Token} {indent : Nat}
    (solid : ∀ behind, atToken (sign :: behind) = true) (printable : isPrintable sign = true)
    (reads : ∀ {tokens : List Token} {outer : Int} {indents : List Int} {rest : List Char},
      outer ≤ indent → atToken rest = true →
        Leads ⟨tokens, outer :: indents, true, indent, sign :: ' ' :: rest⟩
          ⟨tokens ++ opens outer indent opening ++ [token], within outer indents indent, true,
            indent + 2, rest⟩)
    (content : IsContent indent lines found) :
    IsEntry indent opening (sign :: ' ' :: lines) (token :: found) where
  visible := List.cons_ne_nil _ _
  token _ := solid _
  printable := List.forall_mem_cons.2 ⟨printable, List.forall_mem_cons.2
    ⟨by decide, content.printable⟩⟩
  leads {tokens outer indents width rest} inside resumes := by
    obtain ⟨around, same⟩ := @exists_within outer indents indent inside
    have early := @reads tokens outer indents _ inside
      (atToken_endLine content.token (pad width ++ rest))
    have late := @content.leads (tokens ++ opens outer indent opening ++ [token]) around width rest
      resumes
    rw [endLine_cons (List.cons_ne_nil _ _), endLine_cons content.visible]
    rw [same] at early ⊢
    simpa using early.trans late

/-- An item of a list. -/
theorem isEntry_item (indent : Nat) (lexed : IsLexed value) :
    IsEntry indent .blockSequence ('-' :: itemLines indent value)
      (.blockEntry :: value.tokens false) := by
  rw [Value.itemLines_eq]
  exact isEntry_indicator (fun _ => rfl) (by decide) leads_entry (lexed.isContent indent)

theorem isEntry_items (indent : Nat) {items : List Value} (some : items ≠ [])
    (lexed : ∀ item ∈ items, IsLexed item) :
    IsEntry indent .blockSequence (listLines indent items) (Value.itemTokens items) := by
  induction items with
  | nil => exact absurd rfl some
  | cons item items ih =>
    obtain ⟨here, later⟩ := List.forall_mem_cons.1 lexed
    have first := isEntry_item indent here
    cases items with
    | nil => simpa [listLines, Value.itemTokens] using first
    | cons next items =>
      have both := first.append (ih (List.cons_ne_nil _ _) later)
      rwa [listLines, Value.itemTokens]

/-- A field of a map on a line with its key. -/
theorem isEntry_simpleKey (indent : Nat) {key : String} (simple : isSimpleKey key.toList = true)
    (lexed : IsLexed value) :
    IsEntry indent .blockMapping
      (scalarLines (indent + 2) key.toList ++ ':' :: valueLines indent value)
      (.key :: .scalar (styleOf key.toList) key :: .value :: value.tokens true) := by
  have written := written_scalarLines (indent + 2) key.toList
  refine ⟨List.append_ne_nil_of_left_ne_nil written.visible _, ?_, ?_, ?_⟩
  · intro behind
    rw [List.append_assoc]
    exact written.token _
  · exact List.forall_mem_append.2 ⟨written.printable, List.forall_mem_cons.2
      ⟨by decide, lexed.behindPrintable indent⟩⟩
  · intro tokens outer indents width rest inside resumes
    obtain ⟨around, same⟩ := @exists_within outer indents indent inside
    have gap : atGap (endLine (valueLines indent value) ++ (pad width ++ rest)) = true := by
      obtain ⟨ending, split⟩ := exists_endLine_append (valueLines indent value)
      rw [split, List.append_assoc]
      exact Value.atGap_valueLines indent value _
    have early := @leads_simpleKey tokens outer indents indent (indent + 2) _ _ _ _ inside gap
      written simple (by omega)
    have late := @lexed.behind (tokens ++ opens outer indent .blockMapping ++
      [.key, .scalar (styleOf key.toList) key, .value]) around indent
      (indent + (scalarLines (indent + 2) key.toList).length + 1) width rest (by omega) resumes
    rw [endLine_append (List.cons_ne_nil _ _), endLine_cons (Value.valueLines_ne_nil indent value)]
    rw [same, String.ofList_toList] at early
    rw [same]
    simpa using early.trans late

/-- A field of a map whose key stands on lines of its own: the key and the value are entries of
their own. -/
theorem isEntry_complexKey (indent : Nat) (key : String) (lexed : IsLexed value) :
    IsEntry indent .blockMapping
      (endLine ('?' :: ' ' :: scalarLines (indent + 2) key.toList) ++ pad indent ++
        ':' :: itemLines indent value)
      (.key :: .scalar (styleOf key.toList) key :: .value :: value.tokens false) := by
  have question := isEntry_indicator (fun _ => rfl) (by decide) leads_question
    (isContent_key indent key)
  have colon := isEntry_indicator (fun _ => rfl) (by decide) leads_colon (lexed.isContent indent)
  rw [Value.itemLines_eq]
  exact question.append colon

theorem isEntry_fields (indent : Nat) {fields : List (String × Value)} (some : fields ≠ [])
    (lexed : ∀ field ∈ fields, IsLexed field.2) :
    IsEntry indent .blockMapping (mapLines indent fields) (Value.fieldTokens fields) := by
  induction fields with
  | nil => exact absurd rfl some
  | cons field fields ih =>
    obtain ⟨key, value⟩ := field
    obtain ⟨here, later⟩ := List.forall_mem_cons.1 lexed
    have first : IsEntry indent .blockMapping
        (if isSimpleKey key.toList then
          scalarLines (indent + 2) key.toList ++ ':' :: valueLines indent value
        else endLine ('?' :: ' ' :: scalarLines (indent + 2) key.toList) ++ pad indent ++
          ':' :: itemLines indent value)
        (.key :: .scalar (styleOf key.toList) key :: .value ::
          value.tokens (isSimpleKey key.toList)) := by
      cases simple : isSimpleKey key.toList with
      | true => exact isEntry_simpleKey indent simple here
      | false => exact isEntry_complexKey indent key here
    cases fields with
    | nil => simpa [mapLines, Value.fieldTokens] using first
    | cons next fields =>
      have both := first.append (ih (List.cons_ne_nil _ _) later)
      rwa [mapLines, Value.fieldTokens]

/-- A block behind a key begins on the next line, `offset` columns deeper than the key; where it is
not deeper, nothing opens or ends it. -/
theorem isLexed_of_entry {lines : Nat → List Char} (offset : Nat)
    (entry : ∀ column, IsEntry column opening (lines column) found)
    (content : ∀ column inner, value.content column inner = lines column)
    (behind : ∀ indent, valueLines indent value =
      '\n' :: (pad (indent + offset) ++ lines (indent + offset)))
    (indented : value.tokens false = opening :: (found ++ [.blockEnd]))
    (shallow : value.tokens true = if offset = 0 then found else value.tokens false) :
    IsLexed value where
  visible column inner := by
    rw [content]
    exact (entry column).visible
  token column inner behind := by
    rw [content]
    exact (entry column).token behind
  printable column inner := by
    rw [content]
    exact (entry column).printable
  content {tokens indent indents column width rest} deeper resumes := by
    rw [content, indented]
    exact (entry column).leads_block deeper resumes
  behindPrintable indent := by
    rw [behind]
    exact List.forall_mem_cons.2 ⟨by decide, List.forall_mem_append.2
      ⟨fun c member => isPrintable_of_mem_pad member, (entry _).printable⟩⟩
  behind {tokens indents indent column width rest} deeper resumes := by
    have split : endLine (valueLines indent value) ++ (pad width ++ rest) =
        '\n' :: (pad (indent + offset) ++
          (endLine (lines (indent + offset)) ++ (pad width ++ rest))) := by
      have visible : pad (indent + offset) ++ lines (indent + offset) ≠ [] :=
        List.append_ne_nil_of_right_ne_nil _ (entry _).visible
      rw [behind, endLine_cons visible, endLine_append (entry _).visible, List.cons_append,
        List.append_assoc]
    rw [split]
    refine (leads_line (atToken_endLine (entry _).token _)).trans ?_
    rw [shallow]
    split
    · next same =>
      subst same
      have block := @(entry indent).leads tokens indent indents width rest (Int.le_refl _) resumes
      rwa [opens_self, within_self, List.append_nil] at block
    · rw [indented]
      exact (entry _).leads_block (by omega) resumes

/-- Whatever is written for a value is read as its tokens. -/
theorem isLexed (value : Value) : IsLexed value := by
  induction value using Value.induction with
  | null => exact isLexed_of_inline rfl fun _ _ => rfl
  | bool value => exact isLexed_of_inline rfl fun _ _ => rfl
  | number value => exact isLexed_of_inline rfl fun _ _ => rfl
  | text value => exact isLexed_of_inline rfl fun _ _ => rfl
  | list items ih =>
    cases items with
    | nil => exact isLexed_of_inline rfl fun _ _ => rfl
    | cons item items =>
      exact isLexed_of_entry 0 (fun column => isEntry_items column (List.cons_ne_nil item items) ih)
        (fun _ _ => rfl) (fun _ => rfl) (by simp [Value.tokens]) (by simp [Value.tokens])
  | map fields ih =>
    cases fields with
    | nil => exact isLexed_of_inline rfl fun _ _ => rfl
    | cons field fields =>
      exact isLexed_of_entry 2
        (fun column => isEntry_fields column (List.cons_ne_nil field fields) ih) (fun _ _ => rfl)
        (fun _ => rfl) (by simp [Value.tokens]) (by simp [Value.tokens])

/-- The tokens of a printed value. -/
theorem tokens?_print (value : Value) :
    tokens? (print value).toList = some (value.tokens false) := by
  have lexed := isLexed value
  have printable := forall_mem_endLine (lexed.printable 0 2) (by decide)
  have leads := @lexed.content [] (-1) [] 0 0 [] (by decide) ⟨rfl, Or.inr ⟨rfl, rfl⟩⟩
  have empty : pad 0 ++ [] = [] := rfl
  rw [empty, List.append_nil] at leads
  rw [Value.print_eq, String.toList_ofList]
  exact tokens?_of_leads
    (List.all_eq_true.2 fun c member => isAllowed_of_isPrintable (printable c member)) leads

end SaveManifest.Yaml
