import SaveManifest.Proofs.Yaml.Values
import SaveManifest.Yaml.Tree

/-!
# Values as documents

The tokens of a value are read as the node of the value (`Value.node`), whatever follows them, so
that a printed value is read as a document of that node. Twice as much fuel as there are tokens is
enough.
-/

namespace SaveManifest.Yaml

mutual

def Value.node : Value → Node
  | .null => .scalar .plain none "null"
  | .bool value => .scalar .plain none (if value then "true" else "false")
  | .number value => .scalar .plain none (toString value)
  | .text value => .scalar (styleOf value.toList) none value
  | .list items => .sequence (itemNodes items)
  | .map fields => .mapping (fieldNodes fields)

def Value.itemNodes : List Value → List Node
  | [] => []
  | item :: items => item.node :: itemNodes items

def Value.fieldNodes : List (String × Value) → List (Node × Node)
  | [] => []
  | (key, value) :: fields =>
    (.scalar (styleOf key.toList) none key, value.node) :: fieldNodes fields

end

/-- The first token of a value stands neither for the end of something nor in front of a
document. -/
theorem Value.exists_tokens (value : Value) (behindKey : Bool) :
    ∃ first others, value.tokens behindKey = first :: others ∧ first ∉ Tree.blockStops ∧
      Tree.isOutside first = false ∧ (behindKey = false → first ≠ .blockEntry) := by
  rcases value with _ | value | value | value | (_ | ⟨item, items⟩) | (_ | ⟨field, fields⟩)
  case list.cons =>
    cases behindKey with
    | true => exact ⟨.blockEntry, _, rfl, by decide, rfl, fun none => nomatch none⟩
    | false => exact ⟨.blockSequence, _, rfl, by decide, rfl, fun _ => by decide⟩
  all_goals exact ⟨_, _, rfl, by simp [Tree.blockStops], rfl, fun _ => by simp⟩

namespace Tree

variable {state : State} {rest : List Token} {stops : List Token} {fuel : Nat} {value : Value}
  {block indentless : Bool}

theorem node_scalar (style : Style) (text : String) :
    node block indentless (fuel + 1) { state with tokens := .scalar style text :: rest } =
      some (.scalar style none text, { state with tokens := rest }) := rfl

theorem node_brackets_list :
    node block indentless (fuel + 2)
      { state with tokens := .flowSequence :: .flowSequenceEnd :: rest } =
      some (.sequence [], { state with tokens := rest }) := rfl

theorem node_brackets_map :
    node block indentless (fuel + 2)
      { state with tokens := .flowMapping :: .flowMappingEnd :: rest } =
      some (.mapping [], { state with tokens := rest }) := rfl

/-- A node without an anchor is given on as it is. -/
theorem bind_leave (result : Option (Node × State)) :
    (result.bind fun (node, state) => some (leave none node state)) = result := by
  cases result <;> rfl

theorem node_blockSequence :
    node true indentless (fuel + 1) { state with tokens := .blockSequence :: rest } =
      blockSequence fuel [] { state with tokens := rest } := by
  refine Eq.trans ?_ (bind_leave _)
  cases indentless <;> rfl

theorem node_blockMapping :
    node true indentless (fuel + 1) { state with tokens := .blockMapping :: rest } =
      blockMapping fuel [] { state with tokens := rest } := by
  refine Eq.trans ?_ (bind_leave _)
  cases indentless <;> rfl

theorem node_blockEntry :
    node true true (fuel + 1) { state with tokens := .blockEntry :: rest } =
      indentlessSequence fuel [] { state with tokens := .blockEntry :: rest } :=
  Eq.trans rfl (bind_leave _)

/-- A value is read as its node, whatever follows its tokens. Behind a key on the same line a list
ends in front of a token that begins no item. -/
def IsParsed (value : Value) : Prop :=
  ∀ {state : State} {rest : List Token} {fuel : Nat} (behindKey indentless : Bool),
    (behindKey = true → indentless = true ∧ rest.head? ≠ some .blockEntry) →
      2 * (value.tokens behindKey).length + behindKey.toNat < fuel →
        node true indentless fuel { state with tokens := value.tokens behindKey ++ rest } =
          some (value.node, { state with tokens := rest })

theorem nodeUnless_value (parsed : IsParsed value) (behindKey : Bool)
    (others : ∀ stop ∈ stops, stop ∈ .blockEntry :: blockStops)
    (deep : behindKey = true →
      indentless = true ∧ rest.head? ≠ some .blockEntry ∧ Token.blockEntry ∉ stops)
    (enough : 2 * (value.tokens behindKey).length + behindKey.toNat + 1 < fuel) :
    nodeUnless stops true indentless fuel
        { state with tokens := value.tokens behindKey ++ rest } =
      some (value.node, { state with tokens := rest }) := by
  obtain ⟨fuel, rfl⟩ := Nat.exists_eq_add_of_le' (show 1 ≤ fuel by omega)
  have going :
      State.stopsAt { state with tokens := value.tokens behindKey ++ rest } stops = false := by
    obtain ⟨first, behind, split, solid, -, entry⟩ := value.exists_tokens behindKey
    have none : first ∉ stops := by
      intro stop
      rcases List.mem_cons.1 (others first stop) with rfl | member
      · cases behindKey with
        | true => exact (deep rfl).2.2 stop
        | false => exact entry rfl rfl
      · exact solid member
    rw [split]
    simpa [State.stopsAt] using none
  rw [nodeUnless, going, if_neg Bool.false_ne_true]
  exact parsed behindKey indentless (fun key => ⟨(deep key).1, (deep key).2.1⟩) (by omega)

theorem isAt_cons {token : Token} :
    State.isAt { state with tokens := token :: rest } token = true := by
  simp [State.isAt]

theorem isAt_of_ne {token : Token} (other : rest.head? ≠ some token) :
    State.isAt { state with tokens := rest } token = false := by
  simpa [State.isAt] using other

/-- The items of a list, up to the end of its block. -/
theorem blockSequence_items {items : List Value} (parsed : ∀ item ∈ items, IsParsed item)
    (before : List Node) (enough : 2 * (Value.itemTokens items).length < fuel) :
    blockSequence fuel before
        { state with tokens := Value.itemTokens items ++ .blockEnd :: rest } =
      some (.sequence (before.reverse ++ Value.itemNodes items),
        { state with tokens := rest }) := by
  induction items generalizing fuel before with
  | nil =>
    obtain ⟨fuel, rfl⟩ := Nat.exists_eq_add_of_le' (show 1 ≤ fuel by omega)
    rw [Value.itemNodes, List.append_nil]
    rfl
  | cons item items ih =>
    obtain ⟨here, later⟩ := List.forall_mem_cons.1 parsed
    simp only [Value.itemTokens, List.length_cons, List.length_append] at enough
    obtain ⟨fuel, rfl⟩ := Nat.exists_eq_add_of_le' (show 1 ≤ fuel by omega)
    have read := @nodeUnless_value state (Value.itemTokens items ++ .blockEnd :: rest)
      [.blockEntry, .blockEnd] fuel item false here false (by decide)
      (fun behindKey => absurd behindKey Bool.false_ne_true)
      (by simp only [Bool.toNat_false]; omega)
    rw [Value.itemTokens, List.cons_append, List.append_assoc, blockSequence, isAt_cons, if_pos rfl]
    change (nodeUnless [.blockEntry, .blockEnd] true false fuel { state with
      tokens := item.tokens false ++ (Value.itemTokens items ++ .blockEnd :: rest) }).bind _ = _
    rw [read]
    refine (ih later (item.node :: before) (by omega)).trans ?_
    simp [Value.itemNodes]

/-- The items of a list that is not indented, up to a token that begins no item. -/
theorem indentlessSequence_items {items : List Value} (parsed : ∀ item ∈ items, IsParsed item)
    (ended : rest.head? ≠ some .blockEntry) (before : List Node)
    (enough : 2 * (Value.itemTokens items).length < fuel) :
    indentlessSequence fuel before { state with tokens := Value.itemTokens items ++ rest } =
      some (.sequence (before.reverse ++ Value.itemNodes items),
        { state with tokens := rest }) := by
  induction items generalizing fuel before with
  | nil =>
    obtain ⟨fuel, rfl⟩ := Nat.exists_eq_add_of_le' (show 1 ≤ fuel by omega)
    rw [Value.itemNodes, List.append_nil, indentlessSequence]
    simp [Value.itemTokens, isAt_of_ne ended]
  | cons item items ih =>
    obtain ⟨here, later⟩ := List.forall_mem_cons.1 parsed
    simp only [Value.itemTokens, List.length_cons, List.length_append] at enough
    obtain ⟨fuel, rfl⟩ := Nat.exists_eq_add_of_le' (show 1 ≤ fuel by omega)
    have read := @nodeUnless_value state (Value.itemTokens items ++ rest)
      (.blockEntry :: blockStops) fuel item false here false (fun _ stop => stop)
      (fun behindKey => absurd behindKey Bool.false_ne_true) (by simp only [Bool.toNat_false]; omega)
    rw [Value.itemTokens, List.cons_append, List.append_assoc, indentlessSequence, isAt_cons,
      if_pos rfl]
    change (nodeUnless (.blockEntry :: blockStops) true false fuel { state with
      tokens := item.tokens false ++ (Value.itemTokens items ++ rest) }).bind _ = _
    rw [read]
    refine (ih later (item.node :: before) (by omega)).trans ?_
    simp [Value.itemNodes]

/-- A scalar in the place of a key. -/
theorem nodeUnless_key (style : Style) (text : String) :
    nodeUnless blockStops block indentless (fuel + 2)
        { state with tokens := .scalar style text :: rest } =
      some (.scalar style none text, { state with tokens := rest }) := by
  have going : State.stopsAt { state with tokens := .scalar style text :: rest } blockStops =
      false := by
    simp [State.stopsAt, blockStops]
  rw [nodeUnless, going, if_neg Bool.false_ne_true, node_scalar]

/-- One field of a map. -/
theorem blockMapping_field (parsed : IsParsed value) (key : String) (before : List (Node × Node))
    (next : rest.head? ≠ some .blockEntry)
    (enough : 2 * (value.tokens (isSimpleKey key.toList)).length < fuel) :
    blockMapping (fuel + 3) before { state with
        tokens := .key :: .scalar (styleOf key.toList) key :: .value ::
          (value.tokens (isSimpleKey key.toList) ++ rest) } =
      blockMapping (fuel + 2) ((.scalar (styleOf key.toList) none key, value.node) :: before)
        { state with tokens := rest } := by
  have bit : (isSimpleKey key.toList).toNat ≤ 1 := Bool.toNat_le _
  have read := @nodeUnless_value state rest blockStops (fuel + 2) value true parsed
    (isSimpleKey key.toList) (fun _ stop => List.mem_cons_of_mem _ stop)
    (fun _ => ⟨rfl, next, by decide⟩) (by omega)
  rw [blockMapping, isAt_cons, if_pos rfl]
  change (nodeUnless blockStops true true (fuel + 2) { state with
      tokens := .scalar (styleOf key.toList) key :: .value ::
        (value.tokens (isSimpleKey key.toList) ++ rest) }).bind _ = _
  rw [nodeUnless_key, Option.bind_some]
  simp only [isAt_cons, if_true]
  change (nodeUnless blockStops true true (fuel + 2) { state with
      tokens := value.tokens (isSimpleKey key.toList) ++ rest }).bind _ = _
  rw [read]
  rfl

/-- The fields of a map, up to the end of its block. -/
theorem blockMapping_fields {fields : List (String × Value)}
    (parsed : ∀ field ∈ fields, IsParsed field.2) (before : List (Node × Node))
    (enough : 2 * (Value.fieldTokens fields).length < fuel) :
    blockMapping fuel before
        { state with tokens := Value.fieldTokens fields ++ .blockEnd :: rest } =
      some (.mapping (before.reverse ++ Value.fieldNodes fields),
        { state with tokens := rest }) := by
  induction fields generalizing fuel before with
  | nil =>
    obtain ⟨fuel, rfl⟩ := Nat.exists_eq_add_of_le' (show 1 ≤ fuel by omega)
    rw [Value.fieldNodes, List.append_nil]
    rfl
  | cons field fields ih =>
    obtain ⟨key, value⟩ := field
    obtain ⟨here, later⟩ := List.forall_mem_cons.1 parsed
    simp only [Value.fieldTokens, List.length_cons, List.length_append] at enough
    obtain ⟨fuel, rfl⟩ := Nat.exists_eq_add_of_le' (show 3 ≤ fuel by omega)
    have next : (Value.fieldTokens fields ++ .blockEnd :: rest).head? ≠ some .blockEntry := by
      cases fields <;> simp [Value.fieldTokens]
    simp only [Value.fieldTokens, List.cons_append, List.append_assoc]
    rw [blockMapping_field here key before next (by simp only; omega), ih later _ (by omega)]
    simp [Value.fieldNodes]

/-- A value whose tokens are those of one scalar. -/
theorem isParsed_scalar {style : Style} {text : String}
    (tokens : ∀ behindKey, value.tokens behindKey = [.scalar style text])
    (read : value.node = .scalar style none text) : IsParsed value := by
  intro state rest fuel behindKey indentless _ enough
  obtain ⟨fuel, rfl⟩ := Nat.exists_eq_add_of_le' (show 1 ≤ fuel by omega)
  rw [tokens, read]
  exact node_scalar style text

/-- Every value is read as its node. -/
theorem isParsed (value : Value) : IsParsed value := by
  induction value using Value.induction with
  | null => exact isParsed_scalar (fun _ => rfl) rfl
  | bool value => exact isParsed_scalar (fun _ => rfl) rfl
  | number value => exact isParsed_scalar (fun _ => rfl) rfl
  | text value => exact isParsed_scalar (fun _ => rfl) rfl
  | list items ih =>
    intro state rest fuel behindKey indentless deep enough
    obtain ⟨fuel, rfl⟩ := Nat.exists_eq_add_of_le' (show 1 ≤ fuel by omega)
    cases items with
    | nil =>
      have more : 1 ≤ fuel := by
        simp [Value.tokens] at enough
        omega
      obtain ⟨fuel, rfl⟩ := Nat.exists_eq_add_of_le' more
      exact node_brackets_list
    | cons item items =>
      cases behindKey with
      | true =>
        obtain ⟨rfl, ended⟩ := deep rfl
        refine node_blockEntry.trans ?_
        have items := @indentlessSequence_items state rest fuel (item :: items) ih ended []
          (by simp [Value.tokens] at enough; omega)
        exact items
      | false =>
        have items := @blockSequence_items state rest fuel (item :: items) ih []
          (by simp [Value.tokens] at enough; omega)
        simp only [Value.tokens, Bool.false_eq_true, if_false, List.cons_append, List.append_assoc,
          List.nil_append]
        rw [node_blockSequence, items]
        rfl
  | map fields ih =>
    intro state rest fuel behindKey indentless _ enough
    obtain ⟨fuel, rfl⟩ := Nat.exists_eq_add_of_le' (show 1 ≤ fuel by omega)
    cases fields with
    | nil =>
      have more : 1 ≤ fuel := by
        simp [Value.tokens] at enough
        omega
      obtain ⟨fuel, rfl⟩ := Nat.exists_eq_add_of_le' more
      exact node_brackets_map
    | cons field fields =>
      have fields := @blockMapping_fields state rest fuel (field :: fields) ih []
        (by simp [Value.tokens] at enough; omega)
      simp only [Value.tokens, List.cons_append, List.append_assoc, List.nil_append]
      rw [node_blockMapping, fields]
      rfl

end Tree

/-- A printed value is read as the document of its node. -/
theorem Document.ofText?_print (value : Value) :
    Document.ofText? (print value) = some { root := value.node, anchored := [] } := by
  obtain ⟨first, others, split, -, outside, -⟩ := value.exists_tokens false
  have front : Tree.isInFront first = false := by rw [Tree.isInFront, outside, Bool.false_and]
  have root := @Tree.isParsed value { tokens := [], stems := [] ++ Tree.standardStems } []
    (2 * (value.tokens false).length + 2) false false (fun none => nomatch none)
    (by simp only [Bool.toNat_false]; omega)
  rw [List.append_nil] at root
  have read : Tree.first? (value.tokens false) =
      some ({ root := value.node, anchored := [] }, []) := by
    have content :
        Tree.first? (value.tokens false) = Tree.content? false [] (value.tokens false) := by
      rw [split, Tree.first?, front]
      rfl
    rw [content, Tree.content?, Bool.false_and, if_neg Bool.false_ne_true, root]
    rfl
  rw [Document.ofText?, tokens?_print, Option.bind_eq_bind, Option.bind_some, read]
  rfl

end SaveManifest.Yaml
