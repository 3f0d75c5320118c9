import SaveManifest.Proofs.Template.Comments
import SaveManifest.Proofs.Template.Insides
import SaveManifest.Proofs.Template.Paired
import SaveManifest.Proofs.Text.Blank
import SaveManifest.Template.Document
import SaveManifest.Template.Parser

/-!
# Reading what was rendered

The wikitext of a valid document is paired text (`paired_render`), so every scan of the reader
steps over the values of a template as the document nests them: the braces that close a template
are its own, its inside is cut at its own bars, and each parameter at its own equals sign. Reading
then gives the nodes of the document, in its order (`parse_render`).
-/

namespace SaveManifest.Template

open SaveManifest.Text

theorem stripComments_of_not_mem {text : List Char} (absent : '<' ∉ text) :
    stripComments text = text :=
  stripComments_of_clear (clear_of_not_mem absent)

namespace Document

def isUnmarked (c : Char) : Bool := c != '|' && c != '='

theorem isPlain_iff {c : Char} :
    isPlain c = true ↔ isLoose c = true ∧ isUnmarked c = true ∧ c ≠ '<' := by
  rw [isLoose_iff]
  simp [isPlain, marks, isUnmarked, and_assoc]

theorem paired_of_isPlain {text : List Char} (plain : text.all isPlain = true) :
    Paired isUnmarked text := by
  refine .of_all fun c member => ?_
  have shape := isPlain_iff.1 (List.all_eq_true.1 plain c member)
  exact ⟨shape.1, shape.2.1⟩

theorem isLoose_of_isLinkText {c : Char} (linkText : isLinkText c = true) : isLoose c = true := by
  rw [isLinkText, Bool.or_eq_true, beq_iff_eq] at linkText
  rcases linkText with plain | rfl
  · exact (isPlain_iff.1 plain).1
  · decide

theorem paired_of_isLinkText {text : List Char} (linkText : text.all isLinkText = true) :
    Paired (fun _ => true) text :=
  .of_all fun c member => ⟨isLoose_of_isLinkText (List.all_eq_true.1 linkText c member), rfl⟩

theorem not_mem_of_all {condition : Char → Bool} {text : List Char} {mark : Char}
    (all : text.all condition = true) (fails : condition mark = false) : mark ∉ text := by
  intro member
  rw [List.all_eq_true.1 all mark member] at fails
  cases fails

theorem isPlain_of_isName {name : List Char} (valid : isName name = true) :
    name.all isPlain = true := by
  rw [isName] at valid
  simp only [Bool.and_eq_true] at valid
  exact valid.1.1.1

theorem isPlain_of_isKey {key : List Char} (valid : isKey key = true) : key.all isPlain = true := by
  rw [isKey, Bool.and_eq_true] at valid
  exact valid.1

/-- Text without bars and equals signs outside of its pairs is text without bars. -/
theorem paired_noBar {text : List Char} (paired : Paired isUnmarked text) :
    Paired (fun c => c != '|') text := by
  refine paired.mono _ fun c unmarked => ?_
  rw [isUnmarked, Bool.and_eq_true] at unmarked
  exact unmarked.1

theorem paired_any {outside : Char → Bool} {text : List Char} (paired : Paired outside text) :
    Paired (fun _ => true) text :=
  paired.mono _ fun _ _ => rfl

theorem paired_bar {text : List Char} (tail : Paired (fun _ => true) text) :
    Paired (fun _ => true) ('|' :: text) :=
  .char (by decide) rfl tail

theorem paired_keyText {key : Option (List Char)} (valid : key.all isKey = true) :
    Paired (fun c => c != '|') (keyText key) := by
  cases key with
  | none => exact .nil
  | some key =>
    rw [Option.all_some] at valid
    have plain := paired_noBar (paired_of_isPlain (isPlain_of_isKey valid))
    exact plain.append (.char (by decide) (by decide) .nil)

theorem not_mem_keyText {key : Option (List Char)} {mark : Char} (valid : key.all isKey = true)
    (fails : isLinkText mark = false) : mark ∉ keyText key := by
  rw [isLinkText, Bool.or_eq_false_iff, beq_eq_false_iff_ne] at fails
  cases key with
  | none => exact List.not_mem_nil
  | some key =>
    rw [Option.all_some] at valid
    have first := not_mem_of_all (isPlain_of_isKey valid) fails.1
    simp [keyText, first, fails.2]

mutual

/-- The wikitext of a valid piece is paired and shows no bar and no equals sign. -/
theorem paired_renderItem : (item : Item) → isValid item = true →
    Paired isUnmarked (renderItem item)
  | .text content, valid => by
    rw [isValid] at valid
    exact paired_of_isPlain valid
  | .link target none, valid => by
    rw [isValid, Bool.and_eq_true] at valid
    exact .brackets (paired_of_isLinkText valid.1) .nil
  | .link target (some label), valid => by
    rw [isValid, Bool.and_eq_true, Option.all_some] at valid
    have inner := (paired_of_isLinkText valid.1).append (paired_bar (paired_of_isLinkText valid.2))
    have whole := Paired.brackets inner (.nil : Paired isUnmarked [])
    simpa only [renderItem, List.cons_append, List.append_assoc] using whole
  | .template name parameters, valid => by
    rw [isValid, Bool.and_eq_true] at valid
    have front := paired_any (paired_of_isPlain (isPlain_of_isName valid.1))
    have inner := front.append (paired_renderParameters parameters valid.2)
    have whole := Paired.braces inner (.nil : Paired isUnmarked [])
    simpa only [renderItem, List.cons_append, List.append_assoc] using whole

theorem paired_render : (items : List Item) → areValid items = true →
    Paired isUnmarked (render items)
  | [], _ => .nil
  | item :: items, valid => by
    rw [areValid, Bool.and_eq_true] at valid
    exact (paired_renderItem item valid.1).append (paired_render items valid.2)

theorem paired_renderParameters : (parameters : List (Parameter Item)) →
    areValidParameters parameters = true → Paired (fun _ => true) (renderParameters parameters)
  | [], _ => .nil
  | ⟨key, value⟩ :: parameters, valid => by
    rw [areValidParameters, Bool.and_eq_true, Bool.and_eq_true] at valid
    have front := paired_any (paired_keyText valid.1.1)
    have middle := paired_any (paired_render value valid.1.2)
    have whole := paired_bar ((front.append middle).append
      (paired_renderParameters parameters valid.2))
    simpa only [renderParameters, List.cons_append, List.append_assoc] using whole

end

mutual

/-- The wikitext of a valid piece begins no comment. -/
theorem not_mem_renderItem : (item : Item) → isValid item = true → '<' ∉ renderItem item
  | .text content, valid => by
    rw [isValid] at valid
    exact not_mem_of_all valid (by decide)
  | .link target none, valid => by
    rw [isValid, Bool.and_eq_true] at valid
    have first := not_mem_of_all valid.1 (by decide : isLinkText '<' = false)
    simp [renderItem, first]
  | .link target (some label), valid => by
    rw [isValid, Bool.and_eq_true, Option.all_some] at valid
    have first := not_mem_of_all valid.1 (by decide : isLinkText '<' = false)
    have second := not_mem_of_all valid.2 (by decide : isLinkText '<' = false)
    simp [renderItem, first, second]
  | .template name parameters, valid => by
    rw [isValid, Bool.and_eq_true] at valid
    have first := not_mem_of_all (isPlain_of_isName valid.1) (by decide : isPlain '<' = false)
    have second := not_mem_renderParameters parameters valid.2
    simp [renderItem, first, second]

theorem not_mem_render : (items : List Item) → areValid items = true → '<' ∉ render items
  | [], _ => by simp [render]
  | item :: items, valid => by
    rw [areValid, Bool.and_eq_true] at valid
    have first := not_mem_renderItem item valid.1
    have second := not_mem_render items valid.2
    simp [render, first, second]

theorem not_mem_renderParameters : (parameters : List (Parameter Item)) →
    areValidParameters parameters = true → '<' ∉ renderParameters parameters
  | [], _ => by simp [renderParameters]
  | ⟨key, value⟩ :: parameters, valid => by
    rw [areValidParameters, Bool.and_eq_true, Bool.and_eq_true] at valid
    have first := not_mem_keyText valid.1.1 (by decide : isLinkText '<' = false)
    have second := not_mem_render value valid.1.2
    have third := not_mem_renderParameters parameters valid.2
    simp [renderParameters, first, second, third]

end

def parameterText (parameter : Parameter Item) : List Char :=
  keyText parameter.key ++ render parameter.value

theorem renderParameters_eq (parameters : List (Parameter Item)) :
    renderParameters parameters = (parameters.map parameterText).flatMap ('|' :: ·) := by
  induction parameters with
  | nil => rfl
  | cons parameter parameters ih =>
    rw [renderParameters, ih, List.map_cons, List.flatMap_cons, parameterText]
    rfl

theorem paired_parameterText {parameters : List (Parameter Item)}
    (valid : areValidParameters parameters = true) :
    ∀ text ∈ parameters.map parameterText, Paired (fun c => c != '|') text := by
  induction parameters with
  | nil => exact fun text member => by cases member
  | cons parameter parameters ih =>
    obtain ⟨key, value⟩ := parameter
    rw [areValidParameters, Bool.and_eq_true, Bool.and_eq_true] at valid
    refine List.forall_mem_cons.2 ⟨?_, ih valid.2⟩
    exact (paired_keyText valid.1.1).append (paired_noBar (paired_render value valid.1.2))

/-- The inside of a template is cut at its own bars. -/
theorem splitBars_renderParameters (parameters : List (Parameter Item))
    (valid : areValidParameters parameters = true) {text : List Char}
    (paired : Paired (fun c => c != '|') text) :
    splitBars 0 0 (text ++ renderParameters parameters) =
      text :: parameters.map parameterText := by
  rw [renderParameters_eq, paired.splitBars_bars (paired_parameterText valid)]

/-- A valid key is not taken for a position. -/
theorem positionOf?_normalizeKey {key : List Char} (valid : isKey key = true) (filled : Nat) :
    positionOf? filled (normalizeKey key) = none := by
  rw [isKey, Bool.and_eq_true, Bool.or_eq_true, List.isEmpty_iff] at valid
  rw [positionOf?]
  rcases valid.2 with nothing | other
  · rw [nothing]
    rfl
  · rw [if_neg]
    intro all
    obtain ⟨c, member, notDigit⟩ := List.any_eq_true.1 other
    rw [List.all_eq_true.1 all c member] at notDigit
    cases notDigit

/-- A parameter is read as its value, by position or under its key. -/
theorem addParameter_parameterText (node : Node) {key : Option (List Char)} {value : List Item}
    (validKey : key.all isKey = true) (valid : areValid value = true) :
    addParameter node (parameterText ⟨key, value⟩) =
      match key with
      | none => { node with positional := node.positional ++ [valueText value] }
      | some key =>
        { node with named :=
            node.named.insert (String.ofList (normalizeKey key)) (valueText value) } := by
  have paired := paired_render value valid
  cases key with
  | none =>
    have whole : splitEquals 0 (parameterText ⟨none, value⟩) = none :=
      paired.splitEquals_eq_none (by decide)
    rw [addParameter, whole]
    rfl
  | some key =>
    rw [Option.all_some] at validKey
    have keyPaired := paired_of_isPlain (isPlain_of_isKey validKey)
    have cut : splitEquals 0 (parameterText ⟨some key, value⟩) = some (key, render value) := by
      rw [parameterText, keyText, List.append_assoc,
        keyPaired.splitEquals_append 0 (fun shown => by cases shown),
        List.singleton_append, splitEquals_loose (by decide), if_pos ⟨rfl, rfl⟩, before_some,
        List.append_nil]
    rw [addParameter, cut]
    simp only [positionOf?_normalizeKey validKey]
    rfl

def positionalValues (parameters : List (Parameter Item)) : List String :=
  (parameters.filter (·.key.isNone)).map fun parameter => valueText parameter.value

def namedValues (parameters : List (Parameter Item)) : List (String × String) :=
  parameters.filterMap fun parameter =>
    parameter.key.map fun key => (String.ofList (normalizeKey key), valueText parameter.value)

/-- Reading the parameters one after the other fills the positions and the keys. -/
theorem foldl_addParameter (parameters : List (Parameter Item))
    (valid : areValidParameters parameters = true) (node : Node) :
    (parameters.map parameterText).foldl addParameter node =
      { node with
        positional := node.positional ++ positionalValues parameters
        named := (namedValues parameters).foldl
          (fun catalog pair => catalog.insert pair.1 pair.2) node.named } := by
  induction parameters generalizing node with
  | nil => simp [positionalValues, namedValues]
  | cons parameter parameters ih =>
    obtain ⟨key, value⟩ := parameter
    rw [areValidParameters, Bool.and_eq_true, Bool.and_eq_true] at valid
    rw [List.map_cons, List.foldl_cons, addParameter_parameterText node valid.1.1 valid.1.2,
      ih valid.2]
    cases key with
    | none => simp [positionalValues, namedValues]
    | some key => simp [positionalValues, namedValues]

theorem isTemplateName_trim {name : List Char} (valid : isName name = true) :
    isTemplateName (trim name) = true := by
  rw [isName] at valid
  simp only [Bool.and_eq_true] at valid
  obtain ⟨⟨⟨plain, notBlank⟩, notHash⟩, noColon⟩ := valid
  have notBrace : ((trim name).head? != some '{') = true := by
    rw [bne_iff_ne]
    intro first
    have member := mem_of_mem_trim (List.mem_of_head? first)
    have shape := isPlain_iff.1 (List.all_eq_true.1 plain _ member)
    exact absurd shape.1 (by decide)
  have noColonLeft : (!(trim name).contains ':') = true := by
    rw [Bool.not_eq_true'] at noColon ⊢
    rw [Bool.eq_false_iff] at noColon ⊢
    intro inside
    exact noColon (List.contains_iff_mem.2 (mem_of_mem_trim (List.contains_iff_mem.1 inside)))
  rw [isTemplateName, notBlank, notHash, notBrace, noColonLeft]
  rfl

/-- The inside of a template is read as its node. -/
theorem nodeOf?_template {name : List Char} {parameters : List (Parameter Item)}
    (validName : isName name = true) (valid : areValidParameters parameters = true) :
    nodeOf? (name ++ renderParameters parameters) = some (nodeOf name parameters) := by
  have paired := paired_noBar (paired_of_isPlain (isPlain_of_isName validName))
  rw [nodeOf?, splitBars_renderParameters parameters valid paired]
  simp only [isTemplateName_trim validName, if_true, foldl_addParameter parameters valid,
    normalizeName_trim, List.nil_append]
  rfl

theorem nestedText_template {name : List Char} {parameters : List (Parameter Item)}
    (validName : isName name = true) (valid : areValidParameters parameters = true) :
    nestedText (name ++ renderParameters parameters) =
      joinBars (parameters.map parameterText) := by
  have paired := paired_noBar (paired_of_isPlain (isPlain_of_isName validName))
  rw [nestedText, splitBars_renderParameters parameters valid paired, List.tail_cons]

mutual

/-- A piece is read as its nodes, whatever follows it. -/
theorem collect_renderItem : (item : Item) → isValid item = true → (rest : List Char) →
    collect (renderItem item ++ rest) = itemNodes item ++ collect rest
  | .text content, valid, rest => by
    rw [isValid] at valid
    rw [renderItem, itemNodes, collect_append (not_mem_of_all valid (by decide)), List.nil_append]
  | .link target none, valid, rest => by
    rw [isValid, Bool.and_eq_true] at valid
    have first := not_mem_of_all valid.1 (by decide : isLinkText '{' = false)
    rw [itemNodes, List.nil_append, collect_append]
    simp [renderItem, first]
  | .link target (some label), valid, rest => by
    rw [isValid, Bool.and_eq_true, Option.all_some] at valid
    have first := not_mem_of_all valid.1 (by decide : isLinkText '{' = false)
    have second := not_mem_of_all valid.2 (by decide : isLinkText '{' = false)
    rw [itemNodes, List.nil_append, collect_append]
    simp [renderItem, first, second]
  | .template name parameters, valid, rest => by
    rw [isValid, Bool.and_eq_true] at valid
    have front := paired_any (paired_of_isPlain (isPlain_of_isName valid.1))
    have inner := front.append (paired_renderParameters parameters valid.2)
    have closed : splitClosing 0 (name ++ renderParameters parameters ++ '}' :: '}' :: rest) =
        some (name ++ renderParameters parameters, rest) := by
      rw [inner.splitClosing_append, splitClosing_end, before_some, List.append_nil]
    have shape : renderItem (.template name parameters) ++ rest =
        '{' :: '{' :: (name ++ renderParameters parameters ++ '}' :: '}' :: rest) := by
      simp [renderItem]
    rw [shape, collect_braces closed, nodeOf?_template valid.1 valid.2,
      nestedText_template valid.1 valid.2, collect_parameters parameters valid.2, itemNodes]
    rfl

theorem collect_render : (items : List Item) → areValid items = true → (rest : List Char) →
    collect (render items ++ rest) = nodes items ++ collect rest
  | [], _, rest => rfl
  | item :: items, valid, rest => by
    rw [areValid, Bool.and_eq_true] at valid
    rw [render, nodes, List.append_assoc, collect_renderItem item valid.1,
      collect_render items valid.2, List.append_assoc]

/-- The text behind the first bar of a template is read as the nodes of its values. -/
theorem collect_parameters : (parameters : List (Parameter Item)) →
    areValidParameters parameters = true →
    collect (joinBars (parameters.map parameterText)) = parameterNodes parameters
  | [], _ => by rw [List.map_nil, joinBars, collect, parameterNodes]
  | ⟨key, value⟩ :: parameters, valid => by
    rw [areValidParameters, Bool.and_eq_true, Bool.and_eq_true] at valid
    have later := collect_parameters parameters valid.2
    have front (rest : List Char) : collect (parameterText ⟨key, value⟩ ++ rest) =
        nodes value ++ collect rest := by
      rw [parameterText, List.append_assoc, collect_append (not_mem_keyText valid.1.1 (by decide)),
        collect_render value valid.1.2]
    rw [parameterNodes, ← later, List.map_cons]
    cases parameters.map parameterText with
    | nil =>
      have alone := front []
      rw [List.append_nil] at alone
      exact alone
    | cons second others =>
      rw [joinBars, front, collect_cons (by decide)]
      intro impossible
      cases impossible

end

/-- Reading the wikitext of a valid document gives its nodes: one for each template, each before
the ones nested in its values, from left to right. -/
theorem parse_render (items : List Item) (valid : areValid items = true) :
    parse (String.ofList (render items)) = nodes items := by
  have read := collect_render items valid []
  have nothing : collect [] = [] := by rw [collect]
  rw [List.append_nil, nothing, List.append_nil] at read
  rw [parse, String.toList_ofList, stripComments_of_not_mem (not_mem_render items valid), read]

/-- A page with values nested twice, two keys of one normal form, a link whose text looks like a
parameter, and braces of three templates side by side. -/
def nestedPage : List Item := [
  .template " game data/saves ".toList [
    { value := [
        .template "P".toList [{ value := [.text "game".toList] }],
        .template "p".toList [{ value := [.template "p".toList [{ value := [] }]] }]] },
    { key := some "note_s".toList,
      value := [.text " ".toList, .link "A=b".toList (some "c=d".toList)] },
    { key := some "note s".toList, value := [.template "x".toList []] }],
  .template "End".toList []]

theorem parse_render_nestedPage :
    areValid nestedPage = true ∧
      parse
        "{{ game data/saves |{{P|game}}{{p|{{p|}}}}|note_s= [[A=b|c=d]]|note s={{x}}}}{{End}}" = [
          { name := "Game data/saves"
            positional := ["{{P|game}}{{p|{{p|}}}}"]
            named := Catalog.ofList [("note s", "{{x}}")] },
          { name := "P", positional := ["game"] },
          { name := "P", positional := ["{{p|}}"] },
          { name := "P", positional := [""] },
          { name := "X" },
          { name := "End" }] := by
  have valid : areValid nestedPage = true := by decide +kernel
  have text :
      "{{ game data/saves |{{P|game}}{{p|{{p|}}}}|note_s= [[A=b|c=d]]|note s={{x}}}}{{End}}" =
        String.ofList (render nestedPage) := by decide +kernel
  refine ⟨valid, ?_⟩
  rw [text, parse_render nestedPage valid]
  decide +kernel

end Document

end SaveManifest.Template
