import SaveManifest.Proofs.Template.RoundTrip
import SaveManifest.Proofs.Text.Number

/-!
# Parameters by number

A parameter whose key is a number goes to the position of that number. The positions before it that
hold nothing yet become empty, so a list of positions is known from its length and from what is read
where an absent position counts as empty (`ext_getD`). Puts at different positions then commute
(`setPosition_comm`), and a put right behind the last position appends. Hence numbered parameters may
be written in any order, and read as the same values written without numbers (`parse_numbered`).
-/

namespace SaveManifest.Template

open SaveManifest.Text SaveManifest.Path

theorem length_setPosition (values : List String) (index : Nat) (value : String) :
    (setPosition values index value).length = max values.length (index + 1) := by
  rw [setPosition, List.length_set, List.length_append, List.length_replicate]
  omega

theorem getD_append_replicate (values : List String) (count probe : Nat) :
    (values ++ List.replicate count "").getD probe "" = values.getD probe "" := by
  rw [List.getD_eq_getElem?_getD, List.getD_eq_getElem?_getD, List.getElem?_append]
  split
  · rfl
  · next beyond =>
    rw [List.getElem?_eq_none (Nat.not_lt.1 beyond), List.getElem?_replicate]
    split <;> rfl

/-- A put changes one position, if absent positions count as empty. -/
theorem getD_setPosition (values : List String) (index probe : Nat) (value : String) :
    (setPosition values index value).getD probe "" =
      if probe = index then value else values.getD probe "" := by
  have inside : index < (values ++ List.replicate (index + 1 - values.length) "").length := by
    rw [List.length_append, List.length_replicate]
    omega
  rw [setPosition, List.getD_eq_getElem?_getD, List.getElem?_set]
  by_cases same : index = probe
  · rw [if_pos same, if_pos inside, if_pos same.symm]
    rfl
  · rw [if_neg same, if_neg (Ne.symm same), ← List.getD_eq_getElem?_getD, getD_append_replicate]

/-- Lists of one length that read alike everywhere are equal. -/
theorem ext_getD {left right : List String} (length : left.length = right.length)
    (same : ∀ index, left.getD index "" = right.getD index "") : left = right := by
  refine List.ext_getElem length fun index inLeft inRight => ?_
  have equal := same index
  rwa [List.getD_eq_getElem?_getD, List.getD_eq_getElem?_getD, List.getElem?_eq_getElem inLeft,
    List.getElem?_eq_getElem inRight] at equal

theorem setPosition_comm {index other : Nat} (different : index ≠ other) (values : List String)
    (value text : String) :
    setPosition (setPosition values index value) other text =
      setPosition (setPosition values other text) index value := by
  refine ext_getD ?_ fun probe => ?_
  · simp only [length_setPosition]
    omega
  · simp only [getD_setPosition]
    by_cases first : probe = index
    · subst first
      simp [different]
    · simp [first]

theorem setPosition_length (values : List String) (value : String) :
    setPosition values values.length value = values ++ [value] := by
  simp [setPosition]

def numberedText (entry : List Char × Nat) : List Char :=
  (toString entry.2).toList ++ '=' :: entry.1

def templateText (name : List Char) (parameters : List (List Char)) : List Char :=
  '{' :: '{' :: (name ++ parameters.flatMap ('|' :: ·) ++ ['}', '}'])

/-- A digit marks nothing, and it is neither white space nor an underscore. -/
theorem isPlain_of_isDigit {c : Char} (digit : isDigit c = true) :
    Document.isPlain c = true ∧ isBlank c = false ∧ c ≠ '_' := by
  have all : ['0', '1', '2', '3', '4', '5', '6', '7', '8', '9'].all
      (fun d => Document.isPlain d && !isBlank d && d != '_') = true := by decide
  have shape := List.all_eq_true.1 all c (mem_of_isDigit digit)
  simp only [Bool.and_eq_true, Bool.not_eq_true', bne_iff_ne] at shape
  exact ⟨shape.1.1, shape.1.2, shape.2⟩

theorem all_isPlain_toString (number : Nat) :
    (toString number).toList.all Document.isPlain = true :=
  List.all_eq_true.2 fun _ member => (isPlain_of_isDigit (isDigit_of_mem_toString member)).1

/-- A number in digits is its own normal form as a key. -/
theorem normalizeKey_toString (number : Nat) :
    normalizeKey (toString number).toList = (toString number).toList :=
  normalizeKey_of_visible fun _ member => (isPlain_of_isDigit (isDigit_of_mem_toString member)).2

theorem positionOf?_toString {filled number : Nat} (positive : 0 < number)
    (near : number ≤ filled + maxGap) :
    positionOf? filled (normalizeKey (toString number).toList) = some number := by
  have digits : (toString number).toList.all isDigit = true :=
    List.all_eq_true.2 fun _ member => isDigit_of_mem_toString member
  rw [normalizeKey_toString, positionOf?, if_pos digits, readDigits?_toString,
    Option.filter_some, if_pos]
  simp [positive, near]

/-- A numbered parameter puts its value at its position. -/
theorem addParameter_numberedText {node : Node} {value : List Char} {number : Nat}
    (positive : 0 < number) (near : number ≤ node.positional.length + maxGap) :
    addParameter node (numberedText (value, number)) =
      { node with positional :=
          setPosition node.positional (number - 1) (String.ofList (trim value)) } := by
  have cut : splitEquals 0 (numberedText (value, number)) =
      some ((toString number).toList, value) := by
    rw [numberedText, (Document.paired_of_isPlain (all_isPlain_toString number)).splitEquals_append 0
        (fun shown => by cases shown),
      splitEquals_loose (by decide), if_pos ⟨rfl, rfl⟩, before_some, List.append_nil]
  rw [addParameter, cut]
  simp only [positionOf?_toString positive near]

/-- Parameters with numbers that are near whatever is filled put their values one by one. -/
theorem foldl_addParameter_numberedText {order : List (List Char × Nat)}
    (near : ∀ entry ∈ order, 0 < entry.2 ∧ entry.2 ≤ maxGap) (node : Node) :
    (order.map numberedText).foldl addParameter node =
      { node with positional := order.foldl (fun values entry =>
          setPosition values (entry.2 - 1) (String.ofList (trim entry.1))) node.positional } := by
  induction order generalizing node with
  | nil => rfl
  | cons entry order ih =>
    obtain ⟨here, later⟩ := List.forall_mem_cons.1 near
    rw [List.map_cons, List.foldl_cons, addParameter_numberedText here.1 (by omega), ih later]
    rfl

/-- Parameters without keys are appended one by one. -/
theorem foldl_addParameter_plain {values : List (List Char)}
    (paired : ∀ value ∈ values, Paired Document.isUnmarked value) (node : Node) :
    values.foldl addParameter node =
      { node with positional :=
          node.positional ++ values.map fun value => String.ofList (trim value) } := by
  induction values generalizing node with
  | nil => simp
  | cons value values ih =>
    obtain ⟨here, later⟩ := List.forall_mem_cons.1 paired
    rw [List.foldl_cons, addParameter, here.splitEquals_eq_none rfl, ih later]
    simp

/-- Puts in the order of the positions append. -/
theorem foldl_setPosition_zipIdx (values : List (List Char)) (front : List String) :
    (values.zipIdx (front.length + 1)).foldl (fun values entry =>
        setPosition values (entry.2 - 1) (String.ofList (trim entry.1))) front =
      front ++ values.map fun value => String.ofList (trim value) := by
  induction values generalizing front with
  | nil => simp
  | cons value values ih =>
    have next := ih (front ++ [String.ofList (trim value)])
    rw [List.length_append, List.length_singleton] at next
    rw [List.zipIdx_cons, List.foldl_cons, Nat.add_sub_cancel, setPosition_length, next]
    simp

/-- Puts at the positions of a list may come in any order. -/
theorem foldl_setPosition_perm {values : List (List Char)} {order : List (List Char × Nat)}
    (permuted : order.Perm (values.zipIdx 1)) :
    order.foldl (fun values entry =>
        setPosition values (entry.2 - 1) (String.ofList (trim entry.1))) [] =
      values.map fun value => String.ofList (trim value) := by
  have inOrder := foldl_setPosition_zipIdx values []
  rw [List.nil_append] at inOrder
  rw [← inOrder]
  refine permuted.foldl_eq' ?_ []
  intro first firstListed second secondListed current
  have firstAt := List.mem_zipIdx_iff_le_and_getElem?_sub.1 (permuted.subset firstListed)
  have secondAt := List.mem_zipIdx_iff_le_and_getElem?_sub.1 (permuted.subset secondListed)
  by_cases same : first.2 = second.2
  · have equal : first.1 = second.1 := by
      rw [same] at firstAt
      exact Option.some.inj (firstAt.2.symm.trans secondAt.2)
    rw [same, equal]
  · exact setPosition_comm (by omega) current _ _

theorem clear_bars {front : List Char} {texts : List (List Char)}
    (first : ¬ commentOpening <:+: front) (clear : ∀ text ∈ texts, ¬ commentOpening <:+: text) :
    ¬ commentOpening <:+: front ++ texts.flatMap ('|' :: ·) := by
  induction texts generalizing front with
  | nil => simpa using first
  | cons text texts ih =>
    obtain ⟨here, later⟩ := List.forall_mem_cons.1 clear
    rw [List.flatMap_cons, List.cons_append]
    exact clear_append_cons (by decide) first (ih here later)

theorem paired_bars {front : List Char} {texts : List (List Char)}
    (first : Paired (fun _ => true) front)
    (others : ∀ text ∈ texts, Paired (fun c => c != '|') text) :
    Paired (fun _ => true) (front ++ texts.flatMap ('|' :: ·)) := by
  induction texts generalizing front with
  | nil => simpa using first
  | cons text texts ih =>
    obtain ⟨here, later⟩ := List.forall_mem_cons.1 others
    rw [List.flatMap_cons, List.cons_append]
    exact first.append (Document.paired_bar (ih (Document.paired_any here) later))

theorem paired_numberedText {entry : List Char × Nat}
    (paired : Paired Document.isUnmarked entry.1) :
    Paired (fun c => c != '|') (numberedText entry) :=
  (Document.paired_noBar (Document.paired_of_isPlain (all_isPlain_toString entry.2))).append
    (.char (by decide) (by decide) (Document.paired_noBar paired))

theorem clear_numberedText {entry : List Char × Nat} (clear : ¬ commentOpening <:+: entry.1) :
    ¬ commentOpening <:+: numberedText entry :=
  clear_append_cons (by decide)
    (clear_of_not_mem (Document.not_mem_of_all (all_isPlain_toString entry.2) (by decide))) clear

/-- A template of paired parameters gives one node, read from these parameters, before all others. -/
theorem head?_parse_templateText {name : List Char} {parameters : List (List Char)}
    (validName : Document.isName name = true)
    (paired : ∀ parameter ∈ parameters, Paired (fun c => c != '|') parameter)
    (clear : ∀ parameter ∈ parameters, ¬ commentOpening <:+: parameter) :
    (parse (String.ofList (templateText name parameters))).head? =
      some (parameters.foldl addParameter { name := String.ofList (normalizeName name) }) := by
  have plain := Document.isPlain_of_isName validName
  have namePaired := Document.paired_of_isPlain plain
  have nameClear := clear_of_not_mem (Document.not_mem_of_all plain (by decide))
  have inner := paired_bars (Document.paired_any namePaired) paired
  have closed : splitClosing 0 (name ++ parameters.flatMap ('|' :: ·) ++ ['}', '}']) =
      some (name ++ parameters.flatMap ('|' :: ·), []) := by
    rw [inner.splitClosing_append, splitClosing_end, before_some, List.append_nil]
  have pageClear : ¬ commentOpening <:+: templateText name parameters := by
    have opened := clear_append_cons (c := '{') (by decide) (clear_of_not_mem List.not_mem_nil)
      (clear_append_cons (c := '}') (by decide) (clear_bars nameClear clear)
        (clear_of_not_mem (by decide : '<' ∉ ['}'])))
    exact clear_append_cons (c := '{') (by decide) (clear_of_not_mem List.not_mem_nil) opened
  have read : nodeOf? (name ++ parameters.flatMap ('|' :: ·)) =
      some (parameters.foldl addParameter { name := String.ofList (normalizeName name) }) := by
    rw [nodeOf?, (Document.paired_noBar namePaired).splitBars_bars paired]
    simp only [Document.isTemplateName_trim validName, if_true, normalizeName_trim]
  rw [parse, String.toList_ofList, stripComments_of_clear pageClear, templateText,
    collect_braces closed, read]
  rfl

/-- Values written behind their numbers, in any order, are read as the same values written in order
without numbers. -/
theorem parse_numbered {name : List Char} {values : List (List Char)}
    {order : List (List Char × Nat)} (validName : Document.isName name = true)
    (few : values.length ≤ 64) (paired : ∀ value ∈ values, Paired Document.isUnmarked value)
    (clear : ∀ value ∈ values, ¬ commentOpening <:+: value)
    (permuted : order.Perm (values.zipIdx 1)) :
    (parse (String.ofList (templateText name (order.map numberedText)))).head? =
        (parse (String.ofList (templateText name values))).head? ∧
      (parse (String.ofList (templateText name values))).head? = some {
        name := String.ofList (normalizeName name)
        positional := values.map fun value => String.ofList (trim value)
        named := {} } := by
  have inside : ∀ entry ∈ order, entry.1 ∈ values ∧ 0 < entry.2 ∧ entry.2 ≤ maxGap := by
    intro entry listed
    have place := List.mem_zipIdx_iff_le_and_getElem?_sub.1 (permuted.subset listed)
    obtain ⟨bound, -⟩ := List.getElem?_eq_some_iff.1 place.2
    refine ⟨List.mem_of_getElem? place.2, place.1, ?_⟩
    rw [maxGap]
    omega
  have plain := head?_parse_templateText validName
    (fun value member => Document.paired_noBar (paired value member)) clear
  have numberedPaired : ∀ text ∈ order.map numberedText, Paired (fun c => c != '|') text := by
    intro text member
    obtain ⟨entry, listed, rfl⟩ := List.mem_map.1 member
    exact paired_numberedText (paired _ (inside entry listed).1)
  have numberedClear : ∀ text ∈ order.map numberedText, ¬ commentOpening <:+: text := by
    intro text member
    obtain ⟨entry, listed, rfl⟩ := List.mem_map.1 member
    exact clear_numberedText (clear _ (inside entry listed).1)
  have numbered := head?_parse_templateText validName numberedPaired numberedClear
  rw [foldl_addParameter_plain paired, List.nil_append] at plain
  rw [foldl_addParameter_numberedText fun entry listed => (inside entry listed).2,
    foldl_setPosition_perm permuted] at numbered
  exact ⟨numbered.trans plain.symm, plain⟩

/-- A value with a nested template, a link whose text holds marks, and white space around them,
beside a plain value and an empty one. -/
def mixedValues : List (List Item) := [
  [.text "Windows".toList],
  [.text " ".toList, .template "P".toList [{ value := [.text "game".toList] }],
    .text "/a".toList, .link "b".toList (some "c=d".toList), .text " ".toList],
  []]

theorem parse_numbered_mixed :
    (Document.isName "game_data/saves".toList = true ∧
      [([], 3), ("Windows".toList, 1), (" {{P|game}}/a[[b|c=d]] ".toList, 2)].Perm
        ((mixedValues.map Document.render).zipIdx 1)) ∧
    (parse "{{game_data/saves|3=|1=Windows|2= {{P|game}}/a[[b|c=d]] }}").head? = some {
      name := "Game data/saves"
      positional := ["Windows", "{{P|game}}/a[[b|c=d]]", ""] } := by
  have validName : Document.isName "game_data/saves".toList = true := by decide +kernel
  have permuted : [([], 3), ("Windows".toList, 1), (" {{P|game}}/a[[b|c=d]] ".toList, 2)].Perm
      ((mixedValues.map Document.render).zipIdx 1) := by decide +kernel
  have paired : ∀ value ∈ mixedValues.map Document.render, Paired Document.isUnmarked value := by
    have valid : ∀ items ∈ mixedValues, Document.areValid items = true := by decide +kernel
    intro value member
    obtain ⟨items, listed, rfl⟩ := List.mem_map.1 member
    exact Document.paired_render items (valid items listed)
  have read := parse_numbered validName (by decide +kernel) paired (by decide +kernel) permuted
  have page : "{{game_data/saves|3=|1=Windows|2= {{P|game}}/a[[b|c=d]] }}" =
      String.ofList (templateText "game_data/saves".toList
        ([([], 3), ("Windows".toList, 1), (" {{P|game}}/a[[b|c=d]] ".toList, 2)].map
          numberedText)) := by decide +kernel
  refine ⟨⟨validName, permuted⟩, ?_⟩
  rw [page, read.1, read.2]
  decide +kernel

end SaveManifest.Template
