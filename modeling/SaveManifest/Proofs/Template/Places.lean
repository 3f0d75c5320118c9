import SaveManifest.Proofs.Template.Positions
import SaveManifest.Proofs.Template.Separator

/-!
# Where parameters are kept

A parameter is kept at a position or under a key, and each step of reading changes nothing else
(`addParameter_cases`, with `PutAt` and `PutUnder` for its two outcomes); positions created on the
way are empty. So the positions grow by at most `maxGap` with each parameter, and what is stored is
read back at the end unless a later parameter has the same number or key (`nodeOf_keepsValues`).
-/

namespace SaveManifest.Template

open SaveManifest.Text

/-- The number that a key denotes: a key of digits only, at least one. -/
def numeral? (key : List Char) : Option Nat :=
  if key ≠ [] ∧ key.all isDigit = true then some (Nat.ofDigitChars 10 key 0) else none

/-- The key of a parameter in its normal form, if it is written with one. -/
def keyOf? (parameter : List Char) : Option (List Char) :=
  (splitEquals 0 parameter).map fun (key, _) => normalizeKey key

def valueOf (parameter : List Char) : String :=
  String.ofList (trim (((splitEquals 0 parameter).map (·.2)).getD parameter))

def numberOf? (parameter : List Char) : Option Nat := (keyOf? parameter).bind numeral?

/-- The position, counted from one, at which a parameter is kept where `filled` positions hold
values. -/
def placeOf? (filled : Nat) (parameter : List Char) : Option Nat :=
  match keyOf? parameter with
  | none => some (filled + 1)
  | some key => positionOf? filled key

theorem positionOf?_eq_filter (filled : Nat) (key : List Char) :
    positionOf? filled key =
      (numeral? key).filter fun number => 0 < number && number ≤ filled + maxGap := by
  rw [positionOf?, numeral?]
  cases key with
  | nil => rfl
  | cons c rest =>
    by_cases digits : (c :: rest).all isDigit = true
    · have read : readDigits? 10 (c :: rest) = some (Nat.ofDigitChars 10 (c :: rest) 0) :=
        foldlM_digits (List.all_eq_true.1 digits) 0
      rw [if_pos digits, if_pos ⟨List.cons_ne_nil c rest, digits⟩, read]
    · rw [if_neg digits, if_neg fun both => digits both.2]
      rfl

theorem placeOf?_of_unnamed {parameter : List Char} (unnamed : keyOf? parameter = none)
    (filled : Nat) : placeOf? filled parameter = some (filled + 1) := by
  rw [placeOf?, unnamed]

theorem placeOf?_of_key {parameter key : List Char} (keyed : keyOf? parameter = some key)
    (filled : Nat) : placeOf? filled parameter = positionOf? filled key := by
  rw [placeOf?, keyed]

/-- A parameter without a key goes behind what is filled, and one with a number that is near enough
to its number. -/
theorem placeOf?_eq_some_iff {filled place : Nat} {parameter : List Char} :
    placeOf? filled parameter = some place ↔
      (keyOf? parameter = none ∧ place = filled + 1) ∨
        (numberOf? parameter = some place ∧ 0 < place ∧ place ≤ filled + maxGap) := by
  rw [numberOf?]
  cases keyed : keyOf? parameter with
  | none =>
    rw [placeOf?_of_unnamed keyed, Option.some.injEq, Option.bind_none]
    simp only [true_and, reduceCtorEq, false_and, or_false]
    exact eq_comm
  | some key =>
    rw [placeOf?_of_key keyed, positionOf?_eq_filter, Option.filter_eq_some_iff, Option.bind_some]
    simp only [Bool.and_eq_true, decide_eq_true_eq, reduceCtorEq, false_and, false_or]

theorem placeOf?_bounds {filled place : Nat} {parameter : List Char}
    (goes : placeOf? filled parameter = some place) : 0 < place ∧ place ≤ filled + maxGap := by
  rcases placeOf?_eq_some_iff.1 goes with ⟨-, rfl⟩ | ⟨-, bounds⟩
  · rw [maxGap]
    omega
  · exact bounds

theorem addParameter_of_place {node : Node} {parameter : List Char} {place : Nat}
    (goes : placeOf? node.positional.length parameter = some place) :
    addParameter node parameter =
      { node with positional := setPosition node.positional (place - 1) (valueOf parameter) } := by
  rw [placeOf?, keyOf?] at goes
  rw [addParameter, valueOf]
  cases cut : splitEquals 0 parameter with
  | none =>
    simp only [cut, Option.map_none, Option.some.injEq] at goes
    subst goes
    rw [Nat.add_sub_cancel, setPosition_length]
    rfl
  | some parts =>
    obtain ⟨key, value⟩ := parts
    simp only [cut, Option.map_some] at goes
    simp only [goes, Option.map_some, Option.getD_some]

theorem addParameter_of_key {node : Node} {parameter key : List Char}
    (keyed : keyOf? parameter = some key) (stays : positionOf? node.positional.length key = none) :
    addParameter node parameter =
      { node with named := node.named.insert (String.ofList key) (valueOf parameter) } := by
  rw [keyOf?, Option.map_eq_some_iff] at keyed
  obtain ⟨⟨written, value⟩, cut, rfl⟩ := keyed
  rw [addParameter, valueOf, cut]
  simp only [stays, Option.map_some, Option.getD_some]

theorem getElem?_setPosition (values : List String) (index probe : Nat) (value : String) :
    (setPosition values index value)[probe]? =
      if probe = index then some value
      else if probe < values.length then values[probe]?
      else if probe < index then some "" else none := by
  rw [setPosition, List.getElem?_set, List.getElem?_append, List.getElem?_replicate,
    List.length_append, List.length_replicate]
  by_cases here : probe = index
  · subst here
    rw [if_pos rfl, if_pos (by omega), if_pos rfl]
  · rw [if_neg (Ne.symm here), if_neg here]
    by_cases old : probe < values.length
    · rw [if_pos old, if_pos old]
    · rw [if_neg old, if_neg old]
      by_cases between : probe < index
      · rw [if_pos (by omega), if_pos between]
      · rw [if_neg (by omega), if_neg between]

/-- One value more at a position: it is read there, and everything else reads as before, except that
positions created in front of it are empty. -/
structure PutAt (before after : Node) (place : Nat) (value : String) : Prop where
  name : after.name = before.name
  named : after.named = before.named
  length : after.positional.length = max before.positional.length place
  here : after.positional? place = some value
  kept : ∀ other text, other ≠ place → before.positional? other = some text →
    after.positional? other = some text
  created : ∀ other, other ≠ place → before.positional? other = none →
    after.positional? other = if 0 < other ∧ other < place then some "" else none

/-- One value more under a key: it is read there, and everything else reads as before. -/
structure PutUnder (before after : Node) (key value : String) : Prop where
  name : after.name = before.name
  positional : after.positional = before.positional
  here : after.named.get? key = some value
  kept : ∀ other, other ≠ key → after.named.get? other = before.named.get? other

theorem positional?_eq_some {node : Node} {place : Nat} {text : String}
    (found : node.positional? place = some text) : 0 < place ∧ place ≤ node.positional.length := by
  cases place with
  | zero => cases found
  | succ index =>
    obtain ⟨inside, -⟩ := List.getElem?_eq_some_iff.1 found
    exact ⟨Nat.succ_pos index, inside⟩

theorem putAt_addParameter {node : Node} {parameter : List Char} {place : Nat}
    (goes : placeOf? node.positional.length parameter = some place) :
    PutAt node (addParameter node parameter) place (valueOf parameter) := by
  obtain ⟨positive, -⟩ := placeOf?_bounds goes
  obtain ⟨index, rfl⟩ : ∃ index, place = index + 1 := ⟨place - 1, by omega⟩
  rw [addParameter_of_place goes, Nat.add_sub_cancel]
  refine ⟨rfl, rfl, length_setPosition _ _ _, ?_, ?_, ?_⟩
  · rw [Node.positional?, getElem?_setPosition, if_pos rfl]
  · intro other text different found
    obtain ⟨positive, inside⟩ := positional?_eq_some found
    obtain ⟨probe, rfl⟩ : ∃ probe, other = probe + 1 := ⟨other - 1, by omega⟩
    rw [Node.positional?, getElem?_setPosition, if_neg (by omega), if_pos (by omega)]
    exact found
  · intro other different absent
    cases other with
    | zero => rfl
    | succ probe =>
      have outside : ¬ probe < node.positional.length :=
        Nat.not_lt.2 (List.getElem?_eq_none_iff.1 absent)
      rw [Node.positional?, getElem?_setPosition, if_neg (by omega), if_neg outside]
      simp only [Nat.succ_pos, true_and, Nat.add_lt_add_iff_right]

theorem putUnder_addParameter {node : Node} {parameter key : List Char}
    (keyed : keyOf? parameter = some key) (stays : positionOf? node.positional.length key = none) :
    PutUnder node (addParameter node parameter) (String.ofList key) (valueOf parameter) := by
  rw [addParameter_of_key keyed stays]
  refine ⟨rfl, rfl, ?_, fun other different => ?_⟩
  · rw [Catalog.get?_insert, if_pos rfl]
  · rw [Catalog.get?_insert, if_neg different]

/-- What a step of reading can do: one value more, at the position of the parameter or under its
key. -/
theorem addParameter_cases (node : Node) (parameter : List Char) :
    (∃ place, placeOf? node.positional.length parameter = some place ∧
      PutAt node (addParameter node parameter) place (valueOf parameter)) ∨
    ∃ key, keyOf? parameter = some key ∧ positionOf? node.positional.length key = none ∧
      PutUnder node (addParameter node parameter) (String.ofList key) (valueOf parameter) := by
  cases keyed : keyOf? parameter with
  | none =>
    have goes := placeOf?_of_unnamed keyed node.positional.length
    exact Or.inl ⟨_, goes, putAt_addParameter goes⟩
  | some key =>
    cases named : positionOf? node.positional.length key with
    | none => exact Or.inr ⟨key, rfl, named, putUnder_addParameter keyed named⟩
    | some place =>
      have goes := (placeOf?_of_key keyed node.positional.length).trans named
      exact Or.inl ⟨place, goes, putAt_addParameter goes⟩

theorem name_foldl_addParameter (parameters : List (List Char)) (node : Node) :
    (parameters.foldl addParameter node).name = node.name := by
  induction parameters generalizing node with
  | nil => rfl
  | cons parameter parameters ih =>
    rw [List.foldl_cons, ih]
    obtain ⟨_, -, put⟩ | ⟨_, -, -, put⟩ := addParameter_cases node parameter
    · exact put.name
    · exact put.name

/-- The node of a template when some of its parameters are read. -/
def nodeAfter (name : String) (parameters : List (List Char)) : Node :=
  parameters.foldl addParameter { name }

theorem nodeAfter_append (name : String) (front back : List (List Char)) :
    nodeAfter name (front ++ back) = back.foldl addParameter (nodeAfter name front) :=
  List.foldl_append

theorem nodeOf?_eq_some {inside : List Char} {node : Node} (read : nodeOf? inside = some node) :
    node = nodeAfter node.name (parametersOf inside) := by
  rw [nodeOf?] at read
  rw [nodeAfter, parametersOf]
  split at read
  · cases read
  · next name parameters pieces =>
    simp only at read
    split at read
    · cases read
      rw [name_foldl_addParameter, pieces, List.tail_cons]
    · cases read

/-- With each parameter the positions grow by at most `maxGap`. -/
theorem length_foldl_le (parameters : List (List Char)) (node : Node) :
    (parameters.foldl addParameter node).positional.length ≤
      node.positional.length + maxGap * parameters.length := by
  induction parameters generalizing node with
  | nil => exact Nat.le_refl _
  | cons parameter parameters ih =>
    have step : (addParameter node parameter).positional.length ≤
        node.positional.length + maxGap := by
      obtain ⟨place, goes, put⟩ | ⟨_, -, -, put⟩ := addParameter_cases node parameter
      · have near := (placeOf?_bounds goes).2
        rw [put.length]
        omega
      · rw [put.positional]
        omega
    have later := ih (addParameter node parameter)
    rw [List.foldl_cons, List.length_cons, Nat.mul_succ]
    omega

def lastNumbered? (number : Nat) (parameters : List (List Char)) : Option String :=
  (parameters.reverse.find? fun parameter => numberOf? parameter == some number).map valueOf

theorem lastNumbered?_cons (number : Nat) (parameter : List Char) (parameters : List (List Char)) :
    lastNumbered? number (parameter :: parameters) =
      (lastNumbered? number parameters).or
        (if numberOf? parameter = some number then some (valueOf parameter) else none) := by
  rw [lastNumbered?, List.reverse_cons, List.find?_append, Option.map_or, lastNumbered?]
  congr 1
  by_cases same : numberOf? parameter = some number
  · rw [if_pos same, List.find?_singleton, if_pos (beq_iff_eq.2 same), Option.map_some]
  · rw [if_neg same, List.find?_singleton, if_neg (mt beq_iff_eq.1 same), Option.map_none]

theorem lastNumbered?_eq_none {number : Nat} {parameters : List (List Char)}
    (others : ∀ parameter ∈ parameters, numberOf? parameter ≠ some number) :
    lastNumbered? number parameters = none := by
  rw [lastNumbered?, Option.map_eq_none_iff, List.find?_eq_none]
  intro parameter member
  rw [beq_iff_eq]
  exact others parameter (List.mem_reverse.1 member)

/-- A step changes a position that is filled exactly if its parameter has the number of it. -/
theorem positional?_addParameter {node : Node} {place : Nat} {text : String}
    (found : node.positional? place = some text) (parameter : List Char) :
    (addParameter node parameter).positional? place =
      some (if numberOf? parameter = some place then valueOf parameter else text) := by
  obtain ⟨positive, filled⟩ := positional?_eq_some found
  by_cases same : numberOf? parameter = some place
  · -- A position that is filled is near enough for every parameter with its number.
    have goes : placeOf? node.positional.length parameter = some place :=
      placeOf?_eq_some_iff.2 (Or.inr ⟨same, positive, by omega⟩)
    rw [if_pos same]
    exact (putAt_addParameter goes).here
  · rw [if_neg same]
    obtain ⟨other, goes, put⟩ | ⟨_, -, -, put⟩ := addParameter_cases node parameter
    · refine put.kept place text ?_ found
      rintro rfl
      rcases placeOf?_eq_some_iff.1 goes with ⟨-, behind⟩ | ⟨number, -⟩
      · omega
      · exact same number
    · rw [Node.positional?.eq_def, put.positional]
      exact found

/-- What stands at a position is replaced by later parameters with its number alone. -/
theorem positional?_foldl {node : Node} {place : Nat} {text : String}
    (found : node.positional? place = some text) (parameters : List (List Char)) :
    (parameters.foldl addParameter node).positional? place =
      some ((lastNumbered? place parameters).getD text) := by
  induction parameters generalizing node text with
  | nil => exact found
  | cons parameter parameters ih =>
    rw [List.foldl_cons, ih (positional?_addParameter found parameter), lastNumbered?_cons]
    cases lastNumbered? place parameters with
    | some value => rfl
    | none => split <;> rfl

/-- What stands under a key is replaced by later parameters with this key alone. -/
theorem get?_foldl {node : Node} {key : List Char} {text : String}
    (found : node.named.get? (String.ofList key) = some text) {parameters : List (List Char)}
    (others : ∀ parameter ∈ parameters, keyOf? parameter ≠ some key) :
    (parameters.foldl addParameter node).named.get? (String.ofList key) = some text := by
  induction parameters generalizing node with
  | nil => exact found
  | cons parameter parameters ih =>
    obtain ⟨here, later⟩ := List.forall_mem_cons.1 others
    refine ih ?_ later
    obtain ⟨_, -, put⟩ | ⟨other, keyed, -, put⟩ := addParameter_cases node parameter
    · rw [put.named]
      exact found
    · rw [put.kept, found]
      intro same
      exact here (keyed.trans (congrArg some (String.ofList_injective same).symm))

/-- The values of a node stay where they are while it reads more parameters, unless one of these has
the same number or key. -/
structure Keeps (before : Node) (parameters : List (List Char)) (after : Node) : Prop where
  positional : ∀ place text, before.positional? place = some text →
    (∀ parameter ∈ parameters, numberOf? parameter ≠ some place) →
    after.positional? place = some text
  named : ∀ key text, before.named.get? (String.ofList key) = some text →
    (∀ parameter ∈ parameters, keyOf? parameter ≠ some key) →
    after.named.get? (String.ofList key) = some text

theorem keeps_foldl (node : Node) (parameters : List (List Char)) :
    Keeps node parameters (parameters.foldl addParameter node) where
  positional place text found others := by
    rw [positional?_foldl found, lastNumbered?_eq_none others, Option.getD_none]
  named _ _ found others := get?_foldl found others

/-- A parameter with a number goes to its position where that is near enough, and under its key
otherwise. -/
theorem addParameter_of_number {node : Node} {parameter key : List Char} {number : Nat}
    (keyed : keyOf? parameter = some key) (denotes : numeral? key = some number) :
    if 0 < number ∧ number ≤ node.positional.length + maxGap then
      PutAt node (addParameter node parameter) number (valueOf parameter)
    else PutUnder node (addParameter node parameter) (String.ofList key) (valueOf parameter) := by
  have numbered : numberOf? parameter = some number := by
    rw [numberOf?, keyed]
    exact denotes
  split
  · next near => exact putAt_addParameter (placeOf?_eq_some_iff.2 (Or.inr ⟨numbered, near⟩))
  · next far =>
    refine putUnder_addParameter keyed ?_
    rw [positionOf?_eq_filter, denotes, Option.filter_some, if_neg]
    simpa only [Bool.and_eq_true, decide_eq_true_eq] using far

/-- A node holds at most 64 positions for each of its parameters. What is stored at any point of
reading is read back at the end, unless a later parameter has the same number or key; and each
parameter with a number changes one position or one key, and creates only empty positions. -/
theorem nodeOf_keepsValues {inside : List Char} {node : Node} (read : nodeOf? inside = some node) :
    node.positional.length ≤ 64 * (parametersOf inside).length ∧
    node = nodeAfter node.name (parametersOf inside) ∧
    (∀ front back, parametersOf inside = front ++ back →
      Keeps (nodeAfter node.name front) back node) ∧
    ∀ front parameter back key number, parametersOf inside = front ++ parameter :: back →
      keyOf? parameter = some key → numeral? key = some number →
      let before := nodeAfter node.name front
      let after := nodeAfter node.name (front ++ [parameter])
      if 0 < number ∧ number ≤ before.positional.length + 64 then
        PutAt before after number (valueOf parameter)
      else PutUnder before after (String.ofList key) (valueOf parameter) := by
  have whole := nodeOf?_eq_some read
  refine ⟨?_, whole, fun front back split => ?_, ?_⟩
  · have bound := length_foldl_le (parametersOf inside) { name := node.name }
    rw [← nodeAfter, ← whole] at bound
    simpa only [List.length_nil, Nat.zero_add, maxGap] using bound
  · have keeps := keeps_foldl (nodeAfter node.name front) back
    rwa [← nodeAfter_append, ← split, ← whole] at keeps
  · intro front parameter back key number _ keyed denotes before after
    have step : after = addParameter before parameter := nodeAfter_append _ _ _
    rw [step]
    exact addParameter_of_number keyed denotes

/-- A number with leading zeros creates positions, and one that is too far stays a key. -/
theorem nodeOf_keepsValues_leadingZeros :
    nodeOf? "x|a|007= b |99999999999999999=c".toList = some {
        name := "X"
        positional := ["a", "", "", "", "", "", "b"]
        named := Catalog.ofList [("99999999999999999", "c")] } ∧
      PutAt (nodeAfter "X" ["a".toList]) (nodeAfter "X" ["a".toList, "007= b ".toList]) 7 "b" ∧
      PutUnder (nodeAfter "X" ["a".toList, "007= b ".toList])
        (nodeAfter "X" ["a".toList, "007= b ".toList, "99999999999999999=c".toList])
        "99999999999999999" "c" := by
  have read : nodeOf? "x|a|007= b |99999999999999999=c".toList = some {
      name := "X"
      positional := ["a", "", "", "", "", "", "b"]
      named := Catalog.ofList [("99999999999999999", "c")] } := by decide +kernel
  obtain ⟨-, -, -, steps⟩ := nodeOf_keepsValues read
  have near := steps ["a".toList] "007= b ".toList ["99999999999999999=c".toList] "007".toList 7
    (by decide +kernel) (by decide +kernel) (by decide +kernel)
  have far := steps ["a".toList, "007= b ".toList] "99999999999999999=c".toList []
    "99999999999999999".toList 99999999999999999
    (by decide +kernel) (by decide +kernel) (by decide +kernel)
  have nearText : valueOf "007= b ".toList = "b" := by decide +kernel
  have farText : valueOf "99999999999999999=c".toList = "c" := by decide +kernel
  rw [if_pos (by decide +kernel), nearText] at near
  rw [if_neg (by decide +kernel), farText] at far
  exact ⟨read, near, far⟩

end SaveManifest.Template
