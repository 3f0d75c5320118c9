import SaveManifest.Proofs.Template.Places

/-!
# Parameters without keys

On a wiki, parameters without keys are counted on their own. A node puts such a parameter behind all
its positions, and these include the ones that numbers created. So a parameter is found under its
count as long as no number before it runs ahead of the parameters without keys (`isOrderly`), and
behind its count otherwise (`positional_of_unnamed`). The latter happens on pages such as
`{{x|2=b|a}}` (`positional_displaced`).
-/

namespace SaveManifest.Template

/-- How many of some parameters are written without a key. -/
def unnamedIn (parameters : List (List Char)) : Nat :=
  parameters.countP fun parameter => (keyOf? parameter).isNone

/-- Whether no number runs ahead of what is filled, be it zero, a position that holds a value
already, or too far to name a position at all. -/
def isOrderly (filled : Nat) : List (List Char) → Bool
  | [] => true
  | parameter :: parameters =>
    match keyOf? parameter with
    | none => isOrderly (filled + 1) parameters
    | some key =>
      (numeral? key).all (fun number => number ≤ filled || filled + maxGap < number) &&
        isOrderly filled parameters

theorem unnamedIn_cons_of_unnamed {parameter : List Char} (unnamed : keyOf? parameter = none)
    (parameters : List (List Char)) :
    unnamedIn (parameter :: parameters) = unnamedIn parameters + 1 := by
  rw [unnamedIn, List.countP_cons_of_pos (by rw [unnamed]; rfl), unnamedIn]

theorem unnamedIn_cons_of_key {parameter key : List Char} (keyed : keyOf? parameter = some key)
    (parameters : List (List Char)) :
    unnamedIn (parameter :: parameters) = unnamedIn parameters := by
  rw [unnamedIn, List.countP_cons_of_neg (by rw [keyed]; exact Bool.false_ne_true), unnamedIn]

theorem isOrderly_cons_of_unnamed {parameter : List Char} (unnamed : keyOf? parameter = none)
    (filled : Nat) (parameters : List (List Char)) :
    isOrderly filled (parameter :: parameters) = isOrderly (filled + 1) parameters := by
  rw [isOrderly, unnamed]

theorem all_positionOf? (filled : Nat) (key : List Char) :
    (positionOf? filled key).all (· ≤ filled) =
      (numeral? key).all fun number => number ≤ filled || filled + maxGap < number := by
  rw [positionOf?_eq_filter]
  cases numeral? key with
  | none => rfl
  | some number =>
    rw [Option.filter_some, Option.all_some, Bool.eq_iff_iff]
    by_cases names : 0 < number ∧ number ≤ filled + maxGap
    · rw [if_pos (by simpa using names), Option.all_some]
      simp only [decide_eq_true_eq, Bool.or_eq_true]
      omega
    · rw [if_neg (by simpa using names), Option.all_none]
      simp only [decide_eq_true_eq, Bool.or_eq_true, true_iff]
      omega

theorem isOrderly_cons_of_key {parameter key : List Char} (keyed : keyOf? parameter = some key)
    (filled : Nat) (parameters : List (List Char)) :
    isOrderly filled (parameter :: parameters) =
      ((positionOf? filled key).all (· ≤ filled) && isOrderly filled parameters) := by
  rw [isOrderly, keyed, all_positionOf?]

theorem length_addParameter_of_unnamed {parameter : List Char} (unnamed : keyOf? parameter = none)
    (node : Node) :
    (addParameter node parameter).positional.length = node.positional.length + 1 := by
  rw [(putAt_addParameter (placeOf?_of_unnamed unnamed node.positional.length)).length]
  exact Nat.max_eq_right (Nat.le_succ _)

theorem length_le_addParameter (node : Node) (parameter : List Char) :
    node.positional.length ≤ (addParameter node parameter).positional.length := by
  obtain ⟨_, -, put⟩ | ⟨_, -, -, put⟩ := addParameter_cases node parameter
  · rw [put.length]
    exact Nat.le_max_left _ _
  · exact Nat.le_of_eq (congrArg List.length put.positional.symm)

/-- Each parameter without a key creates a position. -/
theorem add_unnamedIn_le (parameters : List (List Char)) (node : Node) :
    node.positional.length + unnamedIn parameters ≤
      (parameters.foldl addParameter node).positional.length := by
  induction parameters generalizing node with
  | nil => exact Nat.le_refl _
  | cons parameter parameters ih =>
    have later := ih (addParameter node parameter)
    rw [List.foldl_cons]
    cases keyed : keyOf? parameter with
    | none =>
      rw [unnamedIn_cons_of_unnamed keyed]
      rw [length_addParameter_of_unnamed keyed] at later
      omega
    | some key =>
      rw [unnamedIn_cons_of_key keyed]
      have grown := length_le_addParameter node parameter
      omega

/-- No other position is created exactly if no number runs ahead. -/
theorem length_foldl_eq_iff (parameters : List (List Char)) (node : Node) :
    (parameters.foldl addParameter node).positional.length =
        node.positional.length + unnamedIn parameters ↔
      isOrderly node.positional.length parameters = true := by
  induction parameters generalizing node with
  | nil => exact iff_of_true rfl rfl
  | cons parameter parameters ih =>
    have later := ih (addParameter node parameter)
    rw [List.foldl_cons]
    cases keyed : keyOf? parameter with
    | none =>
      rw [length_addParameter_of_unnamed keyed] at later
      rw [unnamedIn_cons_of_unnamed keyed, isOrderly_cons_of_unnamed keyed,
        Nat.add_comm (unnamedIn parameters), ← Nat.add_assoc]
      exact later
    | some key =>
      rw [unnamedIn_cons_of_key keyed, isOrderly_cons_of_key keyed]
      cases named : positionOf? node.positional.length key with
      | none =>
        rw [(putUnder_addParameter keyed named).positional] at later
        rw [Option.all_none, Bool.true_and]
        exact later
      | some place =>
        have put := putAt_addParameter
          ((placeOf?_of_key keyed node.positional.length).trans named)
        rw [Option.all_some]
        by_cases behind : place ≤ node.positional.length
        · rw [put.length, Nat.max_eq_left behind] at later
          rw [decide_eq_true behind, Bool.true_and]
          exact later
        · -- A position that a number creates is never made up for.
          have least := add_unnamedIn_le parameters (addParameter node parameter)
          rw [put.length, Nat.max_eq_right (Nat.le_of_not_le behind)] at least
          rw [decide_eq_false behind, Bool.false_and]
          exact iff_of_false (by omega) Bool.false_ne_true

/-- A parameter without a key is read at its index among those, or there the last later parameter
with that number, as long as no number before it runs ahead. Where one does, it is read behind that
index, at the first position that was not filled. -/
theorem positional_of_unnamed {inside : List Char} {node : Node} {front back : List (List Char)}
    {parameter : List Char} (read : nodeOf? inside = some node)
    (split : parametersOf inside = front ++ parameter :: back)
    (unnamed : keyOf? parameter = none) :
    let index := unnamedIn front + 1
    let place := (nodeAfter node.name front).positional.length + 1
    (isOrderly 0 front = true →
      node.positional? index = some ((lastNumbered? index back).getD (valueOf parameter))) ∧
    (isOrderly 0 front = false → index < place ∧
      node.positional? place = some ((lastNumbered? place back).getD (valueOf parameter))) := by
  intro index place
  have found :
      node.positional? place = some ((lastNumbered? place back).getD (valueOf parameter)) := by
    have put := putAt_addParameter
      (placeOf?_of_unnamed unnamed (nodeAfter node.name front).positional.length)
    have later := positional?_foldl put.here back
    rwa [← List.foldl_cons, ← nodeAfter_append, ← split, ← nodeOf?_eq_some read] at later
  have filled := length_foldl_eq_iff front { name := node.name }
  have least := add_unnamedIn_le front { name := node.name }
  rw [← nodeAfter, List.length_nil, Nat.zero_add] at filled least
  constructor
  · intro orderly
    have same : place = index := congrArg (· + 1) (filled.2 orderly)
    rwa [same] at found
  · intro ahead
    refine ⟨Nat.succ_lt_succ (Nat.lt_of_le_of_ne least fun same => ?_), found⟩
    rw [filled.1 same.symm] at ahead
    cases ahead

/-- The second parameter without a key stands behind a number that names the first one, and a later
number names it in turn. -/
theorem positional_of_unnamed_between :
    (nodeOf? "x|a|1=b|c|2=d".toList = some { name := "X", positional := ["b", "d"] } ∧
      parametersOf "x|a|1=b|c|2=d".toList =
        ["a".toList, "1=b".toList] ++ "c".toList :: ["2=d".toList] ∧
      keyOf? "c".toList = none ∧ isOrderly 0 ["a".toList, "1=b".toList] = true) ∧
    ({ name := "X", positional := ["b", "d"] } : Node).positional? 2 = some "d" := by
  have read : nodeOf? "x|a|1=b|c|2=d".toList = some { name := "X", positional := ["b", "d"] } := by
    decide +kernel
  have split : parametersOf "x|a|1=b|c|2=d".toList =
      ["a".toList, "1=b".toList] ++ "c".toList :: ["2=d".toList] := by decide +kernel
  have unnamed : keyOf? "c".toList = none := by decide +kernel
  have orderly : isOrderly 0 ["a".toList, "1=b".toList] = true := by decide +kernel
  exact ⟨⟨read, split, unnamed, orderly⟩, (positional_of_unnamed read split unnamed).1 orderly⟩

/-- A number in front of the first parameter without a key: that parameter is read at the third
position, and an empty value at the first one. -/
theorem positional_displaced :
    parse "{{x|2=b|a}}" = [{ name := "X", positional := ["", "b", "a"] }] ∧
    nodeOf? "x|2=b|a".toList = some { name := "X", positional := ["", "b", "a"] } ∧
    parametersOf "x|2=b|a".toList = ["2=b".toList] ++ "a".toList :: [] ∧
    keyOf? "a".toList = none ∧ unnamedIn ["2=b".toList] + 1 = 1 ∧ lastNumbered? 1 [] = none ∧
    ({ name := "X", positional := ["", "b", "a"] } : Node).positional? 1 = some "" := by
  decide +kernel

end SaveManifest.Template
