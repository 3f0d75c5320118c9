import SaveManifest.Proofs.Path.Braces
import SaveManifest.Proofs.Template.Insides

/-!
# Balance of positional values

However a page is written, the positional values read from it hold as many `{{` as `}}`. The search
for the end of a template pairs double braces, so the inside of a template opens and closes at one
depth (`bracesAfter?`). A bar that cuts the inside stands at depth zero, so each parameter opens
and closes at depth zero too. An equals sign may stand inside of braces, since the search for it
counts brackets in the same depth; but a key that is a number holds no brace, and the value behind
it holds all braces of the parameter.
-/

namespace SaveManifest.Template

open SaveManifest.Text SaveManifest.Path

/-- The depth of double braces behind a text that begins at some depth; `none` when one closes
that was not opened. -/
def bracesAfter? (depth : Nat) : List Char → Option Nat
  | [] => some depth
  | '{' :: '{' :: rest => bracesAfter? (depth + 1) rest
  | '}' :: '}' :: rest =>
    match depth with
    | 0 => none
    | depth + 1 => bracesAfter? depth rest
  | _ :: rest => bracesAfter? depth rest

/-- The character is not the first brace of a double one. -/
def IsLone (c : Char) (rest : List Char) : Prop := c = '{' ∨ c = '}' → rest.head? ≠ some c

section Lone

variable {c brace : Char} {rest : List Char}

theorem IsLone.of_cases (noOpening : ∀ tail, c = '{' → rest = '{' :: tail → False)
    (noClosing : ∀ tail, c = '}' → rest = '}' :: tail → False) : IsLone c rest := by
  intro isBrace first
  cases rest with
  | nil => cases first
  | cons d tail =>
    rw [List.head?_cons, Option.some.injEq] at first
    subst first
    rcases isBrace with rfl | rfl
    · exact noOpening tail rfl rfl
    · exact noClosing tail rfl rfl

theorem IsLone.front {front back : List Char} (lone : IsLone c (front ++ back)) :
    IsLone c front := by
  intro isBrace first
  refine lone isBrace ?_
  rw [List.head?_append, first, Option.some_or]

theorem bracesAfter?_cons (lone : IsLone c rest) (depth : Nat) :
    bracesAfter? depth (c :: rest) = bracesAfter? depth rest := by
  rw [bracesAfter?]
  · rintro tail rfl rfl
    exact lone (Or.inl rfl) rfl
  · rintro tail rfl rfl
    exact lone (Or.inr rfl) rfl

theorem bracesAfter?_cons_of_ne (noOpening : c ≠ '{') (noClosing : c ≠ '}') (depth : Nat) :
    bracesAfter? depth (c :: rest) = bracesAfter? depth rest := by
  apply bracesAfter?_cons
  intro isBrace
  rcases isBrace with opening | closing
  · exact absurd opening noOpening
  · exact absurd closing noClosing

theorem bracesAfter?_pair_of_ne (noOpening : c ≠ '{') (noClosing : c ≠ '}') (depth : Nat) :
    bracesAfter? depth (c :: c :: rest) = bracesAfter? depth rest := by
  rw [bracesAfter?_cons_of_ne noOpening noClosing, bracesAfter?_cons_of_ne noOpening noClosing]

theorem countPairs_cons (lone : IsLone c rest) (isBrace : brace = '{' ∨ brace = '}') :
    countPairs brace (c :: rest) = countPairs brace rest := by
  by_cases same : c = brace
  · subst same
    exact countPairs_cons_of_head (lone isBrace)
  · exact countPairs_cons_of_ne same

end Lone

/-- Depth counts pairs: what is opened more than closed is the difference of the depths. -/
theorem countPairs_of_bracesAfter? {depth final : Nat} {text : List Char}
    (after : bracesAfter? depth text = some final) :
    countPairs '{' text + depth = countPairs '}' text + final := by
  fun_induction bracesAfter? depth text with
  | case1 depth =>
    cases after
    rfl
  | case2 depth rest ih =>
    have deeper := ih after
    rw [countPairs_pair, countPairs_cons_of_ne (by decide), countPairs_cons_of_ne (by decide)]
    omega
  | case3 rest => cases after
  | case4 rest depth ih =>
    have higher := ih after
    rw [countPairs_pair, countPairs_cons_of_ne (by decide), countPairs_cons_of_ne (by decide)]
    omega
  | case5 depth c rest noOpening noClosing ih =>
    have lone := IsLone.of_cases noOpening noClosing
    rw [countPairs_cons lone (Or.inl rfl), countPairs_cons lone (Or.inr rfl)]
    exact ih after

/-- The inside of a template opens and closes at one depth. -/
theorem bracesAfter?_of_splitClosing {depth : Nat} {text inner behind : List Char}
    (closed : splitClosing depth text = some (inner, behind)) :
    bracesAfter? depth inner = some 0 := by
  fun_induction splitClosing depth text generalizing inner behind with
  | case1 => cases closed
  | case2 depth rest ih =>
    obtain ⟨⟨tail, more⟩, found, shape⟩ := Option.map_eq_some_iff.1 closed
    cases shape
    rw [bracesAfter?]
    exact ih found
  | case3 rest =>
    cases closed
    rfl
  | case4 rest depth ih =>
    obtain ⟨⟨tail, more⟩, found, shape⟩ := Option.map_eq_some_iff.1 closed
    cases shape
    rw [bracesAfter?]
    exact ih found
  | case5 depth c rest noOpening noClosing ih =>
    obtain ⟨⟨tail, more⟩, found, shape⟩ := Option.map_eq_some_iff.1 closed
    cases shape
    have lone := IsLone.of_cases noOpening noClosing
    rw [splitClosing_append found] at lone
    rw [bracesAfter?_cons lone.front]
    exact ih found

/-- Pieces of which the first closes what is open before it, and every later one opens and closes at
depth zero. -/
def CloseApart (braces : Nat) (pieces : List (List Char)) : Prop :=
  ∃ first others, pieces = first :: others ∧ bracesAfter? braces first = some 0 ∧
    ∀ piece ∈ others, bracesAfter? 0 piece = some 0

/-- A pair in front of the first piece takes the depth to where that piece goes on. -/
theorem CloseApart.prepend_pair {c : Char} {outer inner : Nat} {pieces : List (List Char)}
    (apart : CloseApart inner pieces)
    (step : ∀ piece, bracesAfter? outer (c :: c :: piece) = bracesAfter? inner piece) :
    CloseApart outer (prepend c (prepend c pieces)) := by
  obtain ⟨first, others, rfl, opens, later⟩ := apart
  exact ⟨c :: c :: first, others, rfl, (step first).trans opens, later⟩

/-- Bars cut where no brace is open: the first piece closes what is open before it, and every
later piece opens and closes at depth zero. -/
theorem bracesAfter?_of_splitBars {braces : Nat} (brackets : Nat) {text : List Char}
    (after : bracesAfter? braces text = some 0) :
    CloseApart braces (splitBars braces brackets text) := by
  fun_induction splitBars braces brackets text with
  | case1 braces brackets => exact ⟨[], [], rfl, after, fun piece member => by cases member⟩
  | case2 braces brackets rest ih =>
    rw [bracesAfter?] at after
    exact (ih after).prepend_pair fun piece => by rw [bracesAfter?]
  | case3 braces brackets rest ih =>
    cases braces with
    | zero => cases after
    | succ braces =>
      rw [bracesAfter?] at after
      exact (ih after).prepend_pair fun piece => by rw [bracesAfter?]; rfl
  | case4 braces brackets rest ih | case5 braces brackets rest ih =>
    rw [bracesAfter?_pair_of_ne (by decide) (by decide)] at after
    exact (ih after).prepend_pair fun piece =>
      bracesAfter?_pair_of_ne (by decide) (by decide) braces
  | case6 braces brackets c rest _ _ _ _ bar ih =>
    obtain ⟨rfl, rfl, rfl⟩ := bar
    rw [bracesAfter?_cons_of_ne (by decide) (by decide)] at after
    obtain ⟨first, others, pieces, opens, later⟩ := ih after
    exact ⟨[], first :: others, by rw [pieces], rfl, List.forall_mem_cons.2 ⟨opens, later⟩⟩
  | case7 braces brackets c rest noOpening noClosing _ _ _ ih =>
    have lone := IsLone.of_cases noOpening noClosing
    rw [bracesAfter?_cons lone] at after
    obtain ⟨first, others, pieces, opens, later⟩ := ih after
    -- The first piece begins like the text behind `c`, so `c` stays on its own in front of it.
    have loneFirst : IsLone c first := by
      rw [← joinBars_splitBars braces brackets rest, pieces] at lone
      cases others with
      | nil => exact lone
      | cons second others => exact lone.front
    refine ⟨c :: first, others, by rw [pieces]; rfl, ?_, later⟩
    rw [bracesAfter?_cons loneFirst]
    exact opens

theorem splitEquals_eq_append {depth : Nat} {text key value : List Char}
    (cut : splitEquals depth text = some (key, value)) : text = key ++ '=' :: value := by
  fun_induction splitEquals depth text generalizing key value with
  | case1 => cases cut
  | case6 depth c rest _ _ _ _ equals =>
    cases cut
    rw [equals.1, List.nil_append]
  | case2 _ rest ih | case3 _ rest ih | case4 _ rest ih | case5 _ rest ih
  | case7 _ _ rest _ _ _ _ _ ih =>
    obtain ⟨⟨front, back⟩, found, shape⟩ := Option.map_eq_some_iff.1 cut
    cases shape
    rw [ih found]
    rfl

/-- A key that names a position holds no brace. -/
theorem not_mem_of_positionOf? {filled index : Nat} {key : List Char} {brace : Char}
    (names : positionOf? filled (normalizeKey key) = some index)
    (isBrace : brace = '{' ∨ brace = '}') : brace ∉ key := by
  intro member
  have kept : brace ∈ normalizeKey key := by
    refine mem_collapse (List.mem_map.2 ⟨brace, member, ?_⟩) ?_
    · rcases isBrace with rfl | rfl <;> rfl
    · rcases isBrace with rfl | rfl <;> decide
  rw [positionOf?] at names
  split at names
  · next digits =>
    have digit := List.all_eq_true.1 digits brace kept
    rcases isBrace with rfl | rfl <;> exact absurd digit (by decide)
  · cases names

theorem mem_setPosition {values : List String} {index : Nat} {value other : String}
    (member : other ∈ setPosition values index value) :
    other ∈ values ∨ other = "" ∨ other = value := by
  rw [setPosition] at member
  rcases List.mem_or_eq_of_mem_set member with before | rfl
  · rcases List.mem_append.1 before with old | new
    · exact Or.inl old
    · exact Or.inr (Or.inl (List.eq_of_mem_replicate new))
  · exact Or.inr (Or.inr rfl)

/-- A parameter that opens and closes at depth zero leaves the positional values balanced. -/
theorem isBalanced_addParameter {node : Node} {parameter : List Char}
    (balanced : ∀ value ∈ node.positional, isBalanced value.toList = true)
    (after : bracesAfter? 0 parameter = some 0) :
    ∀ value ∈ (addParameter node parameter).positional, isBalanced value.toList = true := by
  have whole : isBalanced parameter = true := isBalanced_iff.2 (countPairs_of_bracesAfter? after)
  intro value member
  rw [addParameter] at member
  cases cut : splitEquals 0 parameter with
  | none =>
    simp only [cut, List.mem_append, List.mem_singleton] at member
    rcases member with old | rfl
    · exact balanced value old
    · rw [String.toList_ofList]
      exact isBalanced_trim whole
  | some parts =>
    obtain ⟨key, text⟩ := parts
    simp only [cut] at member
    cases names : positionOf? node.positional.length (normalizeKey key) with
    | none =>
      simp only [names] at member
      exact balanced value member
    | some index =>
      simp only [names] at member
      have behind : ∀ brace, brace = '{' ∨ brace = '}' →
          countPairs brace parameter = countPairs brace text := by
        intro brace isBrace
        have notEquals : '=' ≠ brace := by
          rcases isBrace with rfl | rfl <;> decide
        rw [splitEquals_eq_append cut,
          countPairs_append_left (not_mem_of_positionOf? names isBrace),
          countPairs_cons_of_ne notEquals]
      rw [isBalanced_iff, behind '{' (Or.inl rfl), behind '}' (Or.inr rfl)] at whole
      rcases mem_setPosition member with old | rfl | rfl
      · exact balanced value old
      · rfl
      · rw [String.toList_ofList]
        exact isBalanced_trim (isBalanced_iff.2 whole)

/-- The node of the inside of a template has balanced positional values. -/
theorem isBalanced_nodeOf? {inner : List Char} {node : Node}
    (after : bracesAfter? 0 inner = some 0) (read : nodeOf? inner = some node) :
    ∀ value ∈ node.positional, isBalanced value.toList = true := by
  obtain ⟨name, parameters, pieces, -, later⟩ := bracesAfter?_of_splitBars 0 after
  have fold : ∀ node : Node, (∀ value ∈ node.positional, isBalanced value.toList = true) →
      ∀ value ∈ (parameters.foldl addParameter node).positional,
        isBalanced value.toList = true := by
    clear pieces
    induction parameters with
    | nil => exact fun node balanced => balanced
    | cons parameter parameters ih =>
      intro node balanced
      rw [List.foldl_cons]
      refine ih (fun piece member => later piece (List.mem_cons_of_mem _ member)) _ ?_
      exact isBalanced_addParameter balanced (later parameter List.mem_cons_self)
  rw [nodeOf?, pieces] at read
  simp only at read
  split at read
  · cases read
    exact fold _ fun value member => by cases member
  · cases read

/-- The inside of every template of a text opens and closes at depth zero. -/
theorem bracesAfter?_of_mem_insides {text inside : List Char} (member : inside ∈ insides text) :
    bracesAfter? 0 inside = some 0 := by
  fun_induction insides text with
  | case1 => cases member
  | case2 => cases member
  | case3 rest inner behind closed nested later =>
    rcases List.mem_append.1 member with early | late
    · rcases List.mem_cons.1 early with rfl | within
      · exact bracesAfter?_of_splitClosing closed
      · exact nested within
    · exact later late
  | case4 c rest _ ih => exact ih member

/-- All positional values that are read from a text are balanced. -/
theorem isBalanced_collect (text : List Char) :
    ∀ node ∈ collect text, ∀ value ∈ node.positional, isBalanced value.toList = true := by
  intro node member
  rw [collect_eq_filterMap] at member
  obtain ⟨inside, listed, read⟩ := List.mem_filterMap.1 member
  exact isBalanced_nodeOf? (bracesAfter?_of_mem_insides listed) read

end SaveManifest.Template
