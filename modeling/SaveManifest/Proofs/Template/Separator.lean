import SaveManifest.Proofs.Template.Balance

/-!
# Where a parameter is cut into key and value

The search for the equals sign of a parameter counts nested templates and links in one depth, so a
stray `]]` inside of a nested template takes that template for closed, and the equals sign of the
nested template then cuts it in two (`parse_cutInTwo`). Where the templates of a key close no
brackets but open ones, the depth is that of braces and brackets together
(`eq_zero_of_splitEquals`): the equals sign stands outside of every nested template, and key and
value hold as many `{{` as `}}` each. Whatever the brackets are, the value closes what the key left
open.
-/

namespace SaveManifest.Template

open SaveManifest.Text SaveManifest.Path

/-- Behind a character that is no brace the depth goes on from where the text before it ends. -/
theorem bracesAfter?_append_cons {c : Char} (noOpening : c ≠ '{') (noClosing : c ≠ '}')
    (depth : Nat) (front back : List Char) :
    bracesAfter? depth (front ++ c :: back) =
      (bracesAfter? depth front).bind (bracesAfter? · back) := by
  fun_induction bracesAfter? depth front with
  | case1 depth => exact bracesAfter?_cons_of_ne noOpening noClosing depth
  | case2 depth rest ih =>
    rw [List.cons_append, List.cons_append, bracesAfter?]
    exact ih
  | case3 rest => rfl
  | case4 rest depth ih =>
    rw [List.cons_append, List.cons_append, bracesAfter?]
    exact ih
  | case5 depth d rest noOpen noClose ih =>
    have lone : IsLone d (rest ++ c :: back) := by
      have alone := IsLone.of_cases noOpen noClose
      cases rest with
      | nil =>
        rintro (rfl | rfl) begins
        · exact noOpening (Option.some.inj begins)
        · exact noClosing (Option.some.inj begins)
      | cons e rest => exact alone
    rw [List.cons_append, bracesAfter?_cons lone, ih]

/-- Whether each `]]` inside of nested templates closes a `[[` that stands before it. -/
def closesOwn (braces brackets : Nat) : List Char → Bool
  | [] => true
  | '{' :: '{' :: rest => closesOwn (braces + 1) brackets rest
  | '}' :: '}' :: rest => closesOwn (braces - 1) brackets rest
  | '[' :: '[' :: rest => closesOwn braces (brackets + 1) rest
  | ']' :: ']' :: rest =>
    (braces == 0 || brackets != 0) && closesOwn braces (brackets - 1) rest
  | _ :: rest => closesOwn braces brackets rest

theorem closesOwn_cons {c : Char} {rest : List Char} {braces brackets : Nat}
    (noBraces : ∀ tail, c = '{' → rest = '{' :: tail → False)
    (noBracesEnd : ∀ tail, c = '}' → rest = '}' :: tail → False)
    (noBrackets : ∀ tail, c = '[' → rest = '[' :: tail → False)
    (noBracketsEnd : ∀ tail, c = ']' → rest = ']' :: tail → False) :
    closesOwn braces brackets (c :: rest) = closesOwn braces brackets rest := by
  rw [closesOwn]
  · exact noBraces
  · exact noBracesEnd
  · exact noBrackets
  · exact noBracketsEnd

/-- The depth in which the separator is sought counts braces and brackets together, as long as no
bracket closes a brace. So a separator at depth zero has no open brace before it. -/
theorem eq_zero_of_splitEquals {depth braces brackets final : Nat} {text key value : List Char}
    (cut : splitEquals depth text = some (key, value)) (shared : depth = braces + brackets)
    (after : bracesAfter? braces key = some final) (own : closesOwn braces brackets key = true) :
    final = 0 := by
  fun_induction splitEquals depth text generalizing braces brackets key value with
  | case1 => cases cut
  | case2 depth rest ih =>
    obtain ⟨⟨front, back⟩, found, shape⟩ := Option.map_eq_some_iff.1 cut
    cases shape
    rw [bracesAfter?] at after
    rw [closesOwn] at own
    exact ih found (by omega) after own
  | case3 depth rest ih =>
    obtain ⟨⟨front, back⟩, found, shape⟩ := Option.map_eq_some_iff.1 cut
    cases shape
    rw [bracesAfter?_pair_of_ne (by decide) (by decide)] at after
    rw [closesOwn] at own
    exact ih found (by omega) after own
  | case4 depth rest ih =>
    obtain ⟨⟨front, back⟩, found, shape⟩ := Option.map_eq_some_iff.1 cut
    cases shape
    cases braces with
    | zero => cases after
    | succ braces =>
      rw [bracesAfter?] at after
      rw [closesOwn, Nat.add_sub_cancel] at own
      exact ih found (by omega) after own
  | case5 depth rest ih =>
    obtain ⟨⟨front, back⟩, found, shape⟩ := Option.map_eq_some_iff.1 cut
    cases shape
    rw [bracesAfter?_pair_of_ne (by decide) (by decide)] at after
    rw [closesOwn, Bool.and_eq_true, Bool.or_eq_true, beq_iff_eq, bne_iff_ne] at own
    -- Outside of braces a stray closing leaves both depths at zero.
    exact ih found (by omega) after own.2
  | case6 depth c rest _ _ _ _ equals =>
    cases cut
    cases after
    omega
  | case7 depth c rest noBraces noBrackets noBracesEnd noBracketsEnd notEquals ih =>
    obtain ⟨⟨front, back⟩, found, shape⟩ := Option.map_eq_some_iff.1 cut
    cases shape
    have whole := splitEquals_eq_append found
    have alone {x : Char} (noPair : ∀ tail, c = x → rest = x :: tail → False) :
        ∀ tail, c = x → front = x :: tail → False := fun tail same begins =>
      noPair (tail ++ '=' :: value) same (by rw [whole, begins]; rfl)
    rw [bracesAfter?_cons (IsLone.of_cases (alone noBraces) (alone noBracesEnd))] at after
    rw [closesOwn_cons (alone noBraces) (alone noBracesEnd) (alone noBrackets)
      (alone noBracketsEnd)] at own
    exact ih found shared after own

/-- A parameter cut at a separator outside of its nested templates: no brace is open there, and the
stored key and the stored value hold as many `{{` as `}}` each. -/
structure CutOutside (key value : List Char) : Prop where
  outside : bracesAfter? 0 key = some 0
  balancedKey : isBalanced (normalizeKey key) = true
  balancedValue : isBalanced (trim value) = true

/-- Where a parameter opens and closes at depth zero, its value closes what its key left open, and
that is nothing if the templates of the key close no brackets but open ones. -/
theorem cutOutside_of_splitEquals {parameter key value : List Char}
    (after : bracesAfter? 0 parameter = some 0) (cut : splitEquals 0 parameter = some (key, value)) :
    ∃ depth, bracesAfter? 0 key = some depth ∧ bracesAfter? depth value = some 0 ∧
      (closesOwn 0 0 key = true → CutOutside key value) := by
  rw [splitEquals_eq_append cut, bracesAfter?_append_cons (by decide) (by decide),
    Option.bind_eq_some_iff] at after
  obtain ⟨depth, front, back⟩ := after
  refine ⟨depth, front, back, fun own => ?_⟩
  cases eq_zero_of_splitEquals cut rfl front own
  exact {
    outside := front
    balancedKey :=
      isBalanced_normalizeKey (isBalanced_iff.2 (countPairs_of_bracesAfter? front))
    balancedValue := isBalanced_trim (isBalanced_iff.2 (countPairs_of_bracesAfter? back)) }

def parametersOf (inside : List Char) : List (List Char) := (splitBars 0 0 inside).tail

/-- A named value comes from a parameter that was cut into its key and its text. -/
theorem exists_parameter_of_named {parameters : List (List Char)} {node : Node}
    {name text : String} (found : (parameters.foldl addParameter node).named.get? name = some text) :
    node.named.get? name = some text ∨
      ∃ parameter ∈ parameters, ∃ key value, splitEquals 0 parameter = some (key, value) ∧
        name = String.ofList (normalizeKey key) ∧ text = String.ofList (trim value) := by
  induction parameters generalizing node with
  | nil => exact Or.inl found
  | cons parameter parameters ih =>
    rcases ih found with earlier | ⟨other, member, rest⟩
    · rw [addParameter] at earlier
      cases cut : splitEquals 0 parameter with
      | none =>
        simp only [cut] at earlier
        exact Or.inl earlier
      | some parts =>
        obtain ⟨key, value⟩ := parts
        simp only [cut] at earlier
        split at earlier
        · exact Or.inl earlier
        · rw [Catalog.get?_insert] at earlier
          split at earlier
          · next same =>
            cases earlier
            exact Or.inr ⟨parameter, List.mem_cons_self, key, value, cut, same, rfl⟩
          · exact Or.inl earlier
    · exact Or.inr ⟨other, List.mem_cons_of_mem _ member, rest⟩

/-- Each parameter of each template on a page is cut outside of its nested templates, unless one of
them holds a stray `]]` in front of the separator, and the named values of a node are what its
parameters were cut into. -/
theorem parse_cutOutside (content : String) :
    parse content = (insides (stripComments content.toList)).filterMap nodeOf? ∧
      ∀ inside ∈ insides (stripComments content.toList),
        (∀ parameter ∈ parametersOf inside, ∀ key value,
          splitEquals 0 parameter = some (key, value) →
          ∃ depth, bracesAfter? 0 key = some depth ∧ bracesAfter? depth value = some 0 ∧
            (closesOwn 0 0 key = true → CutOutside key value)) ∧
        ∀ node, nodeOf? inside = some node → ∀ name text, node.named.get? name = some text →
          ∃ parameter ∈ parametersOf inside, ∃ key value,
            splitEquals 0 parameter = some (key, value) ∧
            name = String.ofList (normalizeKey key) ∧ text = String.ofList (trim value) := by
  refine ⟨collect_eq_filterMap _, fun inside member => ⟨?_, ?_⟩⟩
  · intro parameter listed key value cut
    obtain ⟨first, others, pieces, -, later⟩ :=
      bracesAfter?_of_splitBars 0 (bracesAfter?_of_mem_insides member)
    rw [parametersOf, pieces, List.tail_cons] at listed
    exact cutOutside_of_splitEquals (later parameter listed) cut
  · intro node read name text found
    rw [parametersOf]
    cases pieces : splitBars 0 0 inside with
    | nil => exact absurd pieces (splitBars_ne_nil 0 0 inside)
    | cons first parameters =>
      rw [nodeOf?, pieces] at read
      simp only at read
      split at read
      · cases read
        rcases exists_parameter_of_named found with nothing | cut
        · cases nothing
        · exact cut
      · cases read

/-- A key with a link in a nested template, and a value with a nested template. -/
theorem parse_cutOutside_link :
    ("x|a{{b|[[c]]}}=d{{e}}".toList ∈ insides (stripComments "{{x|a{{b|[[c]]}}=d{{e}}}}".toList) ∧
      "a{{b|[[c]]}}=d{{e}}".toList ∈ parametersOf "x|a{{b|[[c]]}}=d{{e}}".toList ∧
      splitEquals 0 "a{{b|[[c]]}}=d{{e}}".toList =
        some ("a{{b|[[c]]}}".toList, "d{{e}}".toList) ∧
      closesOwn 0 0 "a{{b|[[c]]}}".toList = true) ∧
    CutOutside "a{{b|[[c]]}}".toList "d{{e}}".toList := by
  have inside : "x|a{{b|[[c]]}}=d{{e}}".toList ∈
      insides (stripComments "{{x|a{{b|[[c]]}}=d{{e}}}}".toList) := by decide +kernel
  have listed : "a{{b|[[c]]}}=d{{e}}".toList ∈ parametersOf "x|a{{b|[[c]]}}=d{{e}}".toList := by
    decide +kernel
  have cut : splitEquals 0 "a{{b|[[c]]}}=d{{e}}".toList =
      some ("a{{b|[[c]]}}".toList, "d{{e}}".toList) := by decide +kernel
  have own : closesOwn 0 0 "a{{b|[[c]]}}".toList = true := by decide +kernel
  obtain ⟨-, -, -, outside⟩ := ((parse_cutOutside _).2 _ inside).1 _ listed _ _ cut
  exact ⟨⟨inside, listed, cut, own⟩, outside own⟩

/-- A stray `]]` in a nested template: the template is cut in two at its own equals sign, and neither
the key nor the value is balanced. -/
theorem parse_cutInTwo :
    parse "{{x|a{{b]]=c}}}}" =
      [{ name := "X", named := Catalog.ofList [("a\x7b\x7bb]]", "c\x7d\x7d")] },
        { name := "B]]=c" }] ∧
    isBalanced "a\x7b\x7bb]]".toList = false ∧ isBalanced "c\x7d\x7d".toList = false := by
  decide +kernel

end SaveManifest.Template
