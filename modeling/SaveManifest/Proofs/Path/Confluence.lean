import SaveManifest.Proofs.Path.Substitution

/-!
# Resolution is one substitution

Resolution takes the placeholders of its table one after the other and rewrites the whole text
each time. Over a table that keeps apart, the text after some placeholders is the substitution with
just these (`foldlM_applyPlaceholder`), so no placeholder is replaced twice and the limit on the
passes is never met. `resolveWith_perm_known` puts this together for the known placeholders in
any order.
-/

namespace SaveManifest.Path

open SaveManifest.Text

variable {table finished : List Placeholder}

theorem replaceMarkers_eq_substitute (placeholder : Placeholder) (text : List Char) :
    replaceMarkers placeholder.token.toList placeholder.normalized.toList text =
      substitute [placeholder] text := by
  have one : ∀ text, markerAt? [placeholder] text =
      (dropMarker placeholder.token.toList text).map fun behind => (placeholder, behind) := by
    intro text
    rw [markerAt?, List.findSome?_cons, List.findSome?_nil]
    cases dropMarker placeholder.token.toList text <;> rfl
  fun_induction replaceMarkers placeholder.token.toList placeholder.normalized.toList text with
  | case1 => rw [substitute]
  | case2 c rest behind found ih =>
    rw [substitute_found ((one _).trans (by rw [found]; rfl)), ih]
  | case3 c rest absent ih =>
    rw [substitute_absent ((one _).trans (by rw [absent]; rfl)), ih]

/-- Without a marker there is nothing to replace, however many passes are left. -/
theorem replaceUntilGone_of_absent {token replacement path : List Char}
    (absent : hasMarker token path = false) (passes : Nat) :
    replaceUntilGone token replacement passes path = .ok path := by
  cases passes with
  | zero => rw [replaceUntilGone, absent]; rfl
  | succ passes => rw [replaceUntilGone, absent]; rfl

theorem substitute_of_absent {placeholder : Placeholder} {text : List Char}
    (absent : hasMarker placeholder.token.toList text = false) :
    substitute [placeholder] text = text := by
  rw [← replaceMarkers_eq_substitute]
  fun_induction replaceMarkers placeholder.token.toList placeholder.normalized.toList text with
  | case1 => rfl
  | case2 c rest behind found ih => simp [hasMarker, found] at absent
  | case3 c rest none ih =>
    rw [hasMarker, none, Option.isSome_none, Bool.false_or] at absent
    rw [ih absent]

/-- One pass takes all markers of a placeholder away. -/
theorem applyPlaceholder_substitute (separated : Separated table)
    {placeholder : Placeholder} (inside : finished ++ [placeholder] ⊆ table)
    (supported : placeholder.unsupported = false) (raw : List Char) :
    applyPlaceholder (substitute finished raw) placeholder =
      .ok (substitute (finished ++ [placeholder]) raw) := by
  have member : placeholder ∈ table := inside (by simp)
  have onward := substitute_append (separated.subset inside) raw
  have gone : hasMarker placeholder.token.toList
      (substitute (finished ++ [placeholder]) raw) = false := by
    rw [Bool.eq_false_iff]
    intro left
    have kept := ((hasMarker_substitute separated inside member raw).1 left).2
    exact kept (by simp)
  rw [applyPlaceholder]
  cases present : hasMarker placeholder.token.toList (substitute finished raw) with
  | false =>
    rw [← onward, substitute_of_absent present]
    rfl
  | true =>
    have first : maxPasses = 99 + 1 := rfl
    rw [Bool.not_true, if_neg Bool.false_ne_true, supported, if_neg Bool.false_ne_true, first,
      replaceUntilGone, if_pos present, replaceMarkers_eq_substitute, onward]
    exact replaceUntilGone_of_absent gone 99

def firstUnsupported? (table : List Placeholder) (raw : List Char) : Option Placeholder :=
  table.find? fun placeholder => placeholder.unsupported && hasMarker placeholder.token.toList raw

/-- A placeholder that is supported or not used can be left out of the search. -/
theorem firstUnsupported?_cons {placeholder : Placeholder} {raw : List Char}
    (passes : (placeholder.unsupported && hasMarker placeholder.token.toList raw) = false)
    (todo : List Placeholder) :
    firstUnsupported? (placeholder :: todo) raw = firstUnsupported? todo raw := by
  rw [firstUnsupported?, List.find?_cons, passes]
  rfl

theorem firstUnsupported?_concat {placeholder : Placeholder} {raw : List Char}
    (passes : (placeholder.unsupported && hasMarker placeholder.token.toList raw) = false)
    (unused : firstUnsupported? finished raw = none) :
    firstUnsupported? (finished ++ [placeholder]) raw = none := by
  unfold firstUnsupported? at unused ⊢
  rw [List.find?_append, unused, Option.none_or, List.find?_cons, passes]
  rfl

/-- Substitution leaves the markers of unsupported placeholders as they are, if the text uses none
of those that were replaced. -/
theorem hasMarker_of_unsupported (separated : Separated table) {placeholder : Placeholder}
    (inside : finished ++ [placeholder] ⊆ table) (unsupported : placeholder.unsupported = true)
    {raw : List Char} (unused : firstUnsupported? finished raw = none) :
    hasMarker placeholder.token.toList (substitute finished raw) =
      hasMarker placeholder.token.toList raw := by
  have member : placeholder ∈ table := inside (by simp)
  have before : finished ⊆ table := fun other another => inside (List.mem_append_left _ another)
  rw [Bool.eq_iff_iff, hasMarker_substitute separated before member]
  constructor
  · exact And.left
  · intro used
    refine ⟨used, fun seen => ?_⟩
    have checked := List.find?_eq_none.1 unused placeholder seen
    rw [unsupported, used] at checked
    exact checked rfl

/-- The text after some placeholders is the substitution with just these, and what comes next
is decided by the text at the start. -/
theorem foldlM_applyPlaceholder (separated : Separated table) (todo : List Placeholder)
    (inside : finished ++ todo ⊆ table) (raw : List Char)
    (unused : firstUnsupported? finished raw = none) :
    todo.foldlM applyPlaceholder (substitute finished raw) =
      match firstUnsupported? todo raw with
      | some placeholder => .error (.unsupportedPlaceholder placeholder.token)
      | none => .ok (substitute (finished ++ todo) raw) := by
  induction todo generalizing finished with
  | nil => rw [List.append_nil]; rfl
  | cons placeholder todo ih =>
    have onward : finished ++ [placeholder] ++ todo ⊆ table := by simpa using inside
    have step : finished ++ [placeholder] ⊆ table :=
      fun other another => onward (List.mem_append_left _ another)
    have whole := ih onward
    rw [List.append_assoc, List.singleton_append] at whole
    rw [List.foldlM_cons]
    cases unsupported : placeholder.unsupported with
    | false =>
      have passes :
          (placeholder.unsupported && hasMarker placeholder.token.toList raw) = false := by
        rw [unsupported, Bool.false_and]
      rw [applyPlaceholder_substitute separated step unsupported, firstUnsupported?_cons passes]
      exact whole (firstUnsupported?_concat passes unused)
    | true =>
      have same := hasMarker_of_unsupported separated step unsupported unused
      cases used : hasMarker placeholder.token.toList raw with
      | true =>
        have here : firstUnsupported? (placeholder :: todo) raw = some placeholder := by
          rw [firstUnsupported?, List.find?_cons, unsupported, used]
          rfl
        rw [applyPlaceholder, same, used, here, unsupported]
        rfl
      | false =>
        have passes :
            (placeholder.unsupported && hasMarker placeholder.token.toList raw) = false := by
          rw [used, Bool.and_false]
        have onto := substitute_append (separated.subset step) raw
        rw [substitute_of_absent (same.trans used)] at onto
        rw [applyPlaceholder, same, used, firstUnsupported?_cons passes]
        rw [← onto] at whole
        exact whole (firstUnsupported?_concat passes unused)

/-- Resolution with a table that keeps apart. -/
theorem resolveWith_of_separated (separated : Separated table) (raw : String) :
    resolveWith table raw =
      if isBalanced raw.toList then
        match firstUnsupported? table raw.toList with
        | some placeholder => .error (.unsupportedPlaceholder placeholder.token)
        | none => .ok {
            path := String.ofList (normalizeSeparators (substitute table raw.toList))
            kind := kindWith table raw.toList }
      else .error (.unbalancedBraces raw) := by
  have nothing : substitute [] raw.toList = raw.toList := by
    generalize raw.toList = text
    induction text with
    | nil => rw [substitute]
    | cons c rest ih => rw [substitute_absent rfl, ih]
  have start : [] ++ table ⊆ table := List.Subset.refl table
  have fold := foldlM_applyPlaceholder separated table start raw.toList rfl
  rw [nothing, List.nil_append] at fold
  rw [resolveWith, fold]
  cases isBalanced raw.toList with
  | false => rfl
  | true => cases firstUnsupported? table raw.toList <;> rfl

/-- Among the known placeholders only the 64-bit view of the registry is unsupported. -/
theorem firstUnsupported?_perm_known (reordered : table.Perm Placeholder.known)
    (raw : List Char) :
    (firstUnsupported? table raw).map (·.token) =
      if hasMarker "wow64".toList raw then some "wow64" else none := by
  obtain ⟨view, only, token⟩ : ∃ view,
      Placeholder.known.filter (·.unsupported) = [view] ∧ view.token = "wow64" :=
    ⟨_, rfl, rfl⟩
  have same : table.filter (·.unsupported) = [view] :=
    List.perm_singleton.1 (only ▸ reordered.filter _)
  have search : firstUnsupported? table raw =
      (table.filter (·.unsupported)).find? fun placeholder =>
        hasMarker placeholder.token.toList raw := by
    rw [List.find?_filter]
    simp only [firstUnsupported?, Bool.decide_and, Bool.decide_eq_true]
  rw [search, same, List.find?_cons, List.find?_nil, token]
  cases hasMarker "wow64".toList raw with
  | true => rw [if_pos rfl, Option.map_some, token]
  | false => rfl

/-- What resolution gives for the known placeholders in any order. -/
theorem resolveWith_reordered (reordered : table.Perm Placeholder.known) (raw : String) :
    resolveWith table raw =
      (if countPairs '{' raw.toList ≠ countPairs '}' raw.toList then
        .error (.unbalancedBraces raw)
      else if hasMarker "wow64".toList raw.toList then
        .error (.unsupportedPlaceholder "wow64")
      else .ok {
        path := String.ofList (normalizeSeparators (substitute Placeholder.known raw.toList))
        kind := kind raw }) := by
  have separated : Separated table := separated_known.subset reordered.subset
  have scan := substitute_congr separated (fun placeholder => reordered.mem_iff) raw.toList
  have kinds : kindWith table raw.toList = kind raw := by
    rw [kind, kindWith, kindWith, reordered.any_eq]
  have refused := firstUnsupported?_perm_known reordered raw.toList
  rw [resolveWith_of_separated separated, scan, kinds, isBalanced]
  by_cases paired : countPairs '{' raw.toList = countPairs '}' raw.toList
  · rw [if_pos (beq_iff_eq.2 paired), if_neg (not_not_intro paired)]
    cases used : hasMarker "wow64".toList raw.toList with
    | true =>
      rw [used, if_pos rfl, Option.map_eq_some_iff] at refused
      obtain ⟨placeholder, found, token⟩ := refused
      rw [found, if_pos rfl, ← token]
    | false =>
      rw [used, if_neg Bool.false_ne_true, Option.map_eq_none_iff] at refused
      rw [refused, if_neg Bool.false_ne_true]
  · rw [if_neg (fun same => paired (beq_iff_eq.1 same)), if_pos paired]

/-- Resolution gives the same for the known placeholders in any order: a text with unpaired braces
is refused, then one with the marker of the unsupported placeholder, and any other text is
substituted in one scan, after which its separators are normalized. -/
theorem resolveWith_perm_known (table : List Placeholder)
    (reordered : table.Perm Placeholder.known) (raw : String) :
    resolveWith table raw = resolve raw ∧
      resolve raw =
        (if countPairs '{' raw.toList ≠ countPairs '}' raw.toList then
          .error (.unbalancedBraces raw)
        else if hasMarker "wow64".toList raw.toList then
          .error (.unsupportedPlaceholder "wow64")
        else .ok {
          path := String.ofList (normalizeSeparators (substitute Placeholder.known raw.toList))
          kind := kind raw }) ∧
      ∀ path, resolveWith table raw ≠ .error (.endlessPlaceholder path) := by
  have here := resolveWith_reordered reordered raw
  have known := resolveWith_reordered (.refl Placeholder.known) raw
  refine ⟨here.trans known.symm, known, ?_⟩
  intro path
  rw [here]
  split
  · intro impossible; cases impossible
  · split
    · intro impossible; cases impossible
    · intro impossible; cases impossible

/-- The known placeholders in reverse order, on a path with a marker inside braces that look like
another marker, and with letters beyond ASCII. -/
theorem resolveWith_reverse_known :
    Placeholder.known.reverse.Perm Placeholder.known ∧
      resolveWith Placeholder.known.reverse "{{P|{{P|ſteam}}}}\\{{path|UID}}" =
        .ok { path := "{{P|<root>}}/<storeUserId>", kind := .file } := by
  have reordered := List.reverse_perm Placeholder.known
  obtain ⟨same, value, -⟩ :=
    resolveWith_perm_known _ reordered "{{P|{{P|ſteam}}}}\\{{path|UID}}"
  rw [if_neg (by decide +kernel), if_neg (by decide +kernel)] at value
  refine ⟨reordered, same.trans (value.trans ?_)⟩
  congr 2
  · decide +kernel
  · decide +kernel

end SaveManifest.Path
