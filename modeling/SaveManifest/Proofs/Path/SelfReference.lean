import SaveManifest.Proofs.Path.Resolved
import SaveManifest.Proofs.Text.Folding

/-!
# Placeholders that bring themselves back

A placeholder whose value holds its own marker is never resolved. Substitution of other
placeholders keeps its marker, whatever their values are, because markers of different tokens do not
overlap (`hasMarker_substitute_of_distinct`). Its own substitution puts the value, and so a marker,
where a marker stood (`hasMarker_replaceMarkers`). What ends the passes is their limit, for this
placeholder or for one before it.
-/

namespace SaveManifest.Path

open SaveManifest.Text

theorem braceless_of_not_mem {text : List Char} (free : '{' ∉ text ∧ '}' ∉ text) :
    Braceless text := by
  intro c member
  constructor
  · intro opens
    have brace := eq_of_fold_eq (by decide) (by decide) opens
    exact free.1 (brace ▸ member)
  · intro closes
    have brace := eq_of_fold_eq (by decide) (by decide) closes
    exact free.2 (brace ▸ member)

theorem hasMarker_mono {token part text : List Char} (inside : part <:+: text)
    (has : hasMarker token part = true) : hasMarker token text = true := by
  obtain ⟨marker, stands, isMarker⟩ := hasMarker_iff.1 has
  exact hasMarker_iff.2 ⟨marker, stands.trans inside, isMarker⟩

variable {token : List Char} {table : List Placeholder}

/-- Substitution breaks no marker of a token that is none of the table's. -/
theorem hasMarker_substitute_of_distinct (free : Braceless token)
    (otherFree : ∀ other ∈ table, Braceless other.token.toList)
    (distinct : ∀ other ∈ table, folded token ≠ folded other.token.toList) {text : List Char}
    (has : hasMarker token text = true) : hasMarker token (substitute table text) = true := by
  fun_induction substitute table text with
  | case1 => cases has
  | case2 c rest other behind found ih =>
    obtain ⟨another, dropped⟩ := dropMarker_of_markerAt? found
    obtain ⟨tail, rfl, passive, -⟩ := dropMarker_cons (otherFree other another) dropped
    rw [hasMarker, Bool.or_eq_true, hasMarker_passive passive] at has
    rcases has with here | later
    · obtain ⟨rest, droppedToo⟩ := Option.isSome_iff_exists.1 here
      have same := (dropMarker_unique free (otherFree other another) droppedToo dropped).1
      exact absurd same (distinct other another)
    · exact hasMarker_mono (List.suffix_append _ _).isInfix (ih later)
  | case3 c rest absent ih =>
    rw [hasMarker, Bool.or_eq_true] at has ⊢
    rcases has with here | later
    · obtain ⟨behind, dropped⟩ := Option.isSome_iff_exists.1 here
      obtain ⟨tail, rfl, passive, stands⟩ := dropMarker_cons free dropped
      rw [substitute_passive passive, stands]
      exact Or.inl rfl
    · exact Or.inr (ih later)

/-- A replacement stands where a marker stood. -/
theorem infix_replaceMarkers {replacement text : List Char} (has : hasMarker token text = true) :
    replacement <:+: replaceMarkers token replacement text := by
  fun_induction replaceMarkers token replacement text with
  | case1 => cases has
  | case2 c rest behind found ih => exact (List.prefix_append _ _).isInfix
  | case3 c rest absent ih =>
    rw [hasMarker, absent, Option.isSome_none, Bool.false_or] at has
    exact (ih has).trans (List.suffix_cons c _).isInfix

/-- A replacement that holds the marker brings it back. -/
theorem hasMarker_replaceMarkers {replacement text : List Char}
    (again : hasMarker token replacement = true) (has : hasMarker token text = true) :
    hasMarker token (replaceMarkers token replacement text) = true :=
  hasMarker_mono (infix_replaceMarkers has) again

/-! ### Passes -/

/-- The passes over a replacement that holds its own marker end at their limit. -/
theorem replaceUntilGone_of_selfReference {replacement : List Char}
    (again : hasMarker token replacement = true) (passes : Nat) {path : List Char}
    (has : hasMarker token path = true) :
    ∃ left, replaceUntilGone token replacement passes path = .error (.endlessPlaceholder left) := by
  induction passes generalizing path with
  | zero =>
    rw [replaceUntilGone, if_pos has]
    exact ⟨_, rfl⟩
  | succ passes ih =>
    rw [replaceUntilGone, if_pos has]
    exact ih (hasMarker_replaceMarkers again has)

/-- Rewriting a path ended for an unsupported path, or the marker of a token still stands. -/
def StillHolds (token : List Char) : Except PathError (List Char) → Prop
  | .ok path => hasMarker token path = true
  | .error error => error.group = .unsupportedPath

/-- The passes of one placeholder leave the markers of another token. -/
theorem stillHolds_replaceUntilGone {other : Placeholder} (free : Braceless token)
    (otherFree : Braceless other.token.toList)
    (distinct : folded token ≠ folded other.token.toList) (passes : Nat) {path : List Char}
    (has : hasMarker token path = true) :
    StillHolds token
      (replaceUntilGone other.token.toList other.normalized.toList passes path) := by
  induction passes generalizing path with
  | zero =>
    rw [replaceUntilGone]
    split
    · exact rfl
    · exact has
  | succ passes ih =>
    rw [replaceUntilGone]
    split
    · apply ih
      rw [replaceMarkers_eq_substitute]
      apply hasMarker_substitute_of_distinct free _ _ has
      · simpa using otherFree
      · simpa using distinct
    · exact has

/-! ### The table -/

/-- A step for one placeholder leaves the markers of another token. -/
theorem stillHolds_applyPlaceholder {other : Placeholder} (free : Braceless token)
    (otherFree : Braceless other.token.toList)
    (distinct : folded token ≠ folded other.token.toList) {path : List Char}
    (has : hasMarker token path = true) : StillHolds token (applyPlaceholder path other) := by
  unfold applyPlaceholder
  split
  · exact has
  · split
    · exact rfl
    · exact stillHolds_replaceUntilGone free otherFree distinct maxPasses has

theorem stillHolds_foldlM (free : Braceless token)
    (otherFree : ∀ other ∈ table, Braceless other.token.toList)
    (distinct : ∀ other ∈ table, folded token ≠ folded other.token.toList) {path : List Char}
    (has : hasMarker token path = true) :
    StillHolds token (table.foldlM applyPlaceholder path) := by
  induction table generalizing path with
  | nil => exact has
  | cons other table ih =>
    obtain ⟨first, later⟩ := List.forall_mem_cons.1 otherFree
    obtain ⟨apart, others⟩ := List.forall_mem_cons.1 distinct
    have step := stillHolds_applyPlaceholder free first apart has
    rw [List.foldlM_cons]
    cases outcome : applyPlaceholder path other with
    | error error =>
      rw [outcome] at step
      exact step
    | ok next =>
      rw [outcome] at step
      exact ih later others step

/-- The step for a placeholder whose value holds its own marker is refused. -/
theorem applyPlaceholder_of_selfReference {placeholder : Placeholder}
    (again : hasMarker placeholder.token.toList placeholder.normalized.toList = true)
    {path : List Char} (has : hasMarker placeholder.token.toList path = true) :
    ∃ error, applyPlaceholder path placeholder = .error error ∧ error.group = .unsupportedPath := by
  rw [applyPlaceholder, has, Bool.not_true, if_neg Bool.false_ne_true]
  split
  · exact ⟨_, rfl, rfl⟩
  · obtain ⟨left, endless⟩ := replaceUntilGone_of_selfReference again maxPasses has
    exact ⟨_, endless, rfl⟩

/-- A path with the marker of a placeholder whose value holds that marker again is refused as
unsupported, whatever the other placeholders of the table stand for and wherever it stands among
them. -/
theorem resolveWith_of_selfReference
    (free : ∀ other ∈ table, '{' ∉ other.token.toList ∧ '}' ∉ other.token.toList)
    (distinct : table.Pairwise fun left right =>
      folded left.token.toList ≠ folded right.token.toList)
    {placeholder : Placeholder} (member : placeholder ∈ table)
    (again : hasMarker placeholder.token.toList placeholder.normalized.toList = true)
    {raw : String} (paired : countPairs '{' raw.toList = countPairs '}' raw.toList)
    (used : hasMarker placeholder.token.toList raw.toList = true) :
    ∃ error, resolveWith table raw = .error error ∧ error.group = .unsupportedPath := by
  have balanced : isBalanced raw.toList = true := beq_iff_eq.2 paired
  have braceless : ∀ other ∈ table, Braceless other.token.toList :=
    fun other another => braceless_of_not_mem (free other another)
  obtain ⟨front, back, rfl⟩ := List.append_of_mem member
  have before : ∀ other ∈ front,
      folded placeholder.token.toList ≠ folded other.token.toList := by
    intro other earlier
    exact ((List.pairwise_append.1 distinct).2.2 other earlier placeholder List.mem_cons_self).symm
  have kept := stillHolds_foldlM (braceless placeholder member)
    (fun other earlier => braceless other (List.mem_append_left _ earlier)) before used
  rw [resolveWith, balanced, Bool.not_true, if_neg Bool.false_ne_true, List.foldlM_append]
  cases outcome : front.foldlM applyPlaceholder raw.toList with
  | error error =>
    rw [outcome] at kept
    exact ⟨error, rfl, kept⟩
  | ok path =>
    rw [outcome] at kept
    obtain ⟨error, refused, group⟩ := applyPlaceholder_of_selfReference again kept
    have stopped : (placeholder :: back).foldlM applyPlaceholder path = .error error := by
      rw [List.foldlM_cons, refused]
      rfl
    refine ⟨error, ?_, group⟩
    change ((placeholder :: back).foldlM applyPlaceholder path >>= _) = _
    rw [stopped]
    rfl

/-- A table in which the first placeholder brings in the marker of the second, the second its own in
other letters, and the third one stands behind them. -/
theorem resolveWith_of_selfReference_behind :
    let loop : Placeholder := { token := "loop", normalized := "../{{path|LOOP}}" }
    let table : List Placeholder :=
      [{ token := "save", normalized := "{{P|loop}}/{{P|end}}" }, loop,
        { token := "end", normalized := "<end>" }]
    let raw := "{{P|save}}/{{P|loop}}"
    loop ∈ table ∧ hasMarker loop.token.toList raw.toList = true ∧
      ∃ error, resolveWith table raw = .error error ∧ error.group = .unsupportedPath := by
  intro loop table raw
  have member : loop ∈ table := List.mem_cons_of_mem _ List.mem_cons_self
  have used : hasMarker loop.token.toList raw.toList = true := by decide +kernel
  refine ⟨member, used, ?_⟩
  exact resolveWith_of_selfReference (by decide +kernel) (by decide +kernel) member
    (by decide +kernel) (by decide +kernel) used

end SaveManifest.Path
