import SaveManifest.Proofs.Yaml.Passage

/-!
# Lines that are ended and indented

The printer ends a line before it begins the next one, unless the line break is there already, and
it indents the lines of a block. The two go together (`endLine_indentLines`).
-/

namespace SaveManifest.Yaml

variable {width : Nat} {text front behind breaks : List Char} {c : Char}

/-! ### Ends of lines -/

theorem exists_endLine_append (text : List Char) : ∃ ending, endLine text = text ++ ending := by
  unfold endLine
  split
  · exact ⟨[], (List.append_nil text).symm⟩
  · exact ⟨_, rfl⟩

theorem endLine_append (visible : behind ≠ []) :
    endLine (front ++ behind) = front ++ endLine behind := by
  obtain ⟨before, last, rfl⟩ : ∃ before last, behind = before ++ [last] :=
    ⟨_, _, (List.dropLast_concat_getLast visible).symm⟩
  rw [endLine, endLine, List.getLast?_concat, ← List.append_assoc, List.getLast?_concat]
  split <;> simp

theorem endLine_cons (visible : behind ≠ []) :
    endLine (c :: behind) = c :: endLine behind := @endLine_append [c] behind visible

theorem endLine_of_flat (last : text.getLast?.any isBreak = false) :
    endLine text = text ++ ['\n'] := by
  rw [endLine, if_neg (by rw [last]; exact Bool.false_ne_true)]

/-- A line that was ended ends in a line break. -/
theorem exists_endLine (text : List Char) :
    ∃ front c, endLine text = front ++ [c] ∧ isBreak c = true := by
  unfold endLine
  split
  · next broken =>
    cases last : text.getLast? with
    | none =>
      rw [last] at broken
      cases broken
    | some c =>
      obtain ⟨front, split⟩ := List.getLast?_eq_some_iff.1 last
      exact ⟨front, c, split, by rwa [last] at broken⟩
  · exact ⟨text, '\n', rfl, isBreak_newline⟩

theorem head?_endLine (visible : text ≠ []) : (endLine text).head? = text.head? := by
  obtain ⟨c, others, rfl⟩ := List.exists_cons_of_ne_nil visible
  obtain ⟨ending, split⟩ := exists_endLine_append (c :: others)
  rw [split]
  rfl

theorem mem_endLine (member : c ∈ text) : c ∈ endLine text := by
  obtain ⟨ending, split⟩ := exists_endLine_append text
  rw [split]
  exact List.mem_append_left _ member

/-- Ending a line adds a line feed at most. -/
theorem forall_mem_endLine {property : Char → Prop} (all : ∀ c ∈ text, property c)
    (newline : property '\n') : ∀ c ∈ endLine text, property c := by
  unfold endLine
  split
  · exact all
  · exact List.forall_mem_append.2 ⟨all, List.forall_mem_singleton.2 newline⟩

theorem atToken_endLine (solid : ∀ behind, atToken (text ++ behind) = true) (behind : List Char) :
    atToken (endLine text ++ behind) = true := by
  obtain ⟨ending, split⟩ := exists_endLine_append text
  rw [split, List.append_assoc]
  exact solid _

/-! ### Indented lines -/

theorem indentLines_breaks (allBreaks : ∀ c ∈ breaks, isBreak c = true) (rest : List Char) :
    indentLines width true (breaks ++ rest) = breaks ++ indentLines width true rest := by
  induction breaks with
  | nil => rfl
  | cons c breaks ih =>
    rw [List.cons_append, indentLines, if_pos (allBreaks c List.mem_cons_self),
      ih fun d member => allBreaks d (List.mem_cons_of_mem _ member), List.cons_append]

theorem indentLines_flat (flat : ∀ c ∈ text, isBreak c = false) (rest : List Char) :
    indentLines width false (text ++ rest) = text ++ indentLines width false rest := by
  induction text with
  | nil => rfl
  | cons c text ih =>
    rw [List.cons_append, indentLines, if_neg (by simp [flat c]), if_neg (by decide),
      ih fun d member => flat d (List.mem_cons_of_mem _ member), List.cons_append]

theorem indentLines_concat (breaks : isBreak c = true) (fresh : Bool) :
    indentLines width fresh (text ++ [c]) = indentLines width fresh text ++ [c] := by
  induction text generalizing fresh with
  | nil => simp [indentLines, breaks]
  | cons d text ih =>
    rw [List.cons_append, indentLines, indentLines, ih, ih]
    split
    · rfl
    · split <;> simp

theorem getLast?_indentLines (fresh : Bool) (text : List Char) :
    (indentLines width fresh text).getLast? = text.getLast? := by
  induction text generalizing fresh with
  | nil => rfl
  | cons c text ih =>
    rw [indentLines]
    split
    · rw [List.getLast?_cons, List.getLast?_cons, ih]
    · split
      · rw [List.getLast?_append, List.getLast?_cons, List.getLast?_cons, ih]
        rfl
      · rw [List.getLast?_cons, List.getLast?_cons, ih]

/-- Ending the last line and indenting the lines go together. -/
theorem endLine_indentLines (text : List Char) :
    endLine (indentLines width true text) = indentLines width true (endLine text) := by
  rw [endLine, endLine, getLast?_indentLines]
  split
  · rfl
  · rw [indentLines_concat isBreak_newline]

end SaveManifest.Yaml
