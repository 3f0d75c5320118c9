import SaveManifest.Template.Parser

/-!
# The insides of templates

Reading a text goes from template to template. Where it meets a closed one, it reads the inside, then
what is nested in that, then what stands behind (`collect_braces`); over everything else it steps
character by character. So all nodes of a text are read from one list of insides, each inside on its
own (`collect_eq_filterMap`), and what holds of the insides of all texts holds for all nodes.
-/

namespace SaveManifest.Template

theorem collect_cons_of_head {c : Char} {rest : List Char}
    (lone : c = '{' → rest.head? ≠ some '{') : collect (c :: rest) = collect rest := by
  rw [collect]
  rintro tail same rfl
  exact lone same rfl

theorem collect_cons {c : Char} (noOpening : c ≠ '{') (rest : List Char) :
    collect (c :: rest) = collect rest :=
  collect_cons_of_head fun same => absurd same noOpening

theorem collect_append {text : List Char} (noOpening : '{' ∉ text) (rest : List Char) :
    collect (text ++ rest) = collect rest := by
  induction text with
  | nil => rfl
  | cons c tail ih =>
    rw [List.mem_cons, not_or] at noOpening
    rw [List.cons_append, collect_cons (Ne.symm noOpening.1), ih noOpening.2]

theorem collect_braces {rest inner behind : List Char}
    (closed : splitClosing 0 rest = some (inner, behind)) :
    collect ('{' :: '{' :: rest) =
      (nodeOf? inner).toList ++ collect (nestedText inner) ++ collect behind := by
  rw [collect]
  split
  · next absent => rw [closed] at absent; cases absent
  · next again => rw [closed] at again; cases again; rfl

/-- The insides of all templates of a text, each before the ones nested in it. -/
def insides : List Char → List (List Char)
  | [] => []
  | '{' :: '{' :: rest =>
    match _closed : splitClosing 0 rest with
    | none => []
    | some (inner, behind) => inner :: insides (nestedText inner) ++ insides behind
  | _ :: rest => insides rest
termination_by text => text.length
decreasing_by
  · have := splitClosing_length _closed
    have := nestedText_length inner
    simp only [List.length_cons]
    omega
  · have := splitClosing_length _closed
    simp only [List.length_cons]
    omega
  · simp

/-- The nodes of a text are read from its insides, one by one. -/
theorem collect_eq_filterMap (text : List Char) :
    collect text = (insides text).filterMap nodeOf? := by
  fun_induction insides text with
  | case1 => rw [collect]; rfl
  | case2 rest unclosed =>
    rw [collect]
    split
    · rfl
    · next again => rw [unclosed] at again; cases again
  | case3 rest inner behind closed nested later =>
    rw [collect_braces closed, nested, later, List.filterMap_append, List.filterMap_cons]
    cases nodeOf? inner <;> rfl
  | case4 c rest noOpening ih =>
    rw [collect_cons_of_head, ih]
    intro same begins
    cases rest with
    | nil => cases begins
    | cons d rest =>
      cases begins
      exact noOpening rest same rfl

end SaveManifest.Template
