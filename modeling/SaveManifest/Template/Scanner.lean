/-!
# Scanning wikitext

The four scans that take page text apart: comments are cut out, the end of a template is found,
the inside of a template is cut at its bars, and a parameter at its equals sign. Each scan goes
from left to right and looks at two characters at a time; `{{`, `}}`, `[[` and `]]` are taken
as pairs, without overlap, and a closing pair without an opening one changes no depth.

`splitClosing_append` and `joinBars_splitBars` say that nothing is lost: what a scan cuts
apart can be put together again.
-/

namespace SaveManifest.Template

/-- The text behind the end of a comment; nothing when the comment has no end. -/
def dropComment : List Char → List Char
  | [] => []
  | '-' :: '-' :: '>' :: rest => rest
  | _ :: rest => dropComment rest

theorem dropComment_length (text : List Char) : (dropComment text).length ≤ text.length := by
  fun_induction dropComment text <;> simp only [List.length_cons, List.length_nil] <;> omega

/-- The text without its comments. A comment without an end reaches to the end of the text. -/
def stripComments : List Char → List Char
  | [] => []
  | '<' :: '!' :: '-' :: '-' :: rest => stripComments (dropComment rest)
  | c :: rest => c :: stripComments rest
termination_by text => text.length
decreasing_by
  · have := dropComment_length rest
    simp only [List.length_cons]
    omega
  · simp

/-- The text up to the `}}` that closes a template, and the text behind it; `none` when the
template is not closed. `depth` counts the templates opened inside it. -/
def splitClosing (depth : Nat) : List Char → Option (List Char × List Char)
  | [] => none
  | '{' :: '{' :: rest =>
    (splitClosing (depth + 1) rest).map fun (inner, behind) => ('{' :: '{' :: inner, behind)
  | '}' :: '}' :: rest =>
    match depth with
    | 0 => some ([], rest)
    | depth + 1 =>
      (splitClosing depth rest).map fun (inner, behind) => ('}' :: '}' :: inner, behind)
  | c :: rest => (splitClosing depth rest).map fun (inner, behind) => (c :: inner, behind)

/-- The text is what stands before the closing braces, the braces, and what stands behind. -/
theorem splitClosing_append {depth : Nat} {text inner behind : List Char}
    (closed : splitClosing depth text = some (inner, behind)) :
    text = inner ++ '}' :: '}' :: behind := by
  fun_induction splitClosing depth text generalizing inner behind with
  | case1 => simp at closed
  | case2 depth rest ih =>
    obtain ⟨⟨i, b⟩, found, shape⟩ := Option.map_eq_some_iff.1 closed
    simp only [Prod.mk.injEq] at shape
    obtain ⟨rfl, rfl⟩ := shape
    simp [ih found]
  | case3 rest =>
    simp only [Option.some.injEq, Prod.mk.injEq] at closed
    obtain ⟨rfl, rfl⟩ := closed
    simp
  | case4 rest depth ih =>
    obtain ⟨⟨i, b⟩, found, shape⟩ := Option.map_eq_some_iff.1 closed
    simp only [Prod.mk.injEq] at shape
    obtain ⟨rfl, rfl⟩ := shape
    simp [ih found]
  | case5 depth c rest _ _ ih =>
    obtain ⟨⟨i, b⟩, found, shape⟩ := Option.map_eq_some_iff.1 closed
    simp only [Prod.mk.injEq] at shape
    obtain ⟨rfl, rfl⟩ := shape
    simp [ih found]

theorem splitClosing_length {depth : Nat} {text inner behind : List Char}
    (closed : splitClosing depth text = some (inner, behind)) :
    inner.length + behind.length + 2 = text.length := by
  rw [splitClosing_append closed]
  simp only [List.length_append, List.length_cons]
  omega

/-- A character put in front of the first of several pieces. -/
def prepend (c : Char) : List (List Char) → List (List Char)
  | [] => [[c]]
  | piece :: pieces => (c :: piece) :: pieces

/-- The pieces of the inside of a template between the bars that stand outside nested templates
and links: the name and then the parameters. -/
def splitBars (braces brackets : Nat) : List Char → List (List Char)
  | [] => [[]]
  | '{' :: '{' :: rest => prepend '{' (prepend '{' (splitBars (braces + 1) brackets rest))
  | '}' :: '}' :: rest => prepend '}' (prepend '}' (splitBars (braces - 1) brackets rest))
  | '[' :: '[' :: rest => prepend '[' (prepend '[' (splitBars braces (brackets + 1) rest))
  | ']' :: ']' :: rest => prepend ']' (prepend ']' (splitBars braces (brackets - 1) rest))
  | c :: rest =>
    if c = '|' ∧ braces = 0 ∧ brackets = 0 then [] :: splitBars braces brackets rest
    else prepend c (splitBars braces brackets rest)

/-- The key and the value of a parameter, cut at the first equals sign outside nested templates
and links; `none` when there is none. One depth counts both kinds of nesting. -/
def splitEquals (depth : Nat) : List Char → Option (List Char × List Char)
  | [] => none
  | '{' :: '{' :: rest =>
    (splitEquals (depth + 1) rest).map fun (key, value) => ('{' :: '{' :: key, value)
  | '[' :: '[' :: rest =>
    (splitEquals (depth + 1) rest).map fun (key, value) => ('[' :: '[' :: key, value)
  | '}' :: '}' :: rest =>
    (splitEquals (depth - 1) rest).map fun (key, value) => ('}' :: '}' :: key, value)
  | ']' :: ']' :: rest =>
    (splitEquals (depth - 1) rest).map fun (key, value) => (']' :: ']' :: key, value)
  | c :: rest =>
    if c = '=' ∧ depth = 0 then some ([], rest)
    else (splitEquals depth rest).map fun (key, value) => (c :: key, value)

def joinBars : List (List Char) → List Char
  | [] => []
  | [piece] => piece
  | piece :: pieces => piece ++ '|' :: joinBars pieces

theorem joinBars_prepend (c : Char) (pieces : List (List Char)) (some_piece : pieces ≠ []) :
    joinBars (prepend c pieces) = c :: joinBars pieces := by
  cases pieces with
  | nil => exact absurd rfl some_piece
  | cons piece others => cases others <;> simp [prepend, joinBars]

theorem prepend_ne_nil (c : Char) (pieces : List (List Char)) : prepend c pieces ≠ [] := by
  cases pieces <;> simp [prepend]

theorem splitBars_ne_nil (braces brackets : Nat) (text : List Char) :
    splitBars braces brackets text ≠ [] := by
  fun_cases splitBars braces brackets text <;> simp [prepend_ne_nil]

/-- Cutting at bars loses nothing but the bars. -/
theorem joinBars_splitBars (braces brackets : Nat) (text : List Char) :
    joinBars (splitBars braces brackets text) = text := by
  fun_induction splitBars braces brackets text with
  | case1 => rfl
  | case2 _ _ _ ih => simp [joinBars_prepend, prepend_ne_nil, splitBars_ne_nil, ih]
  | case3 _ _ _ ih => simp [joinBars_prepend, prepend_ne_nil, splitBars_ne_nil, ih]
  | case4 _ _ _ ih => simp [joinBars_prepend, prepend_ne_nil, splitBars_ne_nil, ih]
  | case5 _ _ _ ih => simp [joinBars_prepend, prepend_ne_nil, splitBars_ne_nil, ih]
  | case6 braces brackets c rest _ _ _ _ bar ih =>
    obtain ⟨rfl, _, _⟩ := bar
    cases found : splitBars braces brackets rest with
    | nil => exact absurd found (splitBars_ne_nil _ _ _)
    | cons piece pieces => rw [found] at ih; simp [joinBars, ih]
  | case7 braces brackets c rest _ _ _ _ _ ih =>
    simp [joinBars_prepend, splitBars_ne_nil, ih]

end SaveManifest.Template
