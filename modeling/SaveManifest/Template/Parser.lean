import SaveManifest.Template
import SaveManifest.Template.Scanner
import SaveManifest.Text.Number

/-!
# Reading template nodes from wikitext

All uses of templates on a page, each before the ones nested in its parameters. A template that
is not closed ends the scan of the text it stands in. Calls of parser functions, such as `#if:`,
and references to template arguments are no templates and give no node, but what is nested
in them is read.

A parameter written with a key that is a number counts as positional when the number is at most
`maxGap` past the positions already filled; the positions in between are then empty.
-/

namespace SaveManifest.Template

open SaveManifest.Text

/-- How far past the filled positions a numbered parameter may stand. -/
def maxGap : Nat := 64

/-- The position, counted from one, that a normalized key names when `filled` positions hold
values. -/
def positionOf? (filled : Nat) (key : List Char) : Option Nat :=
  if key.all isDigit then
    (readDigits? 10 key).filter fun index => 0 < index && index ≤ filled + maxGap
  else none

/-- The values with one put at an index counted from zero, after as many empty values as that
needs. -/
def setPosition (values : List String) (index : Nat) (value : String) : List String :=
  (values ++ List.replicate (index + 1 - values.length) "").set index value

/-- The node with one more parameter, as written on the page. -/
def addParameter (node : Node) (parameter : List Char) : Node :=
  match splitEquals 0 parameter with
  | none => { node with positional := node.positional ++ [String.ofList (trim parameter)] }
  | some (key, value) =>
    let key := normalizeKey key
    let value := String.ofList (trim value)
    match positionOf? node.positional.length key with
    | some index => { node with positional := setPosition node.positional (index - 1) value }
    | none => { node with named := node.named.insert (String.ofList key) value }

def isTemplateName (name : List Char) : Bool :=
  !name.isEmpty && name.head? != some '#' && name.head? != some '{' && !name.contains ':'

/-- The node of the inside of a pair of braces. -/
def nodeOf? (inner : List Char) : Option Node :=
  match splitBars 0 0 inner with
  | [] => none
  | name :: parameters =>
    let name := trim name
    if isTemplateName name then
      some (parameters.foldl addParameter { name := String.ofList (normalizeName name) })
    else none

/-- The text behind the first bar of the inside of a pair of braces. -/
def nestedText (inner : List Char) : List Char := joinBars (splitBars 0 0 inner).tail

theorem joinBars_tail_length (pieces : List (List Char)) :
    (joinBars pieces.tail).length ≤ (joinBars pieces).length := by
  match pieces with
  | [] => simp [joinBars]
  | [piece] => simp [joinBars]
  | piece :: second :: others =>
    simp only [joinBars, List.tail_cons, List.length_append, List.length_cons]
    omega

theorem nestedText_length (inner : List Char) : (nestedText inner).length ≤ inner.length := by
  have := joinBars_tail_length (splitBars 0 0 inner)
  rwa [joinBars_splitBars] at this

/-- The nodes of a text without comments. -/
def collect : List Char → List Node
  | [] => []
  | '{' :: '{' :: rest =>
    match _closed : splitClosing 0 rest with
    | none => []
    | some (inner, behind) =>
      (nodeOf? inner).toList ++ collect (nestedText inner) ++ collect behind
  | _ :: rest => collect rest
termination_by text => text.length
decreasing_by
  · have := splitClosing_length _closed
    have := nestedText_length inner
    simp only [List.length_cons]
    omega
  · have := splitClosing_length _closed
    simp only [List.length_cons]
    omega
  · simp

/-- All template nodes of a page, each before the ones nested in it. -/
def parse (content : String) : List Node := collect (stripComments content.toList)

end SaveManifest.Template
