import SaveManifest.Template

/-!
# Wikitext documents

A page as a tree: plain text, links, and uses of templates whose values are again such trees.
`render` writes a tree as wikitext, and `nodes` lists the template nodes that it holds, each before
the ones nested in its values. Together they say what reading a page has to find, without saying
how it is read.
-/

namespace SaveManifest.Template

open SaveManifest.Text

/-- A value given to a template, by position or under a key. -/
structure Parameter (α : Type) where
  key : Option (List Char) := none
  value : List α

/-- A piece of a page. -/
inductive Item where
  | text (content : List Char)
  | link (target : List Char) (label : Option (List Char))
  | template (name : List Char) (parameters : List (Parameter Item))

namespace Document

/-- The characters that mark templates, their parameters, links and comments. -/
def marks : List Char := ['{', '}', '[', ']', '|', '=', '<']

def isPlain (c : Char) : Bool := !marks.contains c

def isLinkText (c : Char) : Bool := isPlain c || c == '='

/-- The name of a template: plain text that is more than blank, does not begin like a parser
function and does not lead into another namespace. -/
def isName (name : List Char) : Bool :=
  name.all isPlain && !(trim name).isEmpty && (trim name).head? != some '#' && !name.contains ':'

/-- A key that is no number once it is in normal form. -/
def isKey (key : List Char) : Bool :=
  key.all isPlain && ((normalizeKey key).isEmpty || (normalizeKey key).any fun c => !isDigit c)

mutual

/-- Whether the marks of a piece are all where its form puts them. -/
def isValid : Item → Bool
  | .text content => content.all isPlain
  | .link target label => target.all isLinkText && label.all fun label => label.all isLinkText
  | .template name parameters => isName name && areValidParameters parameters

def areValid : List Item → Bool
  | [] => true
  | item :: items => isValid item && areValid items

def areValidParameters : List (Parameter Item) → Bool
  | [] => true
  | ⟨key, value⟩ :: parameters => key.all isKey && areValid value && areValidParameters parameters

end

/-- What stands in front of a value: its key and an equals sign, if it has a key. -/
def keyText : Option (List Char) → List Char
  | none => []
  | some key => key ++ ['=']

mutual

def renderItem : Item → List Char
  | .text content => content
  | .link target none => '[' :: '[' :: target ++ [']', ']']
  | .link target (some label) => '[' :: '[' :: target ++ '|' :: label ++ [']', ']']
  | .template name parameters => '{' :: '{' :: name ++ renderParameters parameters ++ ['}', '}']

def render : List Item → List Char
  | [] => []
  | item :: items => renderItem item ++ render items

/-- Parameters as wikitext, each behind a bar. -/
def renderParameters : List (Parameter Item) → List Char
  | [] => []
  | ⟨key, value⟩ :: parameters => '|' :: keyText key ++ render value ++ renderParameters parameters

end

/-- A value as a node holds it. -/
def valueText (value : List Item) : String := String.ofList (trim (render value))

def nodeOf (name : List Char) (parameters : List (Parameter Item)) : Node where
  name := String.ofList (normalizeName name)
  positional := (parameters.filter (·.key.isNone)).map fun parameter => valueText parameter.value
  named := Catalog.ofList (parameters.filterMap fun parameter =>
    parameter.key.map fun key => (String.ofList (normalizeKey key), valueText parameter.value))

mutual

def itemNodes : Item → List Node
  | .text _ => []
  | .link _ _ => []
  | .template name parameters => nodeOf name parameters :: parameterNodes parameters

def nodes : List Item → List Node
  | [] => []
  | item :: items => itemNodes item ++ nodes items

def parameterNodes : List (Parameter Item) → List Node
  | [] => []
  | ⟨_, value⟩ :: parameters => nodes value ++ parameterNodes parameters

end

end Document

end SaveManifest.Template
