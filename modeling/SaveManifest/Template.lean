import SaveManifest.Catalog
import SaveManifest.Text.Ascii
import SaveManifest.Text.Blank
import SaveManifest.Text.Capital

/-!
# Template nodes

One use of a template on a wiki page: its name, the values given by position, and the values
given by name. Names and keys are kept in the wiki's normal form: underscores count as spaces,
runs of white space as one space, and a template name begins with a capital letter.
-/

namespace SaveManifest

namespace Template

open SaveManifest.Text

def normalizeKey (key : List Char) : List Char :=
  collapse (key.map fun c => if c = '_' then ' ' else c)

def normalizeName (name : List Char) : List Char := capitalized (normalizeKey name)

/-- One use of a template. -/
structure Node where
  name : String
  positional : List String := []
  named : Catalog String := {}
deriving DecidableEq, Repr

namespace Node

/-- A node without parameters. -/
def ofName (name : String) : Node := { name := onString normalizeName name }

/-- The node with one more value at the end of its positions. -/
def withPositional (node : Node) (value : String) : Node :=
  { node with positional := node.positional ++ [value] }

def withNamed (node : Node) (key value : String) : Node :=
  { node with named := node.named.insert (onString normalizeKey key) value }

/-- The value at a position, counted from one. -/
def positional? (node : Node) : Nat → Option String
  | 0 => none
  | index + 1 => node.positional[index]?

def named? (node : Node) (key : String) : Option String :=
  node.named.get? (onString normalizeKey key)

/-- Whether the node is a use of this template, whatever the case of ASCII letters. -/
def isNamed (node : Node) (name : String) : Bool :=
  sameIgnoringCase node.name (onString normalizeName name)

end Node

end Template

end SaveManifest
