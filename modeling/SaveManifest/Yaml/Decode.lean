import SaveManifest.Catalog
import SaveManifest.Yaml.Tree

/-!
# Reading values from documents

What a node of a document amounts to when a value of a certain kind is expected. Texts are taken
from scalars of every style, numbers and truth values from plain ones. A plain scalar without
text stands for an empty list or an empty map. `none` means that the node does not have the
expected form.
-/

namespace SaveManifest.Yaml.Document

def nullTag : String := "tag:yaml.org,2002:null"

def integerTag : String := "tag:yaml.org,2002:int"

def boolTag : String := "tag:yaml.org,2002:bool"

def readText? (document : Document) (node : Node) : Option String :=
  match document.follow node with
  | .scalar _ _ text => some text
  | _ => none

/-- The text of a scalar that may stand for something else than a text: a plain one, or a
literal block with the tag of what is expected. -/
def readBare? (document : Document) (tag : String) (node : Node) : Option (List Char) :=
  match document.follow node with
  | .scalar .plain _ text => some text.toList
  | .scalar .literal (some found) text => if found = tag then some text.toList else none
  | _ => none

def readNumber? (document : Document) (bound : Nat) (node : Node) : Option Nat :=
  (document.readBare? integerTag node).bind (readUnsigned? bound)

def readBool? (document : Document) (node : Node) : Option Bool :=
  (document.readBare? boolTag node).bind Yaml.readBool?

def readItems? (document : Document) (node : Node) : Option (List Node) :=
  match document.follow node with
  | .sequence items => some items
  | .scalar .plain _ "" => some []
  | _ => none

/-- The pairs of a mapping whose keys are scalars. -/
def readPairs? (document : Document) (node : Node) : Option (List (String × Node)) :=
  match document.follow node with
  | .mapping pairs => pairs.mapM fun (key, value) => (document.readText? key).map (·, value)
  | .scalar .plain _ "" => some []
  | _ => none

/-- What may be absent: nothing, for a plain null or no text, or else what `read` finds. The tag of
nulls goes with a null only. -/
def readOptional? {α : Type} (document : Document) (read : Node → Option α) (node : Node) :
    Option (Option α) :=
  match document.follow node with
  | .scalar .plain none text =>
    if text.isEmpty || isNull text.toList then some none else (read node).map some
  | .scalar .plain (some tag) text =>
    if tag = nullTag then if isNull text.toList then some none else none
    else (read node).map some
  | _ => (read node).map some

/-- The name of an alternative: a scalar with that text, or a null that has the name as a tag of
its own. -/
def readName? (document : Document) (node : Node) : Option String :=
  match document.follow node with
  | .scalar style tag text =>
    match tag.map String.toList with
    | some ('!' :: name) =>
      if style = .plain ∧ (text.isEmpty ∨ isNull text.toList) then some (String.ofList name)
      else none
    | _ => some text
  | _ => none

def readList? {α : Type} (document : Document) (read : Node → Option α) (node : Node) :
    Option (List α) :=
  (document.readItems? node).bind (·.mapM read)

/-- A map from texts, each value read in the same way; of two values under one key the later one
counts. -/
def readCatalog? {α : Type} (document : Document)
    (read : Node → Option α) (node : Node) : Option (Catalog α) := do
  let pairs ← document.readPairs? node
  let entries ← pairs.mapM fun (key, value) => (read value).map (key, ·)
  some (Catalog.ofList entries)

/-- A field of a record: its value, or `absent` where there is no such field. A field may not be
given twice. -/
def readField? {α : Type} (pairs : List (String × Node)) (name : String) (absent : Option α)
    (read : Node → Option α) : Option α :=
  match pairs.filter (fun pair => pair.1 == name) with
  | [] => absent
  | [(_, value)] => read value
  | _ => none

end SaveManifest.Yaml.Document
