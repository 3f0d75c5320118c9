import SaveManifest.Path.Applicability
import SaveManifest.Path.Denylist
import SaveManifest.Path.Resolution
import SaveManifest.Record
import SaveManifest.Template.Parser
import SaveManifest.Text.Number

/-!
# Extraction

From the template nodes of a page to the record of its game. A data node gives its system
column first and then any number of paths; each path is judged on its own and either gets an
entry, is too broad, or is refused. The tallies count the paths without an entry. A path whose
braces do not pair up is skipped without being counted.

`Extraction.merge` joins the extractions of two lists of nodes.
-/

namespace SaveManifest

/-- How many paths of a page got no entry, by cause. The numbers stand for counters of 32 bits, so
what is said of them holds of pages with fewer than `2 ^ 32` path parameters. -/
structure Tallies where
  unsupportedOs : Nat := 0
  unsupportedPath : Nat := 0
  tooBroad : Nat := 0
deriving DecidableEq, Repr

namespace Tallies

/-- Every path got an entry. -/
def isClean (tallies : Tallies) : Bool :=
  tallies.unsupportedOs == 0 && tallies.unsupportedPath == 0 && tallies.tooBroad == 0

/-- The tallies with one more path of a group of reasons. -/
def count (tallies : Tallies) : PathError.Group → Tallies
  | .unsupportedOs => { tallies with unsupportedOs := tallies.unsupportedOs + 1 }
  | .unsupportedPath => { tallies with unsupportedPath := tallies.unsupportedPath + 1 }
  | .malformed => tallies

def countBroad (tallies : Tallies) : Tallies := { tallies with tooBroad := tallies.tooBroad + 1 }

def merge (left right : Tallies) : Tallies where
  unsupportedOs := left.unsupportedOs + right.unsupportedOs
  unsupportedPath := left.unsupportedPath + right.unsupportedPath
  tooBroad := left.tooBroad + right.tooBroad

end Tallies

structure Extraction where
  record : Record := {}
  tallies : Tallies := {}
deriving DecidableEq, Repr

namespace Extraction

open SaveManifest.Path SaveManifest.Template SaveManifest.Text

def merge (left right : Extraction) : Extraction where
  record := left.record.merge right.record
  tallies := left.tallies.merge right.tallies

def infobox : String := "Infobox game"

def steamKey : String := "steam appid"

/-- The tag of the paths of a data template, by the name of the template. -/
def dataTag? (node : Node) : Option Tag :=
  if node.isNamed "Game data/saves" then some .save
  else if node.isNamed "Game data/config" then some .config
  else none

/-- The Steam id of an infobox: the first of the listed ids, if it is a positive number. -/
def steamId? (node : Node) : Option UInt32 := do
  let listed ← node.named? steamKey
  let first := trim (listed.toList.takeWhile (· != ','))
  (readWord32? first).filter (· != 0)

/-- What becomes of one path of a data node. -/
inductive Verdict where
  | accepted (resolved : Resolved) (constraint : Constraint)
  | tooBroad
  | refused (error : PathError)
deriving DecidableEq, Repr

/-- Judges one path. The registry exists on Windows alone, so its entries carry no operating
system. -/
def judge (denylist : Denylist) (system raw : String) : Verdict :=
  match resolve raw with
  | .error error => .refused error
  | .ok resolved =>
    if isTooBroad resolved.path denylist then .tooBroad
    else match systemConstraint system raw with
      | .error error => .refused error
      | .ok constraint =>
        match resolved.kind with
        | .file => .accepted resolved constraint
        | .registry => .accepted resolved { constraint with os := none }

/-- The extraction with a verdict on one more path. -/
def settle (extraction : Extraction) (tag : Tag) : Verdict → Extraction
  | .accepted resolved constraint =>
    { extraction with
      record := extraction.record.update resolved.kind resolved.path fun entry =>
        (entry.addConstraint constraint).addTag tag }
  | .tooBroad => { extraction with tallies := extraction.tallies.countBroad }
  | .refused error => { extraction with tallies := extraction.tallies.count error.group }

/-- The system column of a data node and the paths that follow it, blank ones left out. -/
def systemAndPaths (node : Node) : Option (String × List String) :=
  match node.positional with
  | [] => none
  | system :: paths => some (system, (paths.map trimmed).filter fun path => !path.isEmpty)

def addNode (denylist : Denylist) (extraction : Extraction) (node : Node) : Extraction :=
  if node.isNamed infobox then
    match steamId? node with
    | some id => { extraction with record := { extraction.record with steam := some id } }
    | none => extraction
  else match dataTag? node, systemAndPaths node with
    | some tag, some (system, paths) =>
      paths.foldl (fun extraction path => extraction.settle tag (judge denylist system path))
        extraction
    | _, _ => extraction

def ofNodes (denylist : Denylist) (nodes : List Node) : Extraction :=
  nodes.foldl (addNode denylist) {}

/-- What the text of a page amounts to under a denylist. -/
def ofContent (denylist : Denylist) (content : String) : Extraction :=
  ofNodes denylist (Template.parse content)

end Extraction

end SaveManifest
