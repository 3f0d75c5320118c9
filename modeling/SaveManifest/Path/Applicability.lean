import SaveManifest.Path.Error
import SaveManifest.Path.Marker

/-!
# Applicability

What the system column of a page and the markers of a path say about where the path applies.
A store named in the column decides; otherwise the column must be the name of an operating
system, and the store is taken from the markers of the path.
-/

namespace SaveManifest.Path

open SaveManifest.Text

/-- The operating system a system column names, white space around the name aside. -/
def systemOs (text : String) : Except PathError Os :=
  let name := trimmed text
  if name = "Windows" then .ok .windows
  else if name = "OS X" then .ok .mac
  else if name = "Linux" then .ok .linux
  else if name = "DOS" then .ok .dos
  else .error (.unknownSystem name)

/-- The stores a system column can name, in the order in which they are looked for. -/
def systemStores : List (String × Store) := [
  ("steam", .steam),
  ("microsoft store", .microsoft),
  ("gog.com", .gog),
  ("epic games", .epic),
  ("uplay", .uplay)]

def occursIn (needle : List Char) : List Char → Bool
  | [] => needle.isEmpty
  | c :: rest => needle.isPrefixOf (c :: rest) || occursIn needle rest

/-- The store a system column names, whatever the case of its ASCII letters. -/
def systemStore? (system : String) : Option Store :=
  (systemStores.find? fun named => occursIn named.1.toList (lowered system.toList)).map (·.2)

/-- The operating system of the first placeholder of the table that occurs in the path and is
bound to one. -/
def markerOs? (raw : String) : Option Os := (placeholdersIn raw).findSome? (·.applies.os)

/-- The store of the first placeholder of the table that occurs in the path and is bound to
one. -/
def markerStore? (raw : String) : Option Store := (placeholdersIn raw).findSome? (·.applies.store)

/-- What the markers of a path say. -/
def markerConstraint (raw : String) : Constraint where
  os := markerOs? raw
  store := markerStore? raw

/-- What the system column says, with the store of the markers where the column names none.
The Microsoft store exists on Windows alone. -/
def systemConstraint (system raw : String) : Except PathError Constraint :=
  match systemStore? system with
  | some .microsoft => .ok { os := some .windows, store := some .microsoft }
  | some store => .ok { store := some store }
  | none => do
    let os ← systemOs system
    .ok { os := some os, store := markerStore? raw }

end SaveManifest.Path
