import SaveManifest.Path.Separators
import SaveManifest.Placeholder

/-!
# Broad paths

Paths that exist whether or not a game is installed cannot identify a game. A denylist holds
such paths; beside it, the bare value of a placeholder, the root, a wildcard at the start and a
bare drive letter are too broad. A denylist is a set up to the case of ASCII letters: a path it
already contains is not added again.
-/

namespace SaveManifest.Path

open SaveManifest.Text

structure Denylist where
  paths : List String
deriving DecidableEq, Repr

namespace Denylist

def builtIn : List String := [
  "<home>/Documents",
  "<home>/Saved Games",
  "<home>/AppData",
  "<home>/AppData/Local",
  "<home>/AppData/Local/Temp",
  "<home>/AppData/LocalLow",
  "<home>/AppData/Roaming",
  "<home>/Documents/My Games",
  "<home>/Library",
  "<home>/Library/Application Support",
  "<home>/Library/Preferences",
  "<home>/Telltale Games",
  "<root>/config",
  "<winAppData>/Microsoft/Windows/Start Menu/Programs",
  "<winDir>/win.ini",
  "<winDocuments>/My Games",
  "<winLocalAppData>/Microsoft/Windows/Start Menu/Programs",
  "<winProgramData>/Microsoft/Windows/Start Menu/Programs",
  "<xdgConfig>/autostart",
  "HKEY_CURRENT_USER/Software",
  "HKEY_LOCAL_MACHINE/Software",
  "HKEY_LOCAL_MACHINE/SOFTWARE/WOW6432Node"]

def standard : Denylist := ⟨builtIn⟩

instance : Inhabited Denylist := ⟨standard⟩

/-- Whether a path is denied, whatever the case of its ASCII letters. -/
def contains (denylist : Denylist) (path : String) : Bool :=
  denylist.paths.any (sameIgnoringCase · path)

/-- The path a text stands for in a denylist. -/
def normalized (text : String) : String := onString (fun cs => normalizeSeparators (trim cs)) text

/-- The denylist with one more path, unless the text is blank or the path already denied. -/
def add (denylist : Denylist) (text : String) : Denylist :=
  let path := normalized text
  if path.isEmpty || denylist.contains path then denylist else ⟨denylist.paths ++ [path]⟩

def withExtra (denylist : Denylist) (texts : List String) : Denylist := texts.foldl add denylist

def size (denylist : Denylist) : Nat := denylist.paths.length

def isEmpty (denylist : Denylist) : Bool := denylist.paths.isEmpty

theorem contains_iff (denylist : Denylist) (path : String) :
    denylist.contains path = true ↔
      ∃ denied ∈ denylist.paths, lowered denied.toList = lowered path.toList := by
  simp [contains, sameIgnoringCase_iff]

end Denylist

/-- A drive letter and a colon, and nothing else. -/
def isBareDrive (path : String) : Bool :=
  match path.toList with
  | [letter, ':'] => isLetter letter
  | _ => false

/-- Whether a resolved path is too broad to name a game. -/
def isTooBroad (path : String) (denylist : Denylist) : Bool :=
  Placeholder.known.any (·.normalized == path) || denylist.contains path || path == "/" ||
    path.toList.head? == some '*' || isBareDrive path

end SaveManifest.Path
