import SaveManifest.Catalog
import SaveManifest.Text.Blank

/-!
# Files and directories

A tree of directories and files, and the operations on it that a run needs. A path is walked
part by part: every part but the last has to be a directory, `..` leads to the directory above,
and a slash at the end asks for a directory. Paths that do not begin with a slash start from the
current directory.

Operations that fail leave the tree as it is, but for `createDirectories`, which keeps the
directories it created before it failed.
-/

namespace SaveManifest

/-- What stands at a place. A file whose bytes are not UTF-8 has no text. -/
inductive FileNode where
  | directory
  | file (text : Option String)
deriving DecidableEq, Repr

/-- The place of a file or directory: the names on the way from the root. -/
abbrev Place := List String

/-- A tree of files and directories, by the text of their places, and the current directory. -/
structure FileSystem where
  nodes : Catalog FileNode
  current : Place
deriving DecidableEq, Repr

namespace FileSystem

def placeText (place : Place) : String := "/" ++ "/".intercalate place

/-- What stands at a place; the root is a directory. -/
def node? (files : FileSystem) (place : Place) : Option FileNode :=
  if place.isEmpty then some .directory else files.nodes.get? (placeText place)

def put (files : FileSystem) (place : Place) (node : FileNode) : FileSystem :=
  { files with nodes := files.nodes.insert (placeText place) node }

def isDirectoryAt (files : FileSystem) (place : Place) : Bool :=
  files.node? place == some .directory

/-- The names of a path, the empty ones left out. -/
def parts (path : String) : List String :=
  ((Text.splitOn (· == '/') path.toList).filter fun part => !part.isEmpty).map String.ofList

/-- Where the walk along a path starts. -/
def start (files : FileSystem) (path : String) : Place :=
  if path.toList.head? == some '/' then [] else files.current

/-- Whether a path asks for a directory by a slash at its end. -/
def asksForDirectory (path : String) : Bool := path.toList.getLast? == some '/'

/-- The place that one more part of a path leads to. -/
def step (place : Place) (part : String) : Place :=
  if part = "." then place else if part = ".." then place.dropLast else place ++ [part]

/-- The place a path leads to, if every part before the last is a directory. -/
def walk? (files : FileSystem) (path : String) : Option Place :=
  if path.isEmpty then none
  else (parts path).foldlM
    (fun place part => if files.isDirectoryAt place then some (step place part) else none)
    (files.start path)

/-- What stands where a path leads. -/
def find? (files : FileSystem) (path : String) : Option FileNode := do
  let node ← files.node? (← files.walk? path)
  if asksForDirectory path && node != .directory then none else some node

def fileExists (files : FileSystem) (path : String) : Bool := (files.find? path).isSome

def isFile (files : FileSystem) (path : String) : Bool :=
  match files.find? path with
  | some (.file _) => true
  | _ => false

def read? (files : FileSystem) (path : String) : Option String :=
  match files.find? path with
  | some (.file text) => text
  | _ => none

/-- The tree with a text written to the file a path leads to, which is created if need be. -/
def write? (files : FileSystem) (path text : String) : Option FileSystem := do
  let place ← files.walk? path
  if asksForDirectory path || files.isDirectoryAt place then none
  else some (files.put place (.file (some text)))

/-- Creates the directories along a path that do not exist yet; the flag tells whether all of
the path is directories in the end. -/
def createAlong (files : FileSystem) (place : Place) : List String → FileSystem × Bool
  | [] => (files, files.isDirectoryAt place)
  | part :: rest =>
    if !files.isDirectoryAt place then (files, false)
    else
      let next := step place part
      match files.node? next with
      | some _ => files.createAlong next rest
      | none => (files.put next .directory).createAlong next rest

def createDirectories (files : FileSystem) (path : String) : FileSystem × Bool :=
  files.createAlong (files.start path) (parts path)

def ofCurrent (current : Place) : FileSystem :=
  (createDirectories { nodes := {}, current } (placeText current)).1

/-- The places that hold another text than in an earlier tree, with that text. -/
def changedFiles (files earlier : FileSystem) : List (String × Option String) :=
  files.nodes.entries.filterMap fun (place, node) =>
    match node with
    | .directory => none
    | .file text =>
      if earlier.nodes.get? place = some (.file text) then none else some (place, text)

end FileSystem

end SaveManifest
