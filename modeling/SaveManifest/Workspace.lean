import SaveManifest.Settings

/-!
# Workspaces

Where a run finds its files. A workspace has a root directory, told by a flag, by the environment
or else the current directory; below it lie the state directory with the settings and the data
directory with the cache and the manifest. The settings file can be moved in the same way.
-/

namespace SaveManifest

/-- What told a path. -/
inductive PathSource where
  | flag
  | environment
  | usual
deriving DecidableEq, Repr

def PathSource.name : PathSource → String
  | flag => "flag"
  | environment => "env"
  | usual => "default"

structure PathFlags where
  root : Option String := none
  settings : Option String := none
deriving DecidableEq, Repr

namespace Workspace

def isAbsolute (path : String) : Bool := path.toList.head? == some '/'

/-- A path below a directory, with one slash put between them where there is none. -/
def join (directory path : String) : String :=
  if directory.isEmpty || directory.toList.getLast? == some '/' then directory ++ path
  else directory ++ "/" ++ path

/-- A path that starts from a directory unless it is absolute. -/
def startingFrom (directory path : String) : String :=
  if isAbsolute path then path else join directory path

/-- A path as reports show it: with slashes only. -/
def displayed (path : String) : String :=
  Text.onString (List.map fun c => if c = '\\' then '/' else c) path

def rootVariable : String := "SAVEWIKI_PROJECT_ROOT"

def settingsVariable : String := "SAVEWIKI_CONFIG"

/-- The path that a flag, a variable or else the default tells, and which of them it was. -/
def chosen (flag : Option String) (told? : Option String) (base default : String) :
    String × PathSource :=
  match flag, told? with
  | some path, _ => (startingFrom base path, .flag)
  | none, some path => (startingFrom base path, .environment)
  | none, none => (default, .usual)

end Workspace

structure Workspace where
  root : String
  rootSource : PathSource
  settingsPath : String
  settingsSource : PathSource
deriving DecidableEq, Repr

namespace Workspace

/-- The directory of the settings. -/
def stateDirectory (workspace : Workspace) : String := join workspace.root ".savewiki"

/-- The directory of the cache and the manifest. -/
def dataDirectory (workspace : Workspace) : String := join workspace.root "data"

def cachePath (workspace : Workspace) : String :=
  join workspace.dataDirectory "wiki-game-cache.yaml"

def manifestPath (workspace : Workspace) : String :=
  join workspace.dataDirectory "manifest.yaml"

/-- Finds the workspace of some flags and an environment. A root that is a file is refused. -/
def find (flags : PathFlags) (environment : Environment) (files : FileSystem) :
    Except Failure Workspace :=
  let current := FileSystem.placeText files.current
  let (root, rootSource) :=
    chosen flags.root (environment.setting? rootVariable) current current
  if files.isFile root then .error (.rootIsFile (displayed root))
  else
    let (settingsPath, settingsSource) :=
      chosen flags.settings (environment.setting? settingsVariable) root
        (join (join root ".savewiki") "config.toml")
    .ok { root, rootSource, settingsPath, settingsSource }

/-- The paths of a workspace as lines of a report. -/
def diagnostics (workspace : Workspace) : String :=
  "project_root=" ++ displayed workspace.root ++ " (" ++ workspace.rootSource.name ++ ")\n" ++
    "state_dir=" ++ displayed workspace.stateDirectory ++ "\n" ++
    "cache_path=" ++ displayed workspace.cachePath ++ "\n" ++
    "manifest_path=" ++ displayed workspace.manifestPath ++ "\n" ++
    "config_path=" ++ displayed workspace.settingsPath ++ " (" ++ workspace.settingsSource.name ++
    ")"

end Workspace

end SaveManifest
