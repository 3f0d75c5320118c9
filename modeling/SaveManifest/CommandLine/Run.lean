import SaveManifest.CommandLine.Invocation
import SaveManifest.CommandLine.Report
import SaveManifest.EnvironmentFile
import SaveManifest.Storage
import SaveManifest.Wiki.Client

/-!
# Running the program

A whole run as a function: from the arguments, the environment, the files and the network to what
is printed, the exit code, and the files and the network afterwards. Files change only when a
run saves the cache and the manifest, which is after all pages were asked for.
-/

namespace SaveManifest.CommandLine

open Http

/-- What a run starts from. -/
structure Setting where
  environment : Environment := {}
  files : FileSystem
  session : Session := {}

/-- What a run leaves behind: what it printed, the failure it ended with if there was one, and
the files and the session afterwards. -/
structure Finish where
  output : String := ""
  failure : Option Failure := none
  files : FileSystem
  session : Session

/-- The text of the file of a name in the nearest directory on the way from a place to the root;
the place is given backwards. -/
def nearestText? (files : FileSystem) (name : String) : Place → Option String
  | [] =>
    match files.node? [name] with
    | some (.file text) => text
    | _ => none
  | last :: above =>
    match files.node? ((last :: above).reverse ++ [name]) with
    | some (.file text) => text
    | _ => nearestText? files name above

def environmentFile : String := ".env"

/-- The environment of a run with the variables that the nearest environment file adds. -/
def nearestEnvironment (setting : Setting) : Environment :=
  match nearestText? setting.files environmentFile setting.files.current.reverse with
  | some text => EnvironmentFile.add false text setting.environment
  | none => setting.environment

/-- The workspace of a run and its environment: the nearest environment file adds variables, and
then the one in the root of the workspace replaces some, which may move the workspace. -/
def enter (flags : PathFlags) (setting : Setting) : Except Failure (Workspace × Environment) :=
  let environment := nearestEnvironment setting
  match Workspace.find flags environment setting.files with
  | .error failure => .error failure
  | .ok first =>
    let own := setting.files.read? (Workspace.join first.root environmentFile)
    let environment := match own with
      | some text => EnvironmentFile.add true text environment
      | none => environment
    match Workspace.find flags environment setting.files with
    | .error failure => .error failure
    | .ok workspace => .ok (workspace, environment)

/-- What a run loads before it does anything. -/
structure Opened where
  workspace : Workspace
  environment : Environment
  settings : Settings
  holdings : Holdings

/-- Enters a workspace and loads its settings, cache and manifest. -/
def openWorkspace (flags : PathFlags) (setting : Setting) : Except Failure Opened := do
  let (workspace, environment) ← enter flags setting
  let settings ← Settings.load setting.files workspace.settingsPath
  let cache ← Cache.load setting.files workspace.cachePath
  let manifest ← Manifest.load setting.files workspace.manifestPath
  .ok { workspace, environment, settings, holdings := { cache, manifest } }

namespace Opened

def wiki (opened : Opened) : Wiki Session :=
  Client.wiki (ClientOptions.ofSettings opened.settings opened.environment)

def saveCache (opened : Opened) (cache : Cache) (files : FileSystem) :
    Except Failure Unit × FileSystem :=
  cache.save opened.workspace.dataDirectory opened.workspace.cachePath files

def saveManifest (opened : Opened) (manifest : Manifest) (files : FileSystem) :
    Except Failure Unit × FileSystem :=
  manifest.save opened.workspace.dataDirectory opened.workspace.manifestPath files

end Opened

/-- A run that ends with a failure and leaves everything as it was. -/
def failed (setting : Setting) (failure : Failure) : Finish :=
  { failure := some failure, files := setting.files, session := setting.session }

/-- A report in one of its two forms; the paths of the workspace only go with lines. -/
def report (options : RunOptions) (workspace : Workspace) (json : Json) (text : String) :
    String :=
  if options.json then jsonReport json
  else text ++ (if options.diagnostics then diagnosticsReport workspace else "")

/-- Lists the categories of the settings and saves the cache. -/
def runDiscover (options : RunOptions) (setting : Setting) : Finish :=
  match openWorkspace options.paths setting with
  | .error failure => failed setting failure
  | .ok opened =>
    match discover opened.wiki opened.settings.effectiveCategories opened.holdings.cache
        setting.session with
    | (.error failure, _, session) => { failed setting failure with session }
    | (.ok found, cache, session) =>
      match opened.saveCache cache setting.files with
      | (.error failure, files) => { failure := some failure, files, session }
      | (.ok _, files) =>
        { output := report options opened.workspace (discoverJson found) (discoverText found)
          files
          session }

/-- The failure of a refresh in which pages could not be fetched. -/
def refreshFailure? (found : RefreshReport) : Option Failure :=
  if found.success then none else some (.unfetchedPages found.errors.length)

/-- Refreshes pages and saves the cache and the manifest, also when some pages could not be
fetched. -/
def runRefresh (options : RunOptions) (refreshOptions : RefreshOptions) (setting : Setting) :
    Finish :=
  match openWorkspace options.paths setting with
  | .error failure => failed setting failure
  | .ok opened =>
    match refresh opened.wiki opened.settings.denylist refreshOptions opened.holdings
        setting.session with
    | (.error failure, _, session) => { failed setting failure with session }
    | (.ok found, holdings, session) =>
      match opened.saveCache holdings.cache setting.files with
      | (.error failure, files) => { failure := some failure, files, session }
      | (.ok _, files) =>
        match opened.saveManifest holdings.manifest files with
        | (.error failure, files) => { failure := some failure, files, session }
        | (.ok _, files) =>
          { output := report options opened.workspace (refreshJson found) (refreshText found)
            failure := refreshFailure? found
            files
            session }

/-- Tells what becomes of one path. -/
def runResolve (options : RunOptions) (raw : String) (system : Option String)
    (setting : Setting) : Finish :=
  let settings := do
    let (workspace, _) ← enter options.paths setting
    Settings.load setting.files workspace.settingsPath
  match settings with
  | .error failure => failed setting failure
  | .ok settings =>
    let inspection := Inspection.ofPath settings.denylist system raw
    { output :=
        if options.json then jsonReport (inspectionJson inspection)
        else inspectionText inspection
      files := setting.files
      session := setting.session }

def runStats (options : RunOptions) (setting : Setting) : Finish :=
  match openWorkspace options.paths setting with
  | .error failure => failed setting failure
  | .ok opened =>
    let stats := opened.holdings.cache.stats
    let games := opened.holdings.manifest.size
    { output := report options opened.workspace (countsJson stats games)
        (countsText opened.workspace stats games)
      files := setting.files
      session := setting.session }

def runCommand (options : RunOptions) (setting : Setting) : Command → Finish
  | .discover => runDiscover options setting
  | .refresh refreshOptions => runRefresh options refreshOptions setting
  | .resolve raw system => runResolve options raw system setting
  | .stats => runStats options setting

/-- The exit code of a run whose arguments are wrong. -/
def misuseCode : Nat := 2

/-- Runs the program with some arguments; gives the exit code and what the run leaves behind. -/
def run (arguments : List String) (setting : Setting) : Nat × Finish :=
  let quiet (output : String) : Finish :=
    { output, files := setting.files, session := setting.session }
  match Invocation.ofArguments arguments with
  | .stopped .refused => (misuseCode, quiet "")
  | .stopped (.shown page) => (0, quiet page)
  | .idle => (0, quiet (helpPage programRule ++ "\n"))
  | .run options command =>
    let finish := runCommand options setting command
    (if finish.failure.isSome then 1 else 0, finish)

end SaveManifest.CommandLine
