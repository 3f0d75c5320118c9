import SaveManifest.CommandLine.Reach

/-!
# The program

Looks at the variables and the files that decide a run, runs, and carries out what the run left
behind. No connection is made: a question to the wiki ends as it does where the network cannot be
reached.
-/

namespace SaveManifest

open CommandLine

def standsAt? (path : String) : IO (Option FileNode) := do
  match ← (IO.FS.readBinFile path).toBaseIO with
  | .ok bytes => return some (.file (String.fromUTF8? bytes))
  | .error (.noFileOrDirectory ..) => return none
  | .error error =>
    -- A file on the way to the path is an error too, but leaves nothing at the path itself.
    return if ((toString error).splitOn "not a directory").length = 1 then some .directory else none

/-- A tree with what stands at a path and above it. -/
def withPath (files : FileSystem) (path : String) : IO FileSystem := do
  let mut files := files
  let mut place := files.start path
  for part in FileSystem.parts path do
    place := FileSystem.step place part
    match ← standsAt? (FileSystem.placeText place) with
    | some node => files := files.put place node
    | none => break
  return files

/-- A setting with the variables and the files that a run with some arguments looks at. -/
def withReach (arguments : List String) (setting : Setting) : IO Setting := do
  let mut environment := setting.environment
  for name in reachedVariables arguments setting do
    if let some value ← IO.getEnv name then environment := environment.insert name value
  let mut files := setting.files
  for path in reachedPaths arguments setting do
    files ← withPath files path
  return { setting with environment, files }

def settingOf (arguments : List String) : IO Setting := do
  let current := FileSystem.parts (← IO.currentDir).toString
  let mut setting : Setting :=
    { files := FileSystem.ofCurrent current, session := { network := Http.Network.unreachable } }
  for _ in List.range rounds do
    setting ← withReach arguments setting
  return setting

/-- Brings the directories and files on disk from one tree to another. -/
def carryOut (earlier files : FileSystem) : IO Unit := do
  for (place, node) in files.nodes.entries do
    if earlier.nodes.get? place != some node then
      match node with
      | .directory => IO.FS.createDir place
      | .file text => IO.FS.writeFile place (text.getD "")

end SaveManifest

open SaveManifest in
/-- Runs with some arguments; gives the exit code. -/
def main (arguments : List String) : IO UInt32 := do
  let setting ← settingOf arguments
  let (code, finish) := CommandLine.run arguments setting
  carryOut setting.files finish.files
  IO.print finish.output
  if let some failure := finish.failure then IO.eprintln failure.report
  return code.toUInt32
