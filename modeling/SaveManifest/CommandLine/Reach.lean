import SaveManifest.CommandLine.Run

/-!
# What a run looks at

The variables and the paths that decide a run. Which these are may depend on files that name
others, so that they are found in rounds, each of which starts from what is known. A round goes at
least one step along the way from the environment over the nearest environment file, the variables
named there, the workspace, the environment file there and the variables named there to the
workspace that is left.
-/

namespace SaveManifest.CommandLine

/-- The variables that settings and workspaces ask for. -/
def settingVariables : List String :=
  [Workspace.rootVariable, Workspace.settingsVariable, "WIKI_API_URL", "WIKI_USER_AGENT",
    "WIKI_HTTP_TIMEOUT_MS", "WIKI_RATE_LIMIT_READ", "WIKI_HTTP_RETRIES",
    "WIKI_HTTP_RETRY_DELAY_MS"]

/-- The words of a text that can be names of variables. -/
def nameWords (text : String) : List String :=
  let words (isIn : Char → Bool) : List String :=
    ((Text.splitOn (fun c => !isIn c) text.toList).filter fun word => !word.isEmpty).map
      String.ofList
  words EnvironmentFile.isKeyChar ++ words Text.isAlphanumeric

/-- The environment files in the directories from a place to the root; the place is given
backwards. -/
def environmentFilesAbove : Place → List String
  | [] => [FileSystem.placeText [environmentFile]]
  | last :: above =>
    FileSystem.placeText ((last :: above).reverse ++ [environmentFile]) ::
      environmentFilesAbove above

/-- The paths of a workspace that a run reads or writes. -/
def workspacePaths (workspace : Workspace) : List String :=
  [workspace.root, Workspace.join workspace.root environmentFile, workspace.settingsPath,
    workspace.cachePath, workspace.manifestPath]

/-- The paths that a run with some arguments looks at, as far as they are known. -/
def reachedPaths (arguments : List String) (setting : Setting) : List String :=
  match Invocation.ofArguments arguments with
  | .run options _ =>
    let own (environment : Environment) : List String :=
      match Workspace.find options.paths environment setting.files with
      | .ok workspace => workspacePaths workspace
      | .error _ => []
    let environment := nearestEnvironment setting
    let last := match enter options.paths setting with
      | .ok (_, environment) => own environment
      | .error _ => []
    environmentFilesAbove setting.files.current.reverse ++ own environment ++ last
  | _ => []

/-- The variables that a run with some arguments looks at, as far as they are known. -/
def reachedVariables (arguments : List String) (setting : Setting) : List String :=
  settingVariables ++ (reachedPaths arguments setting).flatMap fun path =>
    if environmentFile.toList.isSuffixOf path.toList then
      ((setting.files.read? path).map nameWords).getD []
    else []

/-- The number of rounds after which all that a run looks at is known. -/
def rounds : Nat := 7

end SaveManifest.CommandLine
