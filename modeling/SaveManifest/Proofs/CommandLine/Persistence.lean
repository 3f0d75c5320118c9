import SaveManifest.CommandLine.Run
import SaveManifest.Proofs.Storage.Changes

/-!
# What a run leaves in the files

Only `discover` and `refresh` write, and only when they have all that they are going to write. The
cache is saved first. `refresh` then has both files written, unless the creation of the data
directory brought a directory to the path of the manifest; what was loaded before leaves room for
that only where there was no data directory, and in a tree only where the root of the workspace
leads upwards somewhere (`runRefresh_writes`).
-/

namespace SaveManifest.CommandLine

open FileSystem

variable {setting : Setting}

/-- The cache of a workspace with the pages of all categories, where each could be listed. -/
def discovered? (options : RunOptions) (setting : Setting) : Option (Opened × Cache) :=
  match openWorkspace options.paths setting with
  | .error _ => none
  | .ok opened =>
    let categories := opened.settings.effectiveCategories
    if categories.isEmpty then none
    else match (opened.wiki.membersOfAll categories setting.session).1 with
      | .error _ => none
      | .ok members => some (opened, opened.holdings.cache.markAll members)

/-- What a refresh of a workspace has to report and to keep. -/
def refreshed? (options : RunOptions) (refreshOptions : RefreshOptions) (setting : Setting) :
    Option (Opened × RefreshReport × Holdings) :=
  match openWorkspace options.paths setting with
  | .error _ => none
  | .ok opened =>
    match refresh opened.wiki opened.settings.denylist refreshOptions opened.holdings
        setting.session with
    | (.error _, _, _) => none
    | (.ok found, holdings, _) => some (opened, found, holdings)

/-- The file of the cache holds a cache, and no other file changed. -/
structure WroteCache (workspace : Workspace) (cache : Cache) (before after : FileSystem) :
    Prop where
  cache : after.read? workspace.cachePath = some cache.toText
  only : ChangesOnly [workspace.cachePath] before after

/-- The files of the cache and of the manifest hold what is to be kept, and no other file
changed. -/
structure WroteBoth (workspace : Workspace) (holdings : Holdings) (before after : FileSystem) :
    Prop where
  cache : after.read? workspace.cachePath = some holdings.cache.toText
  manifest : after.read? workspace.manifestPath = some holdings.manifest.toText
  only : ChangesOnly [workspace.cachePath, workspace.manifestPath] before after

def DiscoverWrites (options : RunOptions) (setting : Setting) (finish : Finish) : Prop :=
  match discovered? options setting with
  | none => finish.files = setting.files ∧ finish.failure ≠ none
  | some (opened, cache) =>
    match (opened.saveCache cache setting.files).1 with
    | .error failure =>
      ChangesOnly [] setting.files finish.files ∧ finish.failure = some failure
    | .ok () =>
      WroteCache opened.workspace cache setting.files finish.files ∧ finish.failure = none

def RefreshWrites (options : RunOptions) (refreshOptions : RefreshOptions) (setting : Setting)
    (finish : Finish) : Prop :=
  match refreshed? options refreshOptions setting with
  | none => finish.files = setting.files ∧ finish.failure ≠ none
  | some (opened, found, holdings) =>
    match (opened.saveCache holdings.cache setting.files).1 with
    | .error failure =>
      ChangesOnly [] setting.files finish.files ∧ finish.failure = some failure
    | .ok () =>
      if setting.files.IsBlocked opened.workspace.dataDirectory opened.workspace.manifestPath then
        WroteCache opened.workspace holdings.cache setting.files finish.files ∧
          finish.failure = some (.cannotWrite opened.workspace.manifestPath) ∧
          setting.files.find? opened.workspace.dataDirectory = none ∧
          (setting.files.IsTree → ".." ∈ FileSystem.parts opened.workspace.root)
      else
        WroteBoth opened.workspace holdings setting.files finish.files ∧
          (finish.failure = none ↔ found.errors = [])

def CommandWrites (options : RunOptions) (setting : Setting) (finish : Finish) : Command → Prop
  | .discover => DiscoverWrites options setting finish
  | .refresh refreshOptions => RefreshWrites options refreshOptions setting finish
  | .resolve _ _ => finish.files = setting.files
  | .stats => finish.files = setting.files

/-! ### The names of the files -/

theorem isName_data : IsName "data" := by decide

theorem isName_cache : IsName "wiki-game-cache.yaml" := by decide

theorem isName_manifest : IsName "manifest.yaml" := by decide

/-! ### Opening a workspace -/

theorem load_of_openWorkspace {flags : PathFlags} {opened : Opened}
    (success : openWorkspace flags setting = .ok opened) :
    Manifest.load setting.files opened.workspace.manifestPath = .ok opened.holdings.manifest := by
  unfold openWorkspace at success
  cases entered : enter flags setting with
  | error failure =>
    rw [entered] at success
    cases success
  | ok found =>
    rw [entered] at success
    dsimp only [Except.bind, bind] at success
    split at success
    · cases success
    · split at success
      · cases success
      · split at success
        · cases success
        · next manifest loaded =>
          cases success
          exact loaded

/-! ### Discover -/

theorem runDiscover_writes (options : RunOptions) (setting : Setting) :
    DiscoverWrites options setting (runDiscover options setting) := by
  unfold DiscoverWrites discovered? runDiscover
  cases openWorkspace options.paths setting with
  | error failure => exact ⟨rfl, Option.some_ne_none failure⟩
  | ok opened =>
    dsimp only [discover]
    cases opened.settings.effectiveCategories.isEmpty with
    | true => exact ⟨rfl, Option.some_ne_none _⟩
    | false =>
      rw [if_neg Bool.false_ne_true, if_neg Bool.false_ne_true]
      rcases opened.wiki.membersOfAll opened.settings.effectiveCategories setting.session with
        ⟨failure | members, session⟩
      · exact ⟨rfl, Option.some_ne_none failure⟩
      · dsimp only
        rcases saved : opened.saveCache (opened.holdings.cache.markAll members) setting.files with
          ⟨failure | _, after⟩
        · exact ⟨Storage.changesOnly_failed saved, rfl⟩
        · exact ⟨⟨Storage.read?_save saved, Storage.changesOnly_save saved⟩, rfl⟩

/-! ### Refresh -/

/-- Once the cache was saved, the manifest can be saved unless a directory is in its way. -/
theorem saveManifest_after {workspace : Workspace} {holdings : Holdings}
    {before middle : FileSystem}
    (saved : holdings.cache.save workspace.dataDirectory workspace.cachePath before =
      (.ok (), middle)) :
    if before.IsBlocked workspace.dataDirectory workspace.manifestPath then
      holdings.manifest.save workspace.dataDirectory workspace.manifestPath middle =
        (.error (.cannotWrite workspace.manifestPath), middle)
    else ∃ after, WroteBoth workspace holdings before after ∧
      holdings.manifest.save workspace.dataDirectory workspace.manifestPath middle =
        (.ok (), after) := by
  have outcome : holdings.manifest.save workspace.dataDirectory workspace.manifestPath middle =
      if before.IsBlocked workspace.dataDirectory workspace.manifestPath then
        (.error (.cannotWrite workspace.manifestPath), middle)
      else (.ok (), _) :=
    Storage.save_beside isName_cache isName_manifest saved
  split
  · next blocked => rw [outcome, if_pos blocked]
  · next free =>
    rw [if_neg free] at outcome
    refine ⟨_, ⟨?_, Storage.read?_save outcome, ?_⟩, outcome⟩
    · exact Storage.read?_beside isName_cache isName_manifest saved outcome (by decide)
    · exact Storage.changesOnly_beside isName_cache isName_manifest saved outcome

theorem runRefresh_writes (options : RunOptions) (refreshOptions : RefreshOptions)
    (setting : Setting) :
    RefreshWrites options refreshOptions setting (runRefresh options refreshOptions setting) := by
  unfold RefreshWrites refreshed? runRefresh
  cases success : openWorkspace options.paths setting with
  | error failure => exact ⟨rfl, Option.some_ne_none failure⟩
  | ok opened =>
    dsimp only
    rcases refresh opened.wiki opened.settings.denylist refreshOptions opened.holdings
      setting.session with ⟨failure | found, holdings, session⟩
    · exact ⟨rfl, Option.some_ne_none failure⟩
    · dsimp only
      rcases saved : opened.saveCache holdings.cache setting.files with ⟨failure | _, middle⟩
      · exact ⟨Storage.changesOnly_failed saved, rfl⟩
      · have outcome := saveManifest_after saved
        have opens := Storage.find?_of_load (load_of_openWorkspace success)
        obtain ⟨complete, -⟩ := Storage.save_eq_ok isName_cache saved
        dsimp only
        split
        · next blocked =>
          rw [if_pos blocked] at outcome
          rw [Opened.saveManifest, outcome]
          refine ⟨⟨Storage.read?_save saved, Storage.changesOnly_save saved⟩, rfl, ?_, ?_⟩
          · exact Storage.find?_of_blocked isName_data complete opens blocked
          · intro tree
            have upwards := Storage.mem_parts_of_blocked isName_manifest tree complete opens blocked
            rw [Workspace.dataDirectory, parts_join _ isName_data, List.mem_append] at upwards
            exact upwards.resolve_right (by decide)
        · next free =>
          rw [if_neg free] at outcome
          obtain ⟨after, both, manifestSaved⟩ := outcome
          rw [Opened.saveManifest, manifestSaved]
          refine ⟨both, ?_⟩
          change refreshFailure? found = none ↔ _
          rw [refreshFailure?, RefreshReport.success]
          cases found.errors with
          | nil => simp
          | cons line lines => simp

/-! ### All commands -/

theorem runCommand_writes (options : RunOptions) (setting : Setting) (command : Command) :
    CommandWrites options setting (runCommand options setting command) command := by
  cases command with
  | discover => exact runDiscover_writes options setting
  | refresh refreshOptions => exact runRefresh_writes options refreshOptions setting
  | resolve raw system =>
    change (runResolve options raw system setting).files = setting.files
    unfold runResolve
    dsimp only
    split
    · rfl
    · rfl
  | stats =>
    change (runStats options setting).files = setting.files
    unfold runStats
    split
    · rfl
    · rfl

/-- What a run leaves in the files, for all arguments, environments, files and networks. -/
theorem run_writes (arguments : List String) (setting : Setting) :
    match Invocation.ofArguments arguments with
    | .run options command =>
      CommandWrites options setting (run arguments setting).2 command ∧
        ((run arguments setting).1 = 0 ↔ (run arguments setting).2.failure = none)
    | .idle => (run arguments setting).2.files = setting.files
    | .stopped _ => (run arguments setting).2.files = setting.files := by
  unfold run
  cases Invocation.ofArguments arguments with
  | run options command =>
    refine ⟨runCommand_writes options setting command, ?_⟩
    dsimp only
    cases (runCommand options setting command).failure with
    | none => exact iff_of_true rfl rfl
    | some failure => exact iff_of_false Nat.one_ne_zero (Option.some_ne_none failure)
  | idle => rfl
  | stopped stop =>
    cases stop with
    | shown page => rfl
    | refused => rfl

/-- A root that leads up out of the place of its own manifest, in a tree without any files: the
refresh succeeds and the cache is saved, and then a directory is in the way of the manifest. -/
theorem run_refresh_upward_root :
    let arguments := ["--project-root", "data/manifest.yaml/../..", "refresh"]
    let options : RunOptions := { paths := { root := some "data/manifest.yaml/../.." } }
    let setting : Setting := { files := { nodes := {}, current := [] } }
    Invocation.ofArguments arguments = .run options (.refresh {}) ∧
      ((refreshed? options {} setting).map fun (opened, _, holdings) =>
        (opened.saveCache holdings.cache setting.files).1.isOk) = some true ∧
      (run arguments setting).2.files.changedFiles setting.files =
        [("/data/wiki-game-cache.yaml", some "\x7b\x7d\n")] := by
  refine ⟨?_, ?_, ?_⟩
  · decide +kernel
  · decide +kernel
  · decide +kernel

end SaveManifest.CommandLine
