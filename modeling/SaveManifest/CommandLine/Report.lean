import SaveManifest.Cache
import SaveManifest.Discovery
import SaveManifest.Inspection
import SaveManifest.Json.Printer
import SaveManifest.Refresh
import SaveManifest.Workspace

/-!
# Reports

What the program prints of a run: lines of text, or one JSON value. Every report ends with a line
break.
-/

namespace SaveManifest.CommandLine

/-- Lines with a line break behind each. -/
def lines (texts : List String) : String := String.join (texts.map (· ++ "\n"))

def jsonReport (value : Json) : String := Json.print value ++ "\n"

/-- The paths of a workspace behind a report that asks for them. -/
def diagnosticsReport (workspace : Workspace) : String :=
  "\n[diagnostics]\n" ++ workspace.diagnostics ++ "\n"

def countLine (name : String) (count : Nat) : String := name ++ ": " ++ toString count

/-! ## Discovery -/

def discoverText (report : DiscoverReport) : String :=
  lines ["discover", "categories: " ++ ", ".intercalate report.categories,
    countLine "listed" report.listed, countLine "added" report.added,
    countLine "requests" report.requests]

def discoverJson (report : DiscoverReport) : Json :=
  .object [("categories", .list (report.categories.map .text)),
    ("listed", .natural report.listed), ("added", .natural report.added),
    ("request_count", .natural report.requests)]

/-! ## Refresh -/

def pageLine (page : PageResult) : String :=
  "  " ++ page.title ++ " [" ++ page.outcome.action ++ "]" ++
    (page.outcome.detail?.map (" " ++ ·)).getD ""

def refreshText (report : RefreshReport) : String :=
  lines (["refresh", countLine "requested" report.requested,
    countLine "processed" report.processed, countLine "flagged" report.flagged,
    countLine "missing" report.missing, countLine "requests" report.requests] ++
    report.pages.map pageLine ++
    (if report.errors.isEmpty then [] else "errors:" :: report.errors.map ("  - " ++ ·)))

def talliesJson (tallies : Tallies) : Json :=
  .object [("unsupported_os", .natural tallies.unsupportedOs),
    ("unsupported_path", .natural tallies.unsupportedPath),
    ("too_broad", .natural tallies.tooBroad)]

def pageJson (page : PageResult) : Json :=
  .object [("title", .text page.title), ("action", .text page.outcome.action),
    ("detail", .orNull .text page.outcome.detail?),
    ("tallies", .orNull talliesJson page.outcome.tallies?)]

def refreshJson (report : RefreshReport) : Json :=
  .object [("success", .truth report.success), ("requested_pages", .natural report.requested),
    ("processed", .natural report.processed), ("missing", .natural report.missing),
    ("flagged", .natural report.flagged), ("errors", .list (report.errors.map .text)),
    ("pages", .list (report.pages.map pageJson)), ("request_count", .natural report.requests)]

/-! ## One path -/

/-- What stands in a line where there is nothing to tell. -/
def nothing : String := "<none>"

def inspectionText (inspection : Inspection) : String :=
  lines (["raw: " ++ inspection.raw,
    "resolved: " ++ (inspection.resolved.map (·.path)).getD nothing,
    "path_type: " ++ (inspection.resolved.map (·.kind.name)).getD nothing,
    "constraint: " ++ (inspection.constraint.map (·.describe)).getD nothing,
    "too_broad: " ++ (if inspection.tooBroad then "yes" else "no")] ++
    (if inspection.unknownTokens.isEmpty then []
      else ["unknown_tokens: " ++ ", ".intercalate inspection.unknownTokens]) ++
    (inspection.error.map fun error => "error: " ++ error.message).toList)

def inspectionJson (inspection : Inspection) : Json :=
  .object [("raw", .text inspection.raw),
    ("resolved", .orNull (fun resolved => .text resolved.path) inspection.resolved),
    ("path_type", .orNull (fun resolved => .text resolved.kind.name) inspection.resolved),
    ("constraint", .orNull (fun constraint => .text constraint.describe) inspection.constraint),
    ("too_broad", .truth inspection.tooBroad),
    ("unknown_tokens", .list (inspection.unknownTokens.map .text)),
    ("error", .orNull (fun error => .text error.message) inspection.error)]

/-! ## Counts -/

/-- The names and numbers of the counts over the cache and the manifest. -/
def counts (stats : Cache.Stats) (games : Nat) : List (String × Nat) :=
  [("pages", stats.pages), ("pending", stats.pending), ("unsupported_os", stats.unsupportedOs),
    ("unsupported_path", stats.unsupportedPath), ("too_broad", stats.tooBroad),
    ("manifest_games", games)]

/-- The counts in lines, below the files they are taken from. -/
def countsText (workspace : Workspace) (stats : Cache.Stats) (games : Nat) : String :=
  lines (["cache: " ++ Workspace.displayed workspace.cachePath,
    "manifest: " ++ Workspace.displayed workspace.manifestPath] ++
    (counts stats games).map fun (name, count) => countLine name count)

def countsJson (stats : Cache.Stats) (games : Nat) : Json :=
  .object ((counts stats games).map fun (name, count) => (name, .natural count))

end SaveManifest.CommandLine
