import SaveManifest.Manifest
import SaveManifest.Wiki

/-!
# Refresh

Fetching selected pages one after the other and taking over what they say. A page changes the
cache and the manifest only after it was fetched, and both together; it is stored under the
title the wiki reports, or under the requested one when the reported title is blank. A page that
is missing or cannot be fetched leaves everything as it was and only shows in the report.
-/

namespace SaveManifest

inductive Selection where
  | pending
  | all
  | flagged
  | titles (requested : List String)
deriving DecidableEq, Repr

structure RefreshOptions where
  selection : Selection := .pending
  limit : Option Nat := none
deriving DecidableEq, Repr

inductive PageOutcome where
  | missing
  | failed
  | stored (change : Manifest.Change) (tallies : Tallies)
deriving DecidableEq, Repr

namespace PageOutcome

/-- The outcome in one word. -/
def action : PageOutcome → String
  | missing => "missing"
  | failed => "error"
  | stored change _ => change.name

/-- What there is to add to the outcome. -/
def detail? : PageOutcome → Option String
  | missing => some "page not found"
  | failed => some "fetch failed"
  | stored _ _ => none

def tallies? : PageOutcome → Option Tallies
  | stored _ tallies => some tallies
  | _ => none

end PageOutcome

/-- A page of the report: its title and what became of it. -/
structure PageResult where
  title : String
  outcome : PageOutcome
deriving DecidableEq, Repr

structure RefreshReport where
  requested : Nat
  processed : Nat := 0
  missing : Nat := 0
  flagged : Nat := 0
  errors : List String := []
  pages : List PageResult := []
  requests : Nat := 0
deriving DecidableEq, Repr

namespace RefreshReport

/-- Every page was fetched or known to be missing. -/
def success (report : RefreshReport) : Bool := report.errors.isEmpty

def addMissing (report : RefreshReport) (title : String) : RefreshReport :=
  { report with
    missing := report.missing + 1
    pages := report.pages ++ [⟨title, .missing⟩] }

def addFailed (report : RefreshReport) (title : String) (failure : Failure) : RefreshReport :=
  { report with
    errors := report.errors ++ [title ++ ": " ++ failure.brief]
    pages := report.pages ++ [⟨title, .failed⟩] }

def addStored (report : RefreshReport) (title : String) (change : Manifest.Change)
    (tallies : Tallies) : RefreshReport :=
  { report with
    processed := report.processed + 1
    flagged := report.flagged + (if tallies.isClean then 0 else 1)
    pages := report.pages ++ [⟨title, .stored change tallies⟩] }

end RefreshReport

/-- What is kept between runs. -/
structure Holdings where
  cache : Cache := {}
  manifest : Manifest := {}
deriving DecidableEq, Repr

namespace Refresh

open SaveManifest.Text

/-- The title a request stands for: underscores count as spaces, and white space at the ends
does not count. -/
def requestedTitle (request : String) : String :=
  onString (fun cs => trim (cs.map fun c => if c = '_' then ' ' else c)) request

/-- The titles of a list of requests, blank ones left out, each once. -/
def requestedTitles (requests : List String) : List String :=
  ((requests.map requestedTitle).filter fun title => !title.isEmpty).foldl adjoin []

def selectTitles (cache : Cache) : Selection → Except Failure (List String)
  | .pending => .ok cache.pendingTitles
  | .all => .ok cache.keys
  | .flagged => .ok cache.flaggedTitles
  | .titles requests =>
    match requestedTitles requests with
    | [] => .error .noTitle
    | titles => .ok titles

/-- The title under which a fetched page is stored. -/
def storageTitle (requested : String) (page : Page) : String :=
  if isBlankText page.title then requested else page.title

/-- The holdings after a page was taken over under a title. -/
def store (holdings : Holdings) (title : String) (page : Page) (extraction : Extraction) :
    Holdings where
  cache :=
    (holdings.cache.mark ⟨page.pageId, title⟩).update title extraction.tallies page.revision
  manifest := holdings.manifest.insert title extraction.record

/-- Where a refresh stands: the wiki, what is kept, and the report so far. -/
structure Progress (σ : Type) where
  wiki : σ
  holdings : Holdings
  report : RefreshReport

def refreshPage {σ : Type} (wiki : Wiki σ) (denylist : Path.Denylist) (progress : Progress σ)
    (requested : String) : Progress σ :=
  match wiki.page requested progress.wiki with
  | (.ok none, state) =>
    { progress with wiki := state, report := progress.report.addMissing requested }
  | (.error failure, state) =>
    { progress with wiki := state, report := progress.report.addFailed requested failure }
  | (.ok (some page), state) =>
    let title := storageTitle requested page
    let extraction := Extraction.ofContent denylist page.content
    let change := progress.holdings.manifest.changeOf title extraction.record
    { wiki := state
      holdings := store progress.holdings title page extraction
      report := progress.report.addStored title change extraction.tallies }

/-- The first titles of a list, as many as the limit allows. -/
def limited (limit : Option Nat) (titles : List String) : List String :=
  match limit with
  | some count => titles.take count
  | none => titles

end Refresh

/-- Refreshes the selected pages in order. The holdings and the state of the wiki come back in any
case. -/
def refresh {σ : Type} (wiki : Wiki σ) (denylist : Path.Denylist) (options : RefreshOptions)
    (holdings : Holdings) (state : σ) : Except Failure RefreshReport × Holdings × σ :=
  match Refresh.selectTitles holdings.cache options.selection with
  | .error failure => (.error failure, holdings, state)
  | .ok selected =>
    let titles := Refresh.limited options.limit selected
    let start : Refresh.Progress σ :=
      { wiki := state, holdings, report := { requested := titles.length } }
    let last := titles.foldl (Refresh.refreshPage wiki denylist) start
    (.ok { last.report with requests := wiki.requests last.wiki }, last.holdings, last.wiki)

end SaveManifest
