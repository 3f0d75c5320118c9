import Mathlib.Data.List.Forall2
import SaveManifest.Proofs.Refresh.Fixed

/-!
# What a refresh reports

A refresh asks for its titles one after the other (`refreshPages_recording`), and its report tells
of each answer once (`Accounts`). Each branch of the loop keeps the accounts; so the numbers of a
whole report add up, in whatever order pages come, are missing or cannot be fetched, and also
where several pages are stored under one title (`refresh_accounts`).
-/

namespace SaveManifest

open SaveManifest.Text

variable {σ : Type}

/-! ### Questions and answers -/

/-- What a wiki is asked. -/
inductive Question where
  | members (category : String)
  | page (title : String)
deriving DecidableEq, Repr

/-- What a wiki says about a title. -/
abbrev Answer := Except Failure (Option Page)

namespace Answer

def isFetched : Answer → Bool
  | .ok (some _) => true
  | _ => false

def isMissing : Answer → Bool
  | .ok none => true
  | _ => false

def isFailed : Answer → Bool
  | .ok _ => false
  | .error _ => true

/-- A page was fetched on which some paths get no entry. -/
def isFlagged (denylist : Path.Denylist) : Answer → Bool
  | .ok (some page) =>
    let tallies := (Extraction.ofContent denylist page.content).tallies
    0 < tallies.unsupportedOs || 0 < tallies.unsupportedPath || 0 < tallies.tooBroad
  | _ => false

end Answer

namespace Wiki

/-- The titles with the answers to them, when they are asked for one after the other. -/
def asked (wiki : Wiki σ) : List String → σ → List (String × Answer)
  | [], _ => []
  | title :: titles, state =>
    (title, (wiki.page title state).1) :: wiki.asked titles (wiki.page title state).2

theorem titles_asked (wiki : Wiki σ) (titles : List String) (state : σ) :
    (wiki.asked titles state).map (·.1) = titles := by
  induction titles generalizing state with
  | nil => rfl
  | cons title titles ih => rw [asked, List.map_cons, ih]

theorem length_asked (wiki : Wiki σ) (titles : List String) (state : σ) :
    (wiki.asked titles state).length = titles.length := by
  rw [← List.length_map (·.1), titles_asked]

/-- The wiki with a list of the questions it was asked. -/
def recording (wiki : Wiki σ) : Wiki (σ × List Question) where
  members category state :=
    let (answer, later) := wiki.members category state.1
    (answer, later, state.2 ++ [.members category])
  page title state :=
    let (answer, later) := wiki.page title state.1
    (answer, later, state.2 ++ [.page title])
  requests state := wiki.requests state.1

theorem page_recording (wiki : Wiki σ) (title : String) (state : σ)
    (questions : List Question) :
    wiki.recording.page title (state, questions) =
      ((wiki.page title state).1, (wiki.page title state).2, questions ++ [.page title]) := rfl

end Wiki

namespace Refresh

/-- The progress with a list of questions beside the wiki. -/
def Progress.recorded (progress : Progress σ) (questions : List Question) :
    Progress (σ × List Question) where
  wiki := (progress.wiki, questions)
  holdings := progress.holdings
  report := progress.report

theorem refreshPage_recording (wiki : Wiki σ) (denylist : Path.Denylist) (progress : Progress σ)
    (questions : List Question) (title : String) :
    refreshPage wiki.recording denylist (progress.recorded questions) title =
      (refreshPage wiki denylist progress title).recorded (questions ++ [.page title]) := by
  unfold refreshPage
  rw [Progress.recorded, Wiki.page_recording]
  rcases wiki.page title progress.wiki with ⟨failure | _ | page, later⟩
  · rfl
  · rfl
  · rfl

theorem refreshPages_recording (wiki : Wiki σ) (denylist : Path.Denylist) (titles : List String)
    (progress : Progress σ) (questions : List Question) :
    titles.foldl (refreshPage wiki.recording denylist) (progress.recorded questions) =
      (titles.foldl (refreshPage wiki denylist) progress).recorded
        (questions ++ titles.map .page) := by
  induction titles generalizing progress questions with
  | nil => rw [List.map_nil, List.append_nil]; rfl
  | cons title titles ih =>
    rw [List.foldl_cons, refreshPage_recording, ih, List.foldl_cons, List.map_cons,
      List.append_assoc, List.singleton_append]

/-! ### Selected titles -/

theorem requestedTitles_eq (requests : List String) :
    requestedTitles requests =
      ((requests.map requestedTitle).filter fun title => !title.isEmpty).eraseDups := by
  rw [requestedTitles, foldl_adjoin_eq_append_eraseDups, List.nil_append, List.filter_eq_self.2]
  simp

theorem limited_eq (limit : Option Nat) (titles : List String) :
    limited limit titles = titles.take (limit.getD titles.length) := by
  cases limit with
  | none => rw [Option.getD_none, List.take_length]; rfl
  | some count => rfl

/-- The titles that a selection stands for: the titles of a list in the order in which each comes
first in it, or else the titles of the cache whose entries satisfy a condition, in ascending
order. -/
def IsSelection (cache : Cache) (selected : List String) : Selection → Prop
  | .titles requests =>
    selected = ((requests.map requestedTitle).filter fun title => !title.isEmpty).eraseDups
  | .all => selected.Pairwise (· < ·) ∧ ∀ title, title ∈ selected ↔ cache.contains title = true
  | .pending =>
    selected.Pairwise (· < ·) ∧
      ∀ title, title ∈ selected ↔
        ∃ entry, cache.get? title = some entry ∧ entry.revision = none
  | .flagged =>
    selected.Pairwise (· < ·) ∧
      ∀ title, title ∈ selected ↔
        ∃ entry, cache.get? title = some entry ∧
          (entry.unsupportedOs = true ∨ entry.unsupportedPath = true ∨ entry.tooBroad = true)

theorem isSelection_selectTitles {cache : Cache} {selection : Selection} {selected : List String}
    (success : selectTitles cache selection = .ok selected) :
    IsSelection cache selected selection := by
  cases selection with
  | pending =>
    cases success
    refine ⟨Cache.ascending_titlesWhere _ _, fun title => ?_⟩
    simp only [Cache.pendingTitles, Cache.mem_titlesWhere, CacheEntry.isPending,
      Option.isNone_iff_eq_none]
  | all =>
    cases success
    exact ⟨cache.ascending_keys, fun title => Catalog.mem_keys⟩
  | flagged =>
    cases success
    refine ⟨Cache.ascending_titlesWhere _ _, fun title => ?_⟩
    simp only [Cache.flaggedTitles, Cache.mem_titlesWhere, CacheEntry.isFlagged, Bool.or_eq_true,
      or_assoc]
  | titles requests =>
    rw [IsSelection, ← requestedTitles_eq]
    rw [selectTitles] at success
    split at success
    · cases success
    · cases success
      rfl

theorem nodup_selectTitles {cache : Cache} {selection : Selection} {selected : List String}
    (success : selectTitles cache selection = .ok selected) : selected.Nodup := by
  cases selection with
  | pending =>
    cases success
    exact Cache.nodup_titlesWhere _ _
  | all =>
    cases success
    exact Catalog.nodup_keys _
  | flagged =>
    cases success
    exact Cache.nodup_titlesWhere _ _
  | titles requests =>
    rw [selectTitles] at success
    split at success
    · cases success
    · cases success
      exact nodup_requestedTitles requests

/-! ### Accounts -/

/-- How a page of the report tells of the answer to a title. -/
inductive Tells (denylist : Path.Denylist) : String × Answer → PageResult → Prop
  | missing (title : String) : Tells denylist (title, .ok none) ⟨title, .missing⟩
  | failed (title : String) (failure : Failure) :
    Tells denylist (title, .error failure) ⟨title, .failed⟩
  | stored (title : String) (page : Page) (change : Manifest.Change) :
    Tells denylist (title, .ok (some page))
      ⟨storageTitle title page,
        .stored change (Extraction.ofContent denylist page.content).tallies⟩

/-- The report tells of the answers in their order, and its numbers are theirs; the manifest grew
by the records that it tells to be added. -/
structure Accounts (denylist : Path.Denylist) (answers : List (String × Answer))
    (report : RefreshReport) (before after : Manifest) : Prop where
  pages : List.Forall₂ (Tells denylist) answers report.pages
  processed : report.processed = answers.countP (·.2.isFetched)
  missing : report.missing = answers.countP (·.2.isMissing)
  errors : report.errors.length = answers.countP (·.2.isFailed)
  flagged : report.flagged = answers.countP (·.2.isFlagged denylist)
  growth : after.size = before.size + report.pages.countP (·.outcome.action == "added")

namespace Accounts

variable {denylist : Path.Denylist} {answers : List (String × Answer)} {report : RefreshReport}
  {before now : Manifest}

theorem length_pages (accounts : Accounts denylist answers report before now) :
    report.pages.length = answers.length :=
  accounts.pages.length_eq.symm

/-- Every answer is one of three. -/
theorem length_answers (answers : List (String × Answer)) :
    answers.length = answers.countP (·.2.isFetched) + answers.countP (·.2.isMissing) +
      answers.countP (·.2.isFailed) := by
  induction answers with
  | nil => rfl
  | cons answer answers ih =>
    have one : (if answer.2.isFetched then 1 else 0) + (if answer.2.isMissing then 1 else 0) +
        (if answer.2.isFailed then 1 else 0) = 1 := by
      rcases answer with ⟨title, failure | _ | page⟩ <;> rfl
    rw [List.length_cons, List.countP_cons, List.countP_cons, List.countP_cons]
    omega

theorem balance (accounts : Accounts denylist answers report before now) :
    report.pages.length = report.processed + report.missing + report.errors.length := by
  rw [accounts.length_pages, accounts.processed, accounts.missing, accounts.errors]
  exact length_answers answers

theorem flagged_le_processed (accounts : Accounts denylist answers report before now) :
    report.flagged ≤ report.processed := by
  rw [accounts.flagged, accounts.processed]
  apply List.countP_mono_left
  rintro ⟨title, failure | _ | page⟩ - flagged
  · cases flagged
  · cases flagged
  · rfl

/-- The number of requests is no part of the accounts. -/
theorem withRequests (accounts : Accounts denylist answers report before now) (requests : Nat) :
    Accounts denylist answers { report with requests } before now :=
  ⟨accounts.pages, accounts.processed, accounts.missing, accounts.errors, accounts.flagged,
    accounts.growth⟩

/-- One more answer, told by one more page of the report. -/
theorem concat (accounts : Accounts denylist answers report before now)
    {answer : String × Answer} {result : PageResult} {later : RefreshReport} {after : Manifest}
    (tells : Tells denylist answer result) (pages : later.pages = report.pages ++ [result])
    (processed : later.processed = report.processed + if answer.2.isFetched then 1 else 0)
    (missing : later.missing = report.missing + if answer.2.isMissing then 1 else 0)
    (errors : later.errors.length = report.errors.length + if answer.2.isFailed then 1 else 0)
    (flagged : later.flagged = report.flagged + if answer.2.isFlagged denylist then 1 else 0)
    (growth : after.size = now.size + if result.outcome.action == "added" then 1 else 0) :
    Accounts denylist (answers ++ [answer]) later before after where
  pages := by
    rw [pages]
    exact List.rel_append accounts.pages (.cons tells .nil)
  processed := by rw [processed, accounts.processed, List.countP_append, List.countP_singleton]
  missing := by rw [missing, accounts.missing, List.countP_append, List.countP_singleton]
  errors := by rw [errors, accounts.errors, List.countP_append, List.countP_singleton]
  flagged := by rw [flagged, accounts.flagged, List.countP_append, List.countP_singleton]
  growth := by
    rw [growth, accounts.growth, pages, List.countP_append, List.countP_singleton, Nat.add_assoc]

end Accounts

theorem isFlagged_eq_not_isClean (denylist : Path.Denylist) (page : Page) :
    Answer.isFlagged denylist (.ok (some page)) =
      !(Extraction.ofContent denylist page.content).tallies.isClean := by
  rw [Bool.eq_iff_iff]
  simp [Answer.isFlagged, Tallies.isClean]
  omega

/-- A record is told to be added just where the manifest grows. -/
theorem size_insert_changeOf (manifest : Manifest) (title : String) (record : Record) :
    (manifest.insert title record).size =
      manifest.size + if (manifest.changeOf title record).name == "added" then 1 else 0 := by
  rw [Catalog.size_insert, Catalog.contains, Manifest.changeOf]
  cases manifest.get? title with
  | none => rfl
  | some old =>
    by_cases same : old = record
    · simp only [same, if_true]
      rfl
    · simp only [same, if_false]
      rfl

/-- Each branch of the loop keeps the accounts. -/
theorem accounts_refreshPage (wiki : Wiki σ) (denylist : Path.Denylist) {progress : Progress σ}
    {answers : List (String × Answer)} {before : Manifest}
    (accounts : Accounts denylist answers progress.report before progress.holdings.manifest)
    (title : String) :
    let next := refreshPage wiki denylist progress title
    Accounts denylist (answers ++ [(title, (wiki.page title progress.wiki).1)]) next.report before
        next.holdings.manifest ∧
      next.wiki = (wiki.page title progress.wiki).2 ∧
      next.report.requested = progress.report.requested := by
  unfold refreshPage
  rcases wiki.page title progress.wiki with ⟨failure | _ | page, later⟩
  · refine ⟨accounts.concat (.failed title failure) rfl rfl rfl ?_ rfl rfl, rfl, rfl⟩
    exact List.length_append
  · exact ⟨accounts.concat (.missing title) rfl rfl rfl rfl rfl rfl, rfl, rfl⟩
  · refine ⟨accounts.concat (.stored title page _) rfl rfl rfl rfl ?_ ?_, rfl, rfl⟩
    · rw [isFlagged_eq_not_isClean]
      change progress.report.flagged + _ = progress.report.flagged + _
      cases (Extraction.ofContent denylist page.content).tallies.isClean with
      | false => rfl
      | true => rfl
    · exact size_insert_changeOf _ _ _

/-- All pages together keep the accounts. -/
theorem accounts_refreshPages (wiki : Wiki σ) (denylist : Path.Denylist) (titles : List String)
    {progress : Progress σ} {answers : List (String × Answer)} {before : Manifest}
    (accounts : Accounts denylist answers progress.report before progress.holdings.manifest) :
    let last := titles.foldl (refreshPage wiki denylist) progress
    Accounts denylist (answers ++ wiki.asked titles progress.wiki) last.report before
        last.holdings.manifest ∧
      last.report.requested = progress.report.requested := by
  induction titles generalizing progress answers with
  | nil =>
    rw [Wiki.asked, List.append_nil]
    exact ⟨accounts, rfl⟩
  | cons title titles ih =>
    obtain ⟨next, wikiAfter, requested⟩ := accounts_refreshPage wiki denylist accounts title
    obtain ⟨last, same⟩ := ih next
    rw [wikiAfter, List.append_assoc, List.singleton_append] at last
    exact ⟨last, same.trans requested⟩

end Refresh

open Refresh

/-- The report of a refresh accounts for every selected title once: the wiki is asked for just these
titles, each once and in order, and is asked nothing else; the report tells of each answer in this
order, and its numbers are those of the answers. -/
theorem refresh_accounts {wiki : Wiki σ} {denylist : Path.Denylist} {options : RefreshOptions}
    {holdings after : Holdings} {state later : σ} {report : RefreshReport}
    (success : refresh wiki denylist options holdings state = (.ok report, after, later)) :
    ∃ selected titles : List String,
      IsSelection holdings.cache selected options.selection ∧ selected.Nodup ∧
      titles = selected.take (options.limit.getD selected.length) ∧
      refresh wiki.recording denylist options holdings (state, []) =
        (.ok report, after, later, titles.map .page) ∧
      Accounts denylist (wiki.asked titles state) report holdings.manifest after.manifest ∧
      report.requested = titles.length ∧ report.requested = report.pages.length ∧
      report.requested = report.processed + report.missing + report.errors.length ∧
      report.flagged ≤ report.processed ∧ (report.success = true ↔ report.errors = []) := by
  cases chosen : selectTitles holdings.cache options.selection with
  | error failure =>
    rw [refresh, chosen] at success
    cases success
  | ok selected =>
    let titles := limited options.limit selected
    let start : Progress σ :=
      { wiki := state, holdings, report := { requested := titles.length } }
    have opening : Accounts denylist [] start.report holdings.manifest holdings.manifest :=
      ⟨.nil, rfl, rfl, rfl, rfl, rfl⟩
    obtain ⟨closing, requested⟩ := accounts_refreshPages wiki denylist titles opening
    have recorded := refreshPages_recording wiki denylist titles start []
    have length := closing.length_pages.trans (wiki.length_asked titles state)
    refine ⟨selected, titles, isSelection_selectTitles chosen, nodup_selectTitles chosen,
      limited_eq options.limit selected, ?_⟩
    rw [refresh, chosen] at success
    cases success
    refine ⟨?_, closing.withRequests _, requested, requested.trans length.symm, ?_,
      closing.flagged_le_processed, List.isEmpty_iff⟩
    · rw [refresh, chosen]
      exact congrArg (fun last : Progress (σ × List Question) =>
        (Except.ok { last.report with requests := wiki.requests last.wiki.1 }, last.holdings,
          last.wiki)) recorded
    · exact requested.trans (length.symm.trans closing.balance)

/-- Two pages under one title, of which one has a path that is too broad, one page that cannot be
fetched, and no other. -/
def sharedAnswer (title : String) : Answer :=
  if title = "Alpha One" then
    .ok (some { title := "Alpha", pageId := 7, revision := some 3, content :=
      "\x7b\x7bGame data/saves|Windows|\x7b\x7bP|userprofile\x7d\x7d\x7d\x7d" })
  else if title = "Alpha" then
    .ok (some { title := "", pageId := 7, revision := none, content := "" })
  else if title = "Down" then .error (.told ["connection reset"])
  else .ok none

theorem refresh_accounts_shared :
    let wiki := Wiki.ofAnswers sharedAnswer
    let options : RefreshOptions :=
      { selection := .titles ["Alpha_One", "Down", " ", "Alpha One", "Gone", "Alpha", "Beyond"]
        limit := some 4 }
    ∃ report after later, refresh wiki .standard options {} 0 = (.ok report, after, later) ∧
      Accounts .standard (wiki.asked ["Alpha One", "Down", "Gone", "Alpha"] 0) report {}
        after.manifest ∧
      (report.requested, report.processed, report.missing, report.errors.length, report.flagged) =
        (4, 2, 1, 1, 1) ∧
      report.pages.map (·.outcome.action) = ["added", "error", "missing", "unchanged"] ∧
      after.manifest.size = 1 := by
  intro wiki options
  have outcome : (refresh wiki .standard options {} 0).1.toOption.map (fun report =>
      ((report.requested, report.processed, report.missing, report.errors.length,
        report.flagged), report.pages.map (·.outcome.action))) =
      some ((4, 2, 1, 1, 1), ["added", "error", "missing", "unchanged"]) := by decide +kernel
  have size : (refresh wiki .standard options {} 0).2.1.manifest.size = 1 := by decide +kernel
  rcases success : refresh wiki .standard options {} 0 with ⟨failure | report, after, later⟩
  · rw [success] at outcome
    cases outcome
  · obtain ⟨selected, titles, selection, -, taken, -, accounts, -⟩ := refresh_accounts success
    have wanted : selected = ["Alpha One", "Down", "Gone", "Alpha", "Beyond"] :=
      Eq.trans selection (by decide +kernel)
    rw [taken, wanted] at accounts
    rw [success] at outcome size
    simp only [Except.toOption, Option.map_some, Option.some.injEq, Prod.mk.injEq] at outcome
    obtain ⟨numbers, actions⟩ := outcome
    refine ⟨report, after, later, rfl, accounts, ?_, actions, size⟩
    simp only [Prod.mk.injEq]
    exact numbers

end SaveManifest
