import SaveManifest.Proofs.Refresh.InStep

/-!
# What a refresh changes

A refresh asks for its titles one after the other and stores the pages it gets (`Wiki.fetched`),
each under a title that need not be the one asked for. What is held of a title afterwards depends
on the pages stored under it alone (`refresh_effect`): without such a page it is what it was; else
the last page gives the record, the revision and the flags, and the first one gives the page id
of a title that was unknown.
-/

namespace SaveManifest

variable {σ : Type}

/-- The pages that are fetched when titles are asked for one after the other, each with the title
that was asked for. Failures and missing pages are left out. -/
def Wiki.fetched (wiki : Wiki σ) : List String → σ → List (String × Page)
  | [], _ => []
  | title :: titles, state =>
    match wiki.page title state with
    | (.ok (some page), state) => (title, page) :: wiki.fetched titles state
    | (.ok none, state) => wiki.fetched titles state
    | (.error _, state) => wiki.fetched titles state

structure Holding where
  entry : Option CacheEntry
  record : Option Record
deriving DecidableEq, Repr

def Holdings.holding (holdings : Holdings) (title : String) : Holding where
  entry := holdings.cache.get? title
  record := holdings.manifest.get? title

/-- What is held of a title after pages were stored under it. All of it comes from the last page,
but for the page id, which is the one known before or else that of the first page. -/
def Holding.takeOver (denylist : Path.Denylist) (old : Holding) : List Page → Holding
  | [] => old
  | first :: others =>
    let last := others.getLastD first
    let extraction := Extraction.ofContent denylist last.content
    { entry := some {
        pageId := (old.entry.map (·.pageId)).getD first.pageId
        revision := some (last.revision.getD 0)
        unsupportedOs := 0 < extraction.tallies.unsupportedOs
        unsupportedPath := 0 < extraction.tallies.unsupportedPath
        tooBroad := 0 < extraction.tallies.tooBroad }
      record := some extraction.record }

/-- Pages taken over one after the other leave what they leave together. -/
theorem Holding.takeOver_cons (denylist : Path.Denylist) (old : Holding) (page : Page)
    (pages : List Page) :
    (old.takeOver denylist [page]).takeOver denylist pages =
      old.takeOver denylist (page :: pages) := by
  cases pages with
  | nil => rfl
  | cons next pages =>
    simp only [Holding.takeOver, Option.map_some, Option.getD_some, List.getLastD_cons]

namespace Refresh

/-- The pages stored under a title, in the order in which they were fetched. -/
def storedUnder (title : String) (fetched : List (String × Page)) : List Page :=
  (fetched.filter fun answer => storageTitle answer.1 answer.2 == title).map (·.2)

def storeFetched (denylist : Path.Denylist) (holdings : Holdings) (answer : String × Page) :
    Holdings :=
  store holdings (storageTitle answer.1 answer.2) answer.2
    (Extraction.ofContent denylist answer.2.content)

theorem storedUnder_cons_of_eq {title : String} {answer : String × Page}
    (same : storageTitle answer.1 answer.2 = title) (fetched : List (String × Page)) :
    storedUnder title (answer :: fetched) = answer.2 :: storedUnder title fetched := by
  rw [storedUnder, storedUnder, List.filter_cons, if_pos (beq_iff_eq.2 same), List.map_cons]

theorem storedUnder_cons_of_ne {title : String} {answer : String × Page}
    (other : storageTitle answer.1 answer.2 ≠ title) (fetched : List (String × Page)) :
    storedUnder title (answer :: fetched) = storedUnder title fetched := by
  rw [storedUnder, storedUnder, List.filter_cons, if_neg (fun same => other (beq_iff_eq.1 same))]

/-- Storing a page changes what is held of its storage title and nothing else. -/
theorem holding_storeFetched (denylist : Path.Denylist) (holdings : Holdings)
    (answer : String × Page) (title : String) :
    (storeFetched denylist holdings answer).holding title =
      (holdings.holding title).takeOver denylist (storedUnder title [answer]) := by
  by_cases same : storageTitle answer.1 answer.2 = title
  · rw [storedUnder_cons_of_eq same]
    have entry := get?_store holdings title title answer.2
      (Extraction.ofContent denylist answer.2.content)
    rw [if_pos rfl] at entry
    simp only [storeFetched, same, Holdings.holding, entry]
    cases holdings.cache.get? title with
    | none => simp [store, Holding.takeOver, storedUnder, CacheEntry.processed]
    | some old => simp [store, Holding.takeOver, storedUnder, CacheEntry.processed]
  · rw [storedUnder_cons_of_ne same]
    have apart : title ≠ storageTitle answer.1 answer.2 := fun equal => same equal.symm
    have entry := get?_store holdings (storageTitle answer.1 answer.2) title answer.2
      (Extraction.ofContent denylist answer.2.content)
    rw [if_neg apart] at entry
    have record : (store holdings (storageTitle answer.1 answer.2) answer.2
        (Extraction.ofContent denylist answer.2.content)).manifest.get? title =
        holdings.manifest.get? title := by
      rw [store, Catalog.get?_insert, if_neg apart]
    simp only [storeFetched, Holdings.holding, entry, record]
    rfl

/-- What is held of a title after several fetched pages. -/
theorem holding_foldl (denylist : Path.Denylist) (fetched : List (String × Page))
    (holdings : Holdings) (title : String) :
    (fetched.foldl (storeFetched denylist) holdings).holding title =
      (holdings.holding title).takeOver denylist (storedUnder title fetched) := by
  induction fetched generalizing holdings with
  | nil => rfl
  | cons answer fetched ih =>
    rw [List.foldl_cons, ih, holding_storeFetched]
    by_cases same : storageTitle answer.1 answer.2 = title
    · rw [storedUnder_cons_of_eq same, storedUnder_cons_of_eq same]
      exact Holding.takeOver_cons _ _ _ _
    · rw [storedUnder_cons_of_ne same, storedUnder_cons_of_ne same]
      rfl

/-- The holdings of a refresh come from the pages it fetches and from nothing else. -/
theorem holdings_foldl (wiki : Wiki σ) (denylist : Path.Denylist) (titles : List String)
    (progress : Progress σ) :
    (titles.foldl (refreshPage wiki denylist) progress).holdings =
      (wiki.fetched titles progress.wiki).foldl (storeFetched denylist) progress.holdings := by
  induction titles generalizing progress with
  | nil => rfl
  | cons title titles ih =>
    rw [List.foldl_cons, ih, refreshPage, Wiki.fetched]
    cases wiki.page title progress.wiki with
    | mk outcome later =>
      cases outcome with
      | error failure => rfl
      | ok answer =>
        cases answer with
        | none => rfl
        | some page => rfl

/-- Only a list of titles in which all are blank cannot be selected. -/
theorem selectTitles_eq_error {cache : Cache} {selection : Selection} {failure : Failure}
    (refused : selectTitles cache selection = .error failure) :
    failure = .noTitle ∧ ∃ requests, selection = .titles requests ∧
      requestedTitles requests = [] := by
  cases selection with
  | pending => cases refused
  | all => cases refused
  | flagged => cases refused
  | titles requests =>
    rw [selectTitles] at refused
    cases wanted : requestedTitles requests with
    | nil =>
      rw [wanted] at refused
      cases refused
      exact ⟨rfl, requests, rfl, wanted⟩
    | cons title titles =>
      rw [wanted] at refused
      cases refused

end Refresh

open Refresh

/-- A refresh fails only where no title was given; then the wiki was not asked, and cache and
manifest are what they were. Otherwise what is held of each title is what the pages stored under
it make of what was held before. -/
theorem refresh_effect (wiki : Wiki σ) (denylist : Path.Denylist) (options : RefreshOptions)
    (holdings : Holdings) (state : σ) :
    match refresh wiki denylist options holdings state with
    | (.error failure, after, later) =>
      failure = .noTitle ∧
        (∃ requests, options.selection = .titles requests ∧ requestedTitles requests = []) ∧
        after = holdings ∧ later = state
    | (.ok _, after, _) =>
      ∃ selected, selectTitles holdings.cache options.selection = .ok selected ∧
        ∀ title, after.holding title =
          (holdings.holding title).takeOver denylist
            (storedUnder title (wiki.fetched (limited options.limit selected) state)) := by
  unfold refresh
  cases chosen : selectTitles holdings.cache options.selection with
  | error failure =>
    obtain ⟨noTitle, blank⟩ := selectTitles_eq_error chosen
    exact ⟨noTitle, blank, rfl, rfl⟩
  | ok selected =>
    refine ⟨selected, rfl, ?_⟩
    intro title
    simp only [holdings_foldl, holding_foldl]

/-- The wiki that gives these answers and counts the questions. -/
def Wiki.ofAnswers (answer : String → Except Failure (Option Page)) : Wiki Nat where
  members _ asked := (.ok [], asked + 1)
  page title asked := (answer title, asked + 1)
  requests asked := asked

/-- Two pages under one title, of which one comes for another title, a page under a blank title, and one
that cannot be fetched. -/
def retitledAnswer (title : String) : Except Failure (Option Page) :=
  if title = "Alpha One" then
    .ok (some { title := "Alpha", pageId := 7, revision := some 3, content :=
      "\x7b\x7bGame data/saves|Windows|\x7b\x7bP|game\x7d\x7d/early\x7d\x7d" })
  else if title = "Alpha" then
    .ok (some { title := "Alpha", pageId := 8, revision := none, content :=
      "\x7b\x7bGame data/saves|Windows|\x7b\x7bP|game\x7d\x7d/late\x7d\x7d" })
  else if title = "Beta" then
    .ok (some { title := " ", pageId := 9, revision := some 1, content :=
      "\x7b\x7bGame data/config|Windows|\x7b\x7bP|game\x7d\x7d\x7d\x7d" })
  else .error (.told ["connection reset"])

/-- The last page under a title counts, and the first one for its id; nothing is held of the title
for which it came. A page under a blank title counts for the title that was asked for. -/
theorem refresh_effect_otherTitles :
    let before : Holdings := { cache := Cache.mark {} ⟨4, "Down"⟩ }
    let options : RefreshOptions := { selection := .titles ["Alpha One", "Alpha", "Beta", "Down"] }
    ∃ report after later,
      refresh (Wiki.ofAnswers retitledAnswer) .standard options before 0 =
        (.ok report, after, later) ∧
      after.holding "Alpha One" = { entry := none, record := none } ∧
      after.holding "Alpha" =
        { entry := some { pageId := 7, revision := some 0 }
          record := some (({} : Record).update .file "<base>/late" fun _ =>
            { constraints := [{ os := some .windows }], tags := [.save] }) } ∧
      after.holding "Beta" =
        { entry := some { pageId := 9, revision := some 1, tooBroad := true }, record := some {} } ∧
      after.holding "Down" = before.holding "Down" := by
  intro before options
  have effect := refresh_effect (Wiki.ofAnswers retitledAnswer) .standard options before 0
  have success : (refresh (Wiki.ofAnswers retitledAnswer) .standard options before 0).1.isOk =
      true := by decide +kernel
  rcases called : refresh (Wiki.ofAnswers retitledAnswer) .standard options before 0 with
    ⟨failure | report, after, later⟩
  · rw [called] at success
    cases success
  · rw [called] at effect
    obtain ⟨selected, chosen, holds⟩ := effect
    have titles : (selectTitles before.cache options.selection).toOption =
        some ["Alpha One", "Alpha", "Beta", "Down"] := by decide +kernel
    rw [chosen] at titles
    cases titles
    refine ⟨report, after, later, rfl, ?_, ?_, ?_, ?_⟩
    · rw [holds]
      decide +kernel
    · rw [holds]
      decide +kernel
    · rw [holds]
      decide +kernel
    · rw [holds]
      decide +kernel

end SaveManifest
