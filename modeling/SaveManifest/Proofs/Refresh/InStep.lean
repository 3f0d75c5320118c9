import SaveManifest.Discovery
import SaveManifest.Proofs.Cache
import SaveManifest.Refresh

/-!
# Cache and manifest stay in step

A run is any sequence of discoveries and refreshes, with any wikis and whatever these answer. From
empty holdings on, the manifest has a record of exactly the pages that the cache counts as
processed, and a page that is pending has no flag (`InStep`). Nothing that is known of a page is
lost on the way (`Kept`). Both follow from what one page and one listed member do (`Advances`).
-/

namespace SaveManifest

/-- The manifest has the records of the processed pages, and pending pages have no flag. -/
structure InStep (holdings : Holdings) : Prop where
  recorded : ∀ title, holdings.manifest.contains title = true ↔
    ∃ entry, holdings.cache.get? title = some entry ∧ entry.isPending = false
  unflagged : ∀ title entry, holdings.cache.get? title = some entry → entry.isPending = true →
    entry.unsupportedOs = false ∧ entry.unsupportedPath = false ∧ entry.tooBroad = false

/-- No page is lost, changes its id or becomes pending again, and no record is lost. -/
structure Kept (early late : Holdings) : Prop where
  entry : ∀ title entry, early.cache.get? title = some entry →
    ∃ later, late.cache.get? title = some later ∧ later.pageId = entry.pageId ∧
      (entry.isPending = false → later.isPending = false)
  record : ∀ title, early.manifest.contains title = true → late.manifest.contains title = true

theorem Kept.refl (holdings : Holdings) : Kept holdings holdings where
  entry _ entry found := ⟨entry, found, rfl, id⟩
  record _ := id

theorem Kept.trans {first second third : Holdings} (early : Kept first second)
    (late : Kept second third) : Kept first third where
  entry title entry found := by
    obtain ⟨middle, here, sameId, processed⟩ := early.entry title entry found
    obtain ⟨last, there, sameIdAgain, processedStill⟩ := late.entry title middle here
    refine ⟨last, there, sameIdAgain.trans sameId, ?_⟩
    intro done
    exact processedStill (processed done)
  record title present := late.record title (early.record title present)

/-- What every part of a run does: it keeps holdings in step, and it keeps what they hold. -/
structure Advances (early late : Holdings) : Prop where
  inStep : InStep early → InStep late
  kept : Kept early late

theorem Advances.refl (holdings : Holdings) : Advances holdings holdings where
  inStep := id
  kept := .refl holdings

theorem Advances.trans {first second third : Holdings} (early : Advances first second)
    (late : Advances second third) : Advances first third where
  inStep held := late.inStep (early.inStep held)
  kept := early.kept.trans late.kept

theorem inStep_empty : InStep {} where
  recorded title := by
    constructor
    · intro present
      cases present
    · rintro ⟨entry, found, -⟩
      cases found
  unflagged title entry found := by cases found

namespace InStep

/-- No page is both pending and flagged. -/
theorem disjoint {holdings : Holdings} (held : InStep holdings) :
    ∀ title ∈ holdings.cache.pendingTitles, title ∉ holdings.cache.flaggedTitles := by
  intro title pending flagged
  obtain ⟨entry, found, isPending⟩ := Cache.mem_titlesWhere.1 pending
  obtain ⟨other, again, isFlagged⟩ := Cache.mem_titlesWhere.1 flagged
  rw [found] at again
  cases again
  have clean := held.unflagged title entry found isPending
  rw [(CacheEntry.isFlagged_eq_false_iff entry).2 clean] at isFlagged
  cases isFlagged

/-- The records are as many as the processed pages. -/
theorem size_manifest {holdings : Holdings} (held : InStep holdings) :
    holdings.manifest.size = (holdings.cache.titlesWhere fun entry => !entry.isPending).length := by
  have same : holdings.manifest.keys.Perm
      (holdings.cache.titlesWhere fun entry => !entry.isPending) := by
    rw [List.perm_ext_iff_of_nodup (Catalog.nodup_keys _) (Cache.nodup_titlesWhere _ _)]
    intro title
    rw [Catalog.mem_keys, held.recorded, Cache.mem_titlesWhere]
    simp only [Bool.not_eq_true']
  rw [← Catalog.length_keys]
  exact same.length_eq

theorem stats_pages {holdings : Holdings} (held : InStep holdings) :
    holdings.cache.stats.pending + holdings.manifest.size = holdings.cache.stats.pages := by
  have pages := Cache.pages_eq holdings.cache
  have records := held.size_manifest
  omega

end InStep

/-- A listed member adds at most a pending page without flags. -/
theorem advances_mark (holdings : Holdings) (member : Member) :
    Advances holdings { holdings with cache := holdings.cache.mark member } where
  kept := by
    constructor
    · intro title entry found
      refine ⟨entry, ?_, rfl, id⟩
      rw [Cache.get?_mark, found]
      split
      · rfl
      · rfl
    · intro title present
      exact present
  inStep held := by
    constructor
    · intro title
      rw [held.recorded, Cache.get?_mark]
      by_cases same : title = member.title
      · rw [if_pos same]
        cases holdings.cache.get? title with
        | some entry => rfl
        | none =>
          -- The new entry is pending, so it asks for no record.
          constructor
          · rintro ⟨entry, found, -⟩
            cases found
          · rintro ⟨entry, found, processed⟩
            cases found
            cases processed
      · rw [if_neg same]
    · intro title entry found pending
      rw [Cache.get?_mark] at found
      by_cases same : title = member.title
      · rw [if_pos same] at found
        cases known : holdings.cache.get? title with
        | some old =>
          rw [known] at found
          cases found
          exact held.unflagged title old known pending
        | none =>
          rw [known] at found
          cases found
          exact ⟨rfl, rfl, rfl⟩
      · rw [if_neg same] at found
        exact held.unflagged title entry found pending

theorem advances_markAll (holdings : Holdings) (members : List Member) :
    Advances holdings { holdings with cache := holdings.cache.markAll members } := by
  induction members generalizing holdings with
  | nil => exact .refl holdings
  | cons member members ih =>
    apply (advances_mark holdings member).trans
    exact ih { holdings with cache := holdings.cache.mark member }

namespace Refresh

open SaveManifest.Path SaveManifest.Text

/-- The entry of a stored page, and every other entry as it was. -/
theorem get?_store (holdings : Holdings) (title probe : String) (page : Page)
    (extraction : Extraction) :
    (store holdings title page extraction).cache.get? probe =
      if probe = title then
        some (((holdings.cache.get? title).getD { pageId := page.pageId }).processed
          extraction.tallies page.revision)
      else holdings.cache.get? probe := by
  simp only [store, Cache.get?_update, Cache.get?_mark, if_true, Option.getD_some]
  by_cases same : probe = title
  · rw [if_pos same, if_pos same]
  · rw [if_neg same, if_neg same, if_neg same]

/-- A stored page is processed and has a record. -/
theorem advances_store (holdings : Holdings) (title : String) (page : Page)
    (extraction : Extraction) : Advances holdings (store holdings title page extraction) where
  kept := by
    constructor
    · intro probe entry found
      rw [get?_store]
      by_cases same : probe = title
      · subst same
        rw [if_pos rfl, found, Option.getD_some]
        exact ⟨_, rfl, rfl, fun _ => CacheEntry.isPending_processed _ _ _⟩
      · rw [if_neg same]
        exact ⟨entry, found, rfl, id⟩
    · intro probe present
      rw [store, Catalog.contains_insert]
      exact Or.inr present
  inStep held := by
    constructor
    · intro probe
      rw [get?_store]
      have records : (store holdings title page extraction).manifest.contains probe = true ↔
          probe = title ∨ holdings.manifest.contains probe = true :=
        Catalog.contains_insert _ _ _ _
      rw [records]
      by_cases same : probe = title
      · rw [if_pos same]
        constructor
        · intro _
          exact ⟨_, rfl, CacheEntry.isPending_processed _ _ _⟩
        · intro _
          exact Or.inl same
      · rw [if_neg same, held.recorded]
        constructor
        · intro present
          exact present.resolve_left same
        · exact Or.inr
    · intro probe entry found pending
      rw [get?_store] at found
      by_cases same : probe = title
      · rw [if_pos same] at found
        cases found
        rw [CacheEntry.isPending_processed] at pending
        cases pending
      · rw [if_neg same] at found
        exact held.unflagged probe entry found pending

variable {σ : Type}

/-- A fetched page is stored, and any other answer leaves the holdings as they were. -/
theorem advances_refreshPage (wiki : Wiki σ) (denylist : Denylist) (progress : Progress σ)
    (requested : String) :
    Advances progress.holdings (refreshPage wiki denylist progress requested).holdings := by
  unfold refreshPage
  split
  · exact .refl _
  · exact .refl _
  · exact advances_store _ _ _ _

theorem advances_pages (wiki : Wiki σ) (denylist : Denylist) (titles : List String)
    (progress : Progress σ) :
    Advances progress.holdings
      (titles.foldl (refreshPage wiki denylist) progress).holdings := by
  induction titles generalizing progress with
  | nil => exact .refl _
  | cons title titles ih =>
    rw [List.foldl_cons]
    exact (advances_refreshPage wiki denylist progress title).trans (ih _)

end Refresh

variable {σ : Type}

/-- A discovery or a refresh, with the wiki that it asks. -/
inductive Call (σ : Type) where
  | discover (wiki : Wiki σ) (categories : List String)
  | refresh (wiki : Wiki σ) (denylist : Path.Denylist) (options : RefreshOptions)

/-- The holdings and the state of the wiki after a call, whether it succeeds or fails. -/
def Call.after : Call σ → Holdings × σ → Holdings × σ
  | .discover wiki categories, (holdings, state) =>
    let (_, cache, state) := SaveManifest.discover wiki categories holdings.cache state
    ({ holdings with cache }, state)
  | .refresh wiki denylist options, (holdings, state) =>
    (SaveManifest.refresh wiki denylist options holdings state).2

def runCalls (calls : List (Call σ)) (start : Holdings × σ) : Holdings × σ :=
  calls.foldl (fun current call => call.after current) start

theorem runCalls_append (front back : List (Call σ)) (start : Holdings × σ) :
    runCalls (front ++ back) start = runCalls back (runCalls front start) :=
  List.foldl_append

theorem advances_discover (wiki : Wiki σ) (categories : List String) (start : Holdings × σ) :
    Advances start.1 ((Call.discover wiki categories).after start).1 := by
  obtain ⟨holdings, state⟩ := start
  simp only [Call.after, discover]
  by_cases none : categories.isEmpty = true
  · rw [if_pos none]
    exact .refl holdings
  · rw [if_neg none]
    cases answer : wiki.membersOfAll categories state with
    | mk outcome later =>
      cases outcome with
      | error failure => exact .refl holdings
      | ok members => exact advances_markAll holdings members

theorem advances_refresh (wiki : Wiki σ) (denylist : Path.Denylist) (options : RefreshOptions)
    (start : Holdings × σ) :
    Advances start.1 ((Call.refresh wiki denylist options).after start).1 := by
  obtain ⟨holdings, state⟩ := start
  simp only [Call.after, refresh]
  cases Refresh.selectTitles holdings.cache options.selection with
  | error failure => exact .refl holdings
  | ok selected =>
    let titles := Refresh.limited options.limit selected
    exact Refresh.advances_pages wiki denylist titles
      { wiki := state, holdings, report := { requested := titles.length } }

theorem advances_after (call : Call σ) (start : Holdings × σ) :
    Advances start.1 (call.after start).1 := by
  cases call with
  | discover wiki categories => exact advances_discover wiki categories start
  | refresh wiki denylist options => exact advances_refresh wiki denylist options start

theorem advances_runCalls (calls : List (Call σ)) (start : Holdings × σ) :
    Advances start.1 (runCalls calls start).1 := by
  unfold runCalls
  induction calls generalizing start with
  | nil => exact .refl start.1
  | cons call calls ih =>
    rw [List.foldl_cons]
    exact (advances_after call start).trans (ih _)

/-- After every call of a run from empty holdings, cache and manifest are in step, and whatever
calls follow, nothing that is known by then is lost. -/
theorem runCalls_inStep (state : σ) (front back : List (Call σ)) :
    let early := (runCalls front ({}, state)).1
    let late := (runCalls (front ++ back) ({}, state)).1
    InStep early ∧
      (∀ title ∈ early.cache.pendingTitles, title ∉ early.cache.flaggedTitles) ∧
      early.cache.stats.pending + early.manifest.size = early.cache.stats.pages ∧
      Kept early late := by
  intro early late
  have held : InStep early := (advances_runCalls front ({}, state)).inStep inStep_empty
  have onwards : Kept early late := by
    unfold early late
    rw [runCalls_append]
    exact (advances_runCalls back (runCalls front ({}, state))).kept
  exact ⟨held, held.disjoint, held.stats_pages, onwards⟩

end SaveManifest
