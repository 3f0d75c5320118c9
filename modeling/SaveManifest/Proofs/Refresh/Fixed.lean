import SaveManifest.Proofs.Record
import SaveManifest.Proofs.Refresh.Effect

/-!
# Refreshing from a wiki that does not change

A wiki is fixed if its answer to a title depends on the title alone and a page comes under the title
that was asked for (`Wiki.IsFixed`). Asking it for a title then changes what is held of that title
and of no other one, and asking again changes nothing (`Holding.refreshed_refreshed`). So what is
held after any run depends on the set of the titles that were asked for: not on their order, nor
on how often and in which call each was asked for (`runCalls_titles_eq`), nor on a first run that
was cut off by a limit (`runCalls_pending_limited`).
-/

namespace SaveManifest

open SaveManifest.Text

variable {σ : Type}

/-- The wiki gives to each title this answer in every state, and pages under the title that was
asked for or under a blank one. -/
structure Wiki.IsFixed (wiki : Wiki σ) (answer : String → Except Failure (Option Page)) : Prop where
  page : ∀ title state, (wiki.page title state).1 = answer title
  title : ∀ title page, answer title = .ok (some page) →
    page.title = title ∨ isBlankText page.title = true

/-- The page of an answer; there is none where the page is missing or could not be fetched. -/
def Wiki.pageOf : Except Failure (Option Page) → Option Page
  | .ok found => found
  | .error _ => none

/-- What is held of a title after the wiki gave an answer to it. -/
def Holding.refreshed (denylist : Path.Denylist) (old : Holding)
    (answer : Except Failure (Option Page)) : Holding :=
  old.takeOver denylist (Wiki.pageOf answer).toList

/-- The same answer once more changes nothing. -/
theorem Holding.refreshed_refreshed (denylist : Path.Denylist) (old : Holding)
    (answer : Except Failure (Option Page)) :
    (old.refreshed denylist answer).refreshed denylist answer = old.refreshed denylist answer := by
  unfold Holding.refreshed
  cases Wiki.pageOf answer with
  | none => rfl
  | some page =>
    change (old.takeOver denylist [page]).takeOver denylist [page] = old.takeOver denylist [page]
    rw [Holding.takeOver_cons]
    rfl

/-- Holdings are what is held of each title. -/
theorem Holdings.ext_holding {left right : Holdings}
    (same : ∀ title, left.holding title = right.holding title) : left = right := by
  have caches : left.cache = right.cache :=
    Catalog.ext_get? fun title => congrArg Holding.entry (same title)
  have manifests : left.manifest = right.manifest :=
    Catalog.ext_get? fun title => congrArg Holding.record (same title)
  cases left
  cases right
  cases caches
  cases manifests
  rfl

namespace Refresh

variable {wiki : Wiki σ} {answer : String → Except Failure (Option Page)}

theorem storageTitle_of_isFixed (fixed : wiki.IsFixed answer) {title : String} {page : Page}
    (found : answer title = .ok (some page)) : storageTitle title page = title := by
  unfold storageTitle
  split
  · rfl
  · next visible => exact (fixed.title title page found).resolve_right visible

/-- Asking for a title changes what is held of it, as the answer says, and nothing else. -/
theorem holding_refreshPage (fixed : wiki.IsFixed answer) (denylist : Path.Denylist)
    (progress : Progress σ) (requested title : String) :
    (refreshPage wiki denylist progress requested).holdings.holding title =
      if title = requested then
        (progress.holdings.holding title).refreshed denylist (answer title)
      else progress.holdings.holding title := by
  have given := fixed.page requested progress.wiki
  have unchanged : ∀ old : Holding, Wiki.pageOf (answer requested) = none →
      old = if title = requested then old.refreshed denylist (answer title) else old := by
    intro old absent
    split
    · next same =>
      rw [Holding.refreshed, same, absent]
      rfl
    · rfl
  unfold refreshPage
  split
  · next state asked =>
    rw [asked] at given
    exact unchanged _ (by rw [← given]; rfl)
  · next failure state asked =>
    rw [asked] at given
    exact unchanged _ (by rw [← given]; rfl)
  · next page state asked =>
    rw [asked] at given
    have own := storageTitle_of_isFixed fixed given.symm
    have stored := holding_storeFetched denylist progress.holdings (requested, page) title
    unfold storeFetched at stored
    rw [own] at stored ⊢
    rw [stored]
    split
    · next same =>
      have its : storageTitle (requested, page).1 (requested, page).2 = title :=
        own.trans same.symm
      rw [storedUnder_cons_of_eq its, Holding.refreshed, same, ← given]
      rfl
    · next other =>
      have apart : storageTitle (requested, page).1 (requested, page).2 ≠ title :=
        fun equal => other (equal.symm.trans own)
      rw [storedUnder_cons_of_ne apart]
      rfl

/-- After several titles, each was refreshed once, however often it was asked for. -/
theorem holding_refreshPages (fixed : wiki.IsFixed answer) (denylist : Path.Denylist)
    (titles : List String) (progress : Progress σ) (title : String) :
    (titles.foldl (refreshPage wiki denylist) progress).holdings.holding title =
      if title ∈ titles then
        (progress.holdings.holding title).refreshed denylist (answer title)
      else progress.holdings.holding title := by
  induction titles generalizing progress with
  | nil => rfl
  | cons requested titles ih =>
    rw [List.foldl_cons, ih, holding_refreshPage fixed]
    by_cases here : title = requested
    · rw [if_pos here, if_pos (List.mem_cons.2 (Or.inl here)), Holding.refreshed_refreshed, ite_self]
    · rw [if_neg here]
      by_cases later : title ∈ titles
      · rw [if_pos later, if_pos (List.mem_cons_of_mem _ later)]
      · have absent : title ∉ requested :: titles := by
          intro member
          exact (List.mem_cons.1 member).elim here later
        rw [if_neg later, if_neg absent]

/-- What a refresh leaves of a title. -/
theorem holding_refresh (fixed : wiki.IsFixed answer) (denylist : Path.Denylist)
    (options : RefreshOptions) (start : Holdings × σ) {selected : List String}
    (chosen : selectTitles start.1.cache options.selection = .ok selected) (title : String) :
    ((Call.refresh wiki denylist options).after start).1.holding title =
      if title ∈ limited options.limit selected then
        (start.1.holding title).refreshed denylist (answer title)
      else start.1.holding title := by
  obtain ⟨holdings, state⟩ := start
  simp only [Call.after, refresh, chosen]
  exact holding_refreshPages fixed denylist _ _ title

/-! ### Titles that are asked for by name -/

/-- The titles that several calls ask for, underscores as spaces and blank ones left out. -/
def askedTitles (calls : List (List String)) : List String :=
  (calls.flatten.map requestedTitle).filter fun title => !title.isEmpty

theorem mem_requestedTitles {requests : List String} {title : String} :
    title ∈ requestedTitles requests ↔ title ∈ askedTitles [requests] := by
  unfold requestedTitles askedTitles
  rw [mem_foldl_adjoin, List.flatten_singleton]
  simp only [List.not_mem_nil, false_or]

theorem nodup_requestedTitles (requests : List String) : (requestedTitles requests).Nodup :=
  nodup_foldl_adjoin List.nodup_nil _

theorem mem_askedTitles_append {front back : List (List String)} {title : String} :
    title ∈ askedTitles (front ++ back) ↔ title ∈ askedTitles front ∨ title ∈ askedTitles back := by
  unfold askedTitles
  rw [List.flatten_append, List.map_append, List.filter_append, List.mem_append]

/-- A refresh of the titles in a list, without a limit. -/
def titlesCall (wiki : Wiki σ) (denylist : Path.Denylist) (requests : List String) : Call σ :=
  .refresh wiki denylist { selection := .titles requests }

/-- A call with blank titles alone is refused, and it asks for no title. -/
theorem holding_titlesCall (fixed : wiki.IsFixed answer) (denylist : Path.Denylist)
    (requests : List String) (start : Holdings × σ) (title : String) :
    ((titlesCall wiki denylist requests).after start).1.holding title =
      if title ∈ askedTitles [requests] then
        (start.1.holding title).refreshed denylist (answer title)
      else start.1.holding title := by
  simp only [← mem_requestedTitles]
  cases wanted : requestedTitles requests with
  | nil =>
    obtain ⟨holdings, state⟩ := start
    simp only [titlesCall, Call.after, refresh, selectTitles, wanted]
    rfl
  | cons first others =>
    have chosen : selectTitles start.1.cache (.titles requests) = .ok (first :: others) := by
      rw [selectTitles, wanted]
    exact holding_refresh fixed denylist _ start chosen title

/-- After several calls, each title they ask for was refreshed once. -/
theorem holding_runCalls (fixed : wiki.IsFixed answer) (denylist : Path.Denylist)
    (calls : List (List String)) (start : Holdings × σ) (title : String) :
    (runCalls (calls.map (titlesCall wiki denylist)) start).1.holding title =
      if title ∈ askedTitles calls then
        (start.1.holding title).refreshed denylist (answer title)
      else start.1.holding title := by
  unfold runCalls
  induction calls generalizing start with
  | nil => rfl
  | cons requests calls ih =>
    have split : title ∈ askedTitles (requests :: calls) ↔
        title ∈ askedTitles [requests] ∨ title ∈ askedTitles calls :=
      @mem_askedTitles_append [requests] calls title
    rw [List.map_cons, List.foldl_cons, ih, holding_titlesCall fixed]
    by_cases here : title ∈ askedTitles [requests]
    · rw [if_pos here, if_pos (split.2 (Or.inl here)), Holding.refreshed_refreshed, ite_self]
    · rw [if_neg here]
      by_cases later : title ∈ askedTitles calls
      · rw [if_pos later, if_pos (split.2 (Or.inr later))]
      · rw [if_neg later, if_neg fun asked => (split.1 asked).elim here later]

/-! ### What is reported -/

/-- What a fixed wiki makes a refresh report of a title, given what was held before. -/
def resultFor (denylist : Path.Denylist) (answer : String → Except Failure (Option Page))
    (holdings : Holdings) (title : String) : PageResult where
  title := title
  outcome :=
    match answer title with
    | .ok none => .missing
    | .error _ => .failed
    | .ok (some page) =>
      let extraction := Extraction.ofContent denylist page.content
      .stored (holdings.manifest.changeOf title extraction.record) extraction.tallies

theorem pages_refreshPage (fixed : wiki.IsFixed answer) (denylist : Path.Denylist)
    (progress : Progress σ) (title : String) :
    (refreshPage wiki denylist progress title).report.pages =
      progress.report.pages ++ [resultFor denylist answer progress.holdings title] := by
  have given := fixed.page title progress.wiki
  unfold refreshPage
  split
  · next state asked =>
    rw [asked] at given
    simp only [RefreshReport.addMissing, resultFor, ← given]
  · next failure state asked =>
    rw [asked] at given
    simp only [RefreshReport.addFailed, resultFor, ← given]
  · next page state asked =>
    rw [asked] at given
    have own := storageTitle_of_isFixed fixed given.symm
    simp only [RefreshReport.addStored, resultFor, own, ← given]

/-- What is reported of a title depends on what was held of that title. -/
theorem resultFor_congr (denylist : Path.Denylist) {early late : Holdings} {title : String}
    (same : late.holding title = early.holding title) :
    resultFor denylist answer late title = resultFor denylist answer early title := by
  have record : late.manifest.get? title = early.manifest.get? title :=
    congrArg Holding.record same
  simp only [resultFor, Manifest.changeOf, record]

/-- Each title is reported under its own name, and by what was held before the refresh. -/
theorem pages_refreshPages (fixed : wiki.IsFixed answer) (denylist : Path.Denylist)
    {titles : List String} (nodup : titles.Nodup) (progress : Progress σ) :
    (titles.foldl (refreshPage wiki denylist) progress).report.pages =
      progress.report.pages ++ titles.map (resultFor denylist answer progress.holdings) := by
  induction titles generalizing progress with
  | nil => rw [List.map_nil, List.append_nil]; rfl
  | cons title titles ih =>
    obtain ⟨fresh, others⟩ := List.nodup_cons.1 nodup
    have later : titles.map (resultFor denylist answer
        (refreshPage wiki denylist progress title).holdings) =
          titles.map (resultFor denylist answer progress.holdings) := by
      apply List.map_congr_left
      intro other member
      apply resultFor_congr
      rw [holding_refreshPage fixed, if_neg]
      rintro rfl
      exact fresh member
    rw [List.foldl_cons, ih others, pages_refreshPage fixed, later, List.map_cons,
      List.append_assoc, List.singleton_append]

/-- A title that an earlier call got a page for is stored as it was: its record is the same. -/
theorem action_resultFor (fixed : wiki.IsFixed answer) (denylist : Path.Denylist)
    {front : List (List String)} {title : String} (asked : title ∈ askedTitles front)
    (found : (Wiki.pageOf (answer title)).isSome) (start : Holdings × σ) :
    (resultFor denylist answer (runCalls (front.map (titlesCall wiki denylist)) start).1
      title).outcome.action = "unchanged" := by
  have held := holding_runCalls fixed denylist front start title
  rw [if_pos asked] at held
  have record := congrArg Holding.record held
  cases given : answer title with
  | error failure =>
    rw [given] at found
    cases found
  | ok answered =>
    cases answered with
    | none =>
      rw [given] at found
      cases found
    | some page =>
      rw [given] at record
      simp only [Holdings.holding, Holding.refreshed, Wiki.pageOf, Option.toList_some,
        Holding.takeOver, List.getLastD_nil] at record
      simp only [resultFor, given, Manifest.changeOf, record, if_true, PageOutcome.action,
        Manifest.Change.name]

end Refresh

open Refresh

variable {wiki : Wiki σ} {answer : String → Except Failure (Option Page)}

/-- Two sequences of calls that ask a fixed wiki for the same set of titles leave the same cache and
the same manifest. Every call with a title reports each title it asks for, and as unchanged if an
earlier call got a page for it. -/
theorem runCalls_titles_eq (fixed : wiki.IsFixed answer) (denylist : Path.Denylist)
    (first second : List (List String))
    (same : ∀ title, title ∈ askedTitles first ↔ title ∈ askedTitles second)
    (holdings : Holdings) (state other : σ) :
    (runCalls (first.map (titlesCall wiki denylist)) (holdings, state)).1 =
        (runCalls (second.map (titlesCall wiki denylist)) (holdings, other)).1 ∧
      ∀ front requests, askedTitles [requests] ≠ [] →
        let before := runCalls (front.map (titlesCall wiki denylist)) (holdings, state)
        ∃ report after later,
          refresh wiki denylist { selection := .titles requests } before.1 before.2 =
              (.ok report, after, later) ∧
            report.pages.map (·.title) = requestedTitles requests ∧
            ∀ result ∈ report.pages, result.title ∈ askedTitles front →
              (Wiki.pageOf (answer result.title)).isSome → result.outcome.action = "unchanged" := by
  constructor
  · apply Holdings.ext_holding
    intro title
    rw [holding_runCalls fixed, holding_runCalls fixed]
    simp only [same title]
  · intro front requests named before
    have chosen : selectTitles before.1.cache (.titles requests) =
        .ok (requestedTitles requests) := by
      rw [selectTitles]
      cases wanted : requestedTitles requests with
      | cons title titles => rfl
      | nil =>
        obtain ⟨title, asked⟩ := List.exists_mem_of_ne_nil _ named
        rw [← mem_requestedTitles, wanted] at asked
        cases asked
    have pages := pages_refreshPages fixed denylist (nodup_requestedTitles requests)
      { wiki := before.2, holdings := before.1,
        report := { requested := (requestedTitles requests).length } }
    rw [List.nil_append] at pages
    refine ⟨_, _, _, by simp only [refresh, chosen, limited]; rfl, ?_, ?_⟩
    · simp only [pages, List.map_map]
      exact List.map_id _
    · intro result member asked found
      simp only [pages, List.mem_map] at member
      obtain ⟨title, -, rfl⟩ := member
      exact action_resultFor fixed denylist asked found _

/-- One page under a blank title, one that cannot be fetched, and no other. -/
def sampleAnswer (title : String) : Except Failure (Option Page) :=
  if title = "Alpha One" then
    .ok (some { title := " ", pageId := 7, revision := none, content :=
      "\x7b\x7bGame data/saves|Windows|\x7b\x7bP|game\x7d\x7d/save.dat\x7d\x7d" })
  else if title = "Down" then .error (.told ["connection reset"])
  else .ok none

theorem isFixed_sampleAnswer : (Wiki.ofAnswers sampleAnswer).IsFixed sampleAnswer where
  page _ _ := rfl
  title title page found := by
    unfold sampleAnswer at found
    split at found
    · cases found
      exact Or.inr (by decide)
    · split at found
      · cases found
      · cases found

/-- Other batches, repeated titles and underscores, in another order; the page that both calls of the
first run ask for is reported as unchanged by the second one. -/
theorem runCalls_titles_eq_sample :
    let first := [["Alpha_One", "Down"], ["Gone", " Alpha One", "Gone_"]]
    let second := [["Gone"], ["Down", "Alpha One", "  "]]
    let run := fun calls : List (List String) =>
      runCalls (calls.map (titlesCall (Wiki.ofAnswers sampleAnswer) .standard)) ({}, 0)
    let before := run [["Alpha_One", "Down"]]
    (Wiki.ofAnswers sampleAnswer).IsFixed sampleAnswer ∧
      (∀ title, title ∈ askedTitles first ↔ title ∈ askedTitles second) ∧
      (run first).1 = (run second).1 ∧
      ∃ report after later,
        refresh (Wiki.ofAnswers sampleAnswer) .standard
            { selection := .titles ["Gone", " Alpha One", "Gone_"] } before.1 before.2 =
          (.ok report, after, later) ∧
        ∃ result ∈ report.pages,
          result.title = "Alpha One" ∧ result.outcome.action = "unchanged" := by
  intro first second run before
  have firstAsked : askedTitles first = ["Alpha One", "Down", "Gone", "Alpha One", "Gone"] := by
    decide +kernel
  have secondAsked : askedTitles second = ["Gone", "Down", "Alpha One"] := by decide +kernel
  have same : ∀ title, title ∈ askedTitles first ↔ title ∈ askedTitles second := by
    intro title
    rw [firstAsked, secondAsked]
    simp only [List.mem_cons, List.not_mem_nil]
    grind
  obtain ⟨equal, reports⟩ :=
    runCalls_titles_eq isFixed_sampleAnswer .standard first second same {} 0 0
  obtain ⟨report, after, later, success, titles, unchanged⟩ :=
    reports [["Alpha_One", "Down"]] ["Gone", " Alpha One", "Gone_"] (by decide +kernel)
  have reported : "Alpha One" ∈ report.pages.map (·.title) := by
    rw [titles]
    decide +kernel
  obtain ⟨result, member, title⟩ := List.mem_map.1 reported
  have action := unchanged result member (by rw [title]; decide +kernel) (by rw [title]; rfl)
  exact ⟨isFixed_sampleAnswer, same, equal, report, after, later, success, result, member, title,
    action⟩

end SaveManifest
