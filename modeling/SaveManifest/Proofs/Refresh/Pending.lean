import SaveManifest.Proofs.Refresh.Fixed

/-!
# Pending pages in portions

A refresh of the pending pages makes out its titles from the cache, so what a run with a limit did
decides what the next one asks for: the pages it got are no longer pending, and those that were
missing or failed are met again. With a fixed wiki this makes no difference to what is held in the
end (`runCalls_pending_limited`).
-/

namespace SaveManifest

variable {σ : Type}

def Holding.isPending (held : Holding) : Bool := held.entry.any (·.isPending)

theorem mem_pendingTitles {holdings : Holdings} {title : String} :
    title ∈ holdings.cache.pendingTitles ↔ (holdings.holding title).isPending = true := by
  unfold Cache.pendingTitles Holding.isPending
  rw [Cache.mem_titlesWhere, Option.any_eq_true]
  rfl

/-- A page that was got is no longer pending, and no other answer changes anything. -/
theorem Holding.isPending_refreshed (denylist : Path.Denylist) (old : Holding)
    (answer : Except Failure (Option Page)) :
    (old.refreshed denylist answer).isPending =
      (old.isPending && (Wiki.pageOf answer).isNone) := by
  unfold Holding.refreshed
  cases Wiki.pageOf answer with
  | none =>
    rw [Option.isNone_none, Bool.and_true]
    rfl
  | some page =>
    rw [Option.isNone_some, Bool.and_false]
    rfl

namespace Refresh

variable {wiki : Wiki σ} {answer : String → Except Failure (Option Page)}

def pendingCall (wiki : Wiki σ) (denylist : Path.Denylist) (limit : Option Nat) : Call σ :=
  .refresh wiki denylist { selection := .pending, limit }

theorem holding_pendingCall (fixed : wiki.IsFixed answer) (denylist : Path.Denylist)
    (limit : Option Nat) (start : Holdings × σ) (title : String) :
    ((pendingCall wiki denylist limit).after start).1.holding title =
      if title ∈ limited limit start.1.cache.pendingTitles then
        (start.1.holding title).refreshed denylist (answer title)
      else start.1.holding title :=
  holding_refresh fixed denylist _ start rfl title

/-- Without a limit, every pending title is refreshed. -/
theorem holding_pendingCall_none (fixed : wiki.IsFixed answer) (denylist : Path.Denylist)
    (start : Holdings × σ) (title : String) :
    ((pendingCall wiki denylist none).after start).1.holding title =
      if (start.1.holding title).isPending then
        (start.1.holding title).refreshed denylist (answer title)
      else start.1.holding title := by
  rw [holding_pendingCall fixed]
  simp only [limited, mem_pendingTitles]

/-- What a refresh with a limit did to a title, one without a limit would have done as well. -/
theorem holding_pendingCall_pendingCall (fixed : wiki.IsFixed answer) (denylist : Path.Denylist)
    (limit : Option Nat) (start : Holdings × σ) (title : String) :
    ((pendingCall wiki denylist none).after
        ((pendingCall wiki denylist limit).after start)).1.holding title =
      ((pendingCall wiki denylist none).after start).1.holding title := by
  rw [holding_pendingCall_none fixed, holding_pendingCall fixed, holding_pendingCall_none fixed]
  split
  · next chosen =>
    have pending : (start.1.holding title).isPending = true := by
      apply mem_pendingTitles.1
      cases limit with
      | none => exact chosen
      | some count => exact List.mem_of_mem_take chosen
    rw [if_pos pending, Holding.refreshed_refreshed, ite_self]
  · rfl

/-- Still pending is what was pending and was not got. -/
theorem pendingTitles_pendingCall (fixed : wiki.IsFixed answer) (denylist : Path.Denylist)
    (start : Holdings × σ) :
    ((pendingCall wiki denylist none).after start).1.cache.pendingTitles =
      start.1.cache.pendingTitles.filter fun title => (Wiki.pageOf (answer title)).isNone := by
  apply Catalog.eq_of_ascending
  · exact Cache.ascending_titlesWhere _ _
  · exact (Cache.ascending_titlesWhere _ _).filter _
  · intro title
    rw [List.mem_filter, mem_pendingTitles, mem_pendingTitles, holding_pendingCall_none fixed]
    cases pending : (start.1.holding title).isPending with
    | false => simp [pending]
    | true => simp [pending, Holding.isPending_refreshed]

end Refresh

open Refresh

variable {wiki : Wiki σ} {answer : String → Except Failure (Option Page)}

/-- Refreshing as many pending pages of a fixed wiki as a limit allows and then all of them leaves
what refreshing all of them at once leaves. The pages that are missing or cannot be fetched are
pending then, and each other one has the revision and the record of its page. -/
theorem runCalls_pending_limited (fixed : wiki.IsFixed answer) (denylist : Path.Denylist)
    (limit : Nat) (holdings : Holdings) (state other : σ) :
    let portions := [pendingCall wiki denylist (some limit), pendingCall wiki denylist none]
    let whole := (runCalls [pendingCall wiki denylist none] (holdings, other)).1
    (runCalls portions (holdings, state)).1 = whole ∧
      whole.cache.pendingTitles = holdings.cache.pendingTitles.filter
        (fun title => (Wiki.pageOf (answer title)).isNone) ∧
      ∀ title ∈ holdings.cache.pendingTitles, ∀ page, answer title = .ok (some page) →
        (whole.cache.get? title).map (·.revision) = some (some (page.revision.getD 0)) ∧
          whole.manifest.get? title = some (Extraction.ofContent denylist page.content).record := by
  intro portions whole
  have last : ∀ title, whole.holding title = if (holdings.holding title).isPending then
      (holdings.holding title).refreshed denylist (answer title) else holdings.holding title :=
    holding_pendingCall_none fixed denylist (holdings, other)
  refine ⟨?_, pendingTitles_pendingCall fixed denylist (holdings, other), ?_⟩
  · apply Holdings.ext_holding
    intro title
    have whichever := holding_pendingCall_none fixed denylist (holdings, state) title
    rw [last]
    exact (holding_pendingCall_pendingCall fixed denylist (some limit) (holdings, state)
      title).trans whichever
  · intro title pending page found
    have held := last title
    rw [if_pos (mem_pendingTitles.1 pending), found] at held
    have entry := congrArg Holding.entry held
    have record := congrArg Holding.record held
    simp only [Holdings.holding, Holding.refreshed, Wiki.pageOf, Option.toList_some,
      Holding.takeOver, List.getLastD_nil] at entry record
    exact ⟨by rw [entry]; rfl, record⟩

/-- Three pending pages, one to get, one that fails and one that is missing, and one page that was
processed before. -/
def sampleHoldings : Holdings where
  cache := Catalog.ofList [
    ("Alpha One", { pageId := 1 }), ("Down", { pageId := 2 }), ("Gone", { pageId := 3 }),
    ("Known", { pageId := 4, revision := some 0 })]
  manifest := Catalog.ofList [("Known", {})]

theorem runCalls_pending_limited_sample :
    let call := pendingCall (Wiki.ofAnswers sampleAnswer) .standard
    let whole := (runCalls [call none] (sampleHoldings, 0)).1
    (Wiki.ofAnswers sampleAnswer).IsFixed sampleAnswer ∧
      (runCalls [call (some 2), call none] (sampleHoldings, 0)).1 = whole ∧
      whole.cache.pendingTitles = ["Down", "Gone"] := by
  intro call whole
  obtain ⟨equal, left, -⟩ :=
    runCalls_pending_limited isFixed_sampleAnswer .standard 2 sampleHoldings 0 0
  exact ⟨isFixed_sampleAnswer, equal, left.trans (by decide +kernel)⟩

end SaveManifest
