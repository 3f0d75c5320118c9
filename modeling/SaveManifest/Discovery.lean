import SaveManifest.Wiki

/-!
# Discovery

Listing categories and recording the pages not seen before. Discovery is all or nothing: the
cache changes only after every category was listed.
-/

namespace SaveManifest

structure DiscoverReport where
  categories : List String
  listed : Nat
  added : Nat
  requests : Nat
deriving DecidableEq, Repr

/-- Lists the categories and marks their pages as pending where they are new. The cache and the
state of the wiki come back in any case. -/
def discover {σ : Type} (wiki : Wiki σ) (categories : List String) (cache : Cache) (state : σ) :
    Except Failure DiscoverReport × Cache × σ :=
  if categories.isEmpty then (.error .noCategory, cache, state)
  else match wiki.membersOfAll categories state with
    | (.error failure, state) => (.error failure, cache, state)
    | (.ok members, state) =>
      let report := {
        categories
        listed := members.length
        added := cache.countNew members
        requests := wiki.requests state }
      (.ok report, cache.markAll members, state)

end SaveManifest
