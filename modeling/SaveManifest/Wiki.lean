import SaveManifest.Cache
import SaveManifest.Failure

/-!
# The wiki

What a run asks of a wiki: the pages of a category, and the latest revision of a page. A wiki
has a state that each question may change, and counts the requests made so far. Nothing else is
assumed of it, so an answer may be a failure, a missing page, or a page under another title.
-/

namespace SaveManifest

/-- The latest revision of a page. -/
structure Page where
  title : String
  pageId : UInt64
  revision : Option UInt64
  content : String
deriving DecidableEq, Repr

/-- A source of categories and pages with a state of type `σ`. -/
structure Wiki (σ : Type) where
  members : String → σ → Except Failure (List Member) × σ
  page : String → σ → Except Failure (Option Page) × σ
  requests : σ → Nat

namespace Wiki

/-- The members of several categories, in order; the first failure ends the listing. -/
def membersOfAll {σ : Type} (wiki : Wiki σ) :
    List String → σ → Except Failure (List Member) × σ
  | [], state => (.ok [], state)
  | category :: categories, state =>
    match wiki.members category state with
    | (.error failure, state) => (.error failure, state)
    | (.ok members, state) =>
      match wiki.membersOfAll categories state with
      | (.error failure, state) => (.error failure, state)
      | (.ok others, state) => (.ok (members ++ others), state)

end Wiki

end SaveManifest
