import SaveManifest.Json
import SaveManifest.Wiki

/-!
# Answers of the wiki

What the answers of the wiki say about categories and pages. Each part of an answer is an object,
of which only the members named here count, or a list of their values in that order. A member is
required, may be absent or null, or has a default when it is absent. In a list no value may be
left over, and only those with a default may be missing.
-/

namespace SaveManifest

namespace Json

/-- What stands under a name: a value, nothing, or nothing because a list is too short. -/
inductive Slot where
  | given (value : Json)
  | absent
  | cut

/-- The values of a list in the order of the names, and `cut` where there are none left. -/
def slotsOfItems : List String → List Json → Option (List Slot)
  | [], [] => some []
  | [], _ :: _ => none
  | _ :: names, [] => (slotsOfItems names []).map (.cut :: ·)
  | _ :: names, item :: items => (slotsOfItems names items).map (.given item :: ·)

/-- What stands under some names in an object or a list. -/
def slots? (names : List String) : Json → Option (List Slot)
  | object members =>
    some (names.map fun name => ((members.lookup name).map Slot.given).getD .absent)
  | list items => slotsOfItems names items
  | _ => none

namespace Slot

/-- A value that has to be there. -/
def required? {α : Type} (read : Json → Option α) : Slot → Option α
  | given value => read value
  | _ => none

/-- A value that may be absent or null, but not missing in a list. -/
def optional? {α : Type} (read : Json → Option α) : Slot → Option (Option α)
  | given .null => some none
  | given value => (read value).map some
  | absent => some none
  | cut => none

/-- A value with a default where it is absent. -/
def defaulted? {α : Type} (default : α) (read : Json → Option α) : Slot → Option α
  | given value => read value
  | _ => some default

end Slot

/-- A value that may be null. -/
def nullable? {α : Type} (read : Json → Option α) : Json → Option (Option α)
  | null => some none
  | value => (read value).map some

def list? {α : Type} (read : Json → Option α) (value : Json) : Option (List α) :=
  value.items?.bind (·.mapM read)

end Json

namespace Response

open Json

def member? (value : Json) : Option Member := do
  match ← value.slots? ["pageid", "title"] with
  | [pageId, title] => some ⟨← pageId.required? word?, ← title.required? text?⟩
  | _ => none

def content? (value : Json) : Option String := do
  match ← value.slots? ["content"] with
  | [content] => content.required? text?
  | _ => none

def mainContent? (value : Json) : Option (Option String) := do
  match ← value.slots? ["main"] with
  | [main] => main.optional? content?
  | _ => none

/-- A revision: its number and the content of its main slot. -/
def revision? (value : Json) : Option (Option UInt64 × Option String) := do
  match ← value.slots? ["revid", "slots"] with
  | [number, slots] =>
    some (← number.optional? word?, (← slots.optional? mainContent?).join)
  | _ => none

/-- A page of an answer, as it is said to be. -/
structure Listing where
  pageId : Option UInt64
  title : String
  missing : Option Bool
  invalid : Option Bool
  revisions : List (Option UInt64 × Option String)
deriving DecidableEq, Repr

def listing? (value : Json) : Option Listing := do
  match ← value.slots? ["pageid", "title", "missing", "invalid", "revisions"] with
  | [pageId, title, missing, invalid, revisions] =>
    some {
      pageId := ← pageId.optional? word?
      title := ← title.required? text?
      missing := ← missing.optional? truth?
      invalid := ← invalid.optional? truth?
      revisions := ← revisions.defaulted? [] (list? revision?) }
  | _ => none

/-- The members of a category and the pages that an answer holds. -/
def query? (value : Json) : Option (List Member × List Listing) := do
  match ← value.slots? ["categorymembers", "pages"] with
  | [members, pages] =>
    some (← members.defaulted? [] (list? member?), ← pages.defaulted? [] (list? listing?))
  | _ => none

def token? (value : Json) : Option (Option String) := do
  match ← value.slots? ["cmcontinue"] with
  | [token] => token.optional? text?
  | _ => none

structure Answer where
  members : List Member
  pages : List Listing
  token : Option String
deriving DecidableEq, Repr

def answer? (value : Json) : Option Answer := do
  match ← value.slots? ["query", "continue"] with
  | [query, continuation] =>
    let (members, pages) ← query.defaulted? ([], []) query?
    let token ← continuation.defaulted? none (nullable? token?)
    some { members, pages, token := token.join }
  | _ => none

/-- The page of a listing: none where it is said to be missing or invalid, or has no id. Its
revision is the first one listed. -/
def Listing.page? (listing : Listing) : Option Page :=
  if listing.missing.getD false || listing.invalid.getD false then none
  else listing.pageId.map fun pageId =>
    let revision := listing.revisions.head?
    { title := listing.title
      pageId
      revision := revision.bind (·.1)
      content := (revision.bind (·.2)).getD "" }

/-- The failure that an answer reports in place of what it was asked for. -/
def apiFailure? (value : Json) : Option Failure :=
  (Json.member? "error" value).map fun error =>
    .apiError (((Json.member? "code" error).bind text?).getD "unknown_error")
      (((Json.member? "info" error).bind text?).getD "unknown info")

end Response

end SaveManifest
