import SaveManifest.Catalog
import SaveManifest.Extraction

/-!
# The page cache

What is remembered of each page between runs: its id, the revision that was last processed,
and whether that revision held paths without an entry. A page without a revision is pending.
-/

namespace SaveManifest

/-- A page as a category lists it. -/
structure Member where
  pageId : UInt64
  title : String
deriving DecidableEq, Repr

/-- What is remembered of a page. -/
structure CacheEntry where
  pageId : UInt64 := 0
  revision : Option UInt64 := none
  unsupportedOs : Bool := false
  unsupportedPath : Bool := false
  tooBroad : Bool := false
deriving DecidableEq, Repr

namespace CacheEntry

/-- The page was never processed. -/
def isPending (entry : CacheEntry) : Bool := entry.revision.isNone

/-- The page held paths without an entry. -/
def isFlagged (entry : CacheEntry) : Bool :=
  entry.unsupportedOs || entry.unsupportedPath || entry.tooBroad

/-- The entry after a revision was processed; an unknown revision counts as zero. -/
def processed (entry : CacheEntry) (tallies : Tallies) (revision : Option UInt64) :
    CacheEntry :=
  { entry with
    revision := some (revision.getD 0)
    unsupportedOs := 0 < tallies.unsupportedOs
    unsupportedPath := 0 < tallies.unsupportedPath
    tooBroad := 0 < tallies.tooBroad }

end CacheEntry

/-- The pages known so far, by title. -/
abbrev Cache := Catalog CacheEntry

namespace Cache

/-- The cache with a listed page, pending unless it is known already. -/
def mark (cache : Cache) (member : Member) : Cache :=
  if cache.contains member.title then cache
  else cache.insert member.title { pageId := member.pageId }

def markAll (cache : Cache) (members : List Member) : Cache := members.foldl mark cache

/-- How many of the listed pages are new when their turn comes; a title listed twice counts
once. -/
def countNew (cache : Cache) : List Member → Nat
  | [] => 0
  | member :: members =>
    (if cache.contains member.title then 0 else 1) + countNew (cache.mark member) members

def update (cache : Cache) (title : String) (tallies : Tallies) (revision : Option UInt64) :
    Cache :=
  cache.insert title (((cache.get? title).getD {}).processed tallies revision)

/-- The titles whose entries satisfy a condition, in ascending order. -/
def titlesWhere (cache : Cache) (condition : CacheEntry → Bool) : List String :=
  (cache.entries.filter fun entry => condition entry.2).map (·.1)

def pendingTitles (cache : Cache) : List String := cache.titlesWhere (·.isPending)

def flaggedTitles (cache : Cache) : List String := cache.titlesWhere (·.isFlagged)

structure Stats where
  pages : Nat
  pending : Nat
  unsupportedOs : Nat
  unsupportedPath : Nat
  tooBroad : Nat
deriving DecidableEq, Repr

def stats (cache : Cache) : Stats where
  pages := cache.size
  pending := cache.values.countP (·.isPending)
  unsupportedOs := cache.values.countP (·.unsupportedOs)
  unsupportedPath := cache.values.countP (·.unsupportedPath)
  tooBroad := cache.values.countP (·.tooBroad)

end Cache

end SaveManifest
