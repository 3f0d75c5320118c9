import SaveManifest.Record

/-!
# The manifest

The records of all games, by the title of their page. A page is always taken over whole: its new
record replaces the old one.
-/

namespace SaveManifest

/-- The records of all games, by title. -/
abbrev Manifest := Catalog Record

namespace Manifest

inductive Change where
  | added
  | updated
  | unchanged
deriving DecidableEq, Repr

def Change.name : Change → String
  | added => "added"
  | updated => "updated"
  | unchanged => "unchanged"

/-- What putting this record under the title would do. -/
def changeOf (manifest : Manifest) (title : String) (record : Record) : Change :=
  match manifest.get? title with
  | none => .added
  | some old => if old = record then .unchanged else .updated

end Manifest

end SaveManifest
