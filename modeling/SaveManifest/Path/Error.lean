/-!
# Why a path is refused

The reasons for which a path of a page gets no entry in the manifest, their wording, and the
group each belongs to. Only the first two groups are counted in the tallies of a page.
-/

namespace SaveManifest

inductive PathError where
  | unknownSystem (system : String)
  | unsupportedPlaceholder (token : String)
  | endlessPlaceholder (path : String)
  | unbalancedBraces (raw : String)
deriving DecidableEq, Repr

inductive PathError.Group where
  | unsupportedOs
  | unsupportedPath
  | malformed
deriving DecidableEq, Repr

namespace PathError

def group : PathError → Group
  | unknownSystem _ => .unsupportedOs
  | unsupportedPlaceholder _ => .unsupportedPath
  | endlessPlaceholder _ => .unsupportedPath
  | unbalancedBraces _ => .malformed

/-- The reason without the name of its group. -/
def detail : PathError → String
  | unknownSystem system => system
  | unsupportedPlaceholder token => "unsupported path argument: " ++ token
  | endlessPlaceholder path => "unable to resolve path arguments in: " ++ path
  | unbalancedBraces raw => "unbalanced template braces in: " ++ raw

def Group.name : Group → String
  | unsupportedOs => "unsupported OS"
  | unsupportedPath => "unsupported path"
  | malformed => "malformed template"

def message (error : PathError) : String := error.group.name ++ ": " ++ error.detail

end PathError

end SaveManifest
