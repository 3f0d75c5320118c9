import SaveManifest.Path.Error
import SaveManifest.Path.Marker
import SaveManifest.Path.Separators
import SaveManifest.Record

/-!
# Resolution

From the path on a page to the path in the manifest: every marker of a known placeholder is
replaced by what it stands for, and separators are normalized. The placeholders of the table
are taken one after the other; a placeholder is replaced again and again while its marker is
present, up to a limit that only a replacement bringing back the marker can reach.

`substitute` is the direct description for a table whose replacements bring in no markers: one
scan that replaces each marker where it stands.
-/

namespace SaveManifest.Path

open SaveManifest.Text

/-- How many of a doubled character, such as `{{`, a text holds side by side without overlap. -/
def countPairs (c : Char) : List Char → Nat
  | a :: b :: rest => if a = c ∧ b = c then countPairs c rest + 1 else countPairs c (b :: rest)
  | _ => 0

/-- As many `{{` as `}}`. -/
def isBalanced (text : List Char) : Bool := countPairs '{' text == countPairs '}' text

/-- How often one placeholder is replaced before it counts as endless. -/
def maxPasses : Nat := 100

/-- Replaces the markers of a placeholder until none is left, at most `passes` times. -/
def replaceUntilGone (token replacement : List Char) :
    Nat → List Char → Except PathError (List Char)
  | 0, path =>
    if hasMarker token path then .error (.endlessPlaceholder (String.ofList path)) else .ok path
  | passes + 1, path =>
    if hasMarker token path then
      replaceUntilGone token replacement passes (replaceMarkers token replacement path)
    else .ok path

def applyPlaceholder (path : List Char) (placeholder : Placeholder) :
    Except PathError (List Char) :=
  if !hasMarker placeholder.token.toList path then .ok path
  else if placeholder.unsupported then .error (.unsupportedPlaceholder placeholder.token)
  else replaceUntilGone placeholder.token.toList placeholder.normalized.toList maxPasses path

/-- Whether a path of a page names the registry: the marker of a registry root occurs in it. -/
def kindWith (table : List Placeholder) (raw : List Char) : PathKind :=
  if table.any fun placeholder =>
      placeholder.registryRoot && hasMarker placeholder.token.toList raw then .registry
  else .file

/-- A path of the manifest. -/
structure Resolved where
  path : String
  kind : PathKind
deriving DecidableEq, Repr

/-- Resolves a path of a page with a table of placeholders, in the order of the table. -/
def resolveWith (table : List Placeholder) (raw : String) : Except PathError Resolved :=
  if !isBalanced raw.toList then .error (.unbalancedBraces raw)
  else do
    let path ← table.foldlM applyPlaceholder raw.toList
    .ok { path := String.ofList (normalizeSeparators path), kind := kindWith table raw.toList }

def resolve (raw : String) : Except PathError Resolved := resolveWith Placeholder.known raw

/-- The kind of a path of a page under the known placeholders. -/
def kind (raw : String) : PathKind := kindWith Placeholder.known raw.toList

/-- The placeholder of the table whose marker stands at the front of a text, and what follows
the marker. -/
def markerAt? (table : List Placeholder) (text : List Char) : Option (Placeholder × List Char) :=
  table.findSome? fun placeholder =>
    (dropMarker placeholder.token.toList text).map fun behind => (placeholder, behind)

theorem markerAt?_length {table : List Placeholder} {text : List Char}
    {found : Placeholder × List Char} (success : markerAt? table text = some found) :
    found.2.length < text.length := by
  obtain ⟨placeholder, _, matched⟩ := List.exists_of_findSome?_eq_some success
  obtain ⟨behind, dropped, rfl⟩ := Option.map_eq_some_iff.1 matched
  have := dropMarker_length dropped
  simp only
  omega

/-- Every marker of the table replaced in one scan from left to right. -/
def substitute (table : List Placeholder) : List Char → List Char
  | [] => []
  | c :: rest =>
    match _found : markerAt? table (c :: rest) with
    | some (placeholder, behind) => placeholder.normalized.toList ++ substitute table behind
    | none => c :: substitute table rest
termination_by text => text.length
decreasing_by
  · exact markerAt?_length _found
  · simp

end SaveManifest.Path
