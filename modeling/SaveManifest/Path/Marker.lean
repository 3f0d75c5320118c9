import SaveManifest.Placeholder
import SaveManifest.Text.Folding

/-!
# Markers

A placeholder stands in a path as a marker, in the short form with `P` or the long form with
`Path` before the bar, letters of the marker compared under simple case folding. Markers never
overlap: a scan goes from left to right and continues behind each marker that it finds.

`dropMarker_length` says that a marker takes up characters, so that every scan ends.
-/

namespace SaveManifest.Path

open SaveManifest.Text

def shortOpening : List Char := ['{', '{', 'P', '|']

def longOpening : List Char := ['{', '{', 'P', 'a', 't', 'h', '|']

def closing : List Char := ['}', '}']

def shortMarker (token : List Char) : List Char := shortOpening ++ token ++ closing

def longMarker (token : List Char) : List Char := longOpening ++ token ++ closing

/-- What follows a marker of this token at the front of a text. -/
def dropMarker (token text : List Char) : Option (List Char) :=
  (dropFolded (shortMarker token) text).or (dropFolded (longMarker token) text)

theorem dropMarker_length {token text rest : List Char}
    (success : dropMarker token text = some rest) : rest.length + 6 ≤ text.length := by
  rw [dropMarker, Option.or_eq_some_iff] at success
  rcases success with short | ⟨_, long⟩
  · have := dropFolded_length short
    simp [shortMarker, shortOpening, closing] at this
    omega
  · have := dropFolded_length long
    simp [longMarker, longOpening, closing] at this
    omega

def hasMarker (token : List Char) : List Char → Bool
  | [] => false
  | c :: rest => (dropMarker token (c :: rest)).isSome || hasMarker token rest

/-- The text with every marker of a token, from left to right, replaced. -/
def replaceMarkers (token replacement : List Char) : List Char → List Char
  | [] => []
  | c :: rest =>
    match _found : dropMarker token (c :: rest) with
    | some behind => replacement ++ replaceMarkers token replacement behind
    | none => c :: replaceMarkers token replacement rest
termination_by text => text.length
decreasing_by
  · have := dropMarker_length _found
    simp only [List.length_cons] at *
    omega
  · simp

/-- The token of a marker at the front of a text, whatever it is, and what follows the marker.
The token of such a marker holds no brace and no bar. -/
def dropAnyMarker (text : List Char) : Option (List Char × List Char) := do
  let inner ← (dropFolded shortOpening text).or (dropFolded longOpening text)
  let token := inner.takeWhile fun c => c != '{' && c != '}' && c != '|'
  match inner.drop token.length with
  | '}' :: '}' :: behind => some (token, behind)
  | _ => none

theorem dropAnyMarker_length {text token rest : List Char}
    (success : dropAnyMarker text = some (token, rest)) : rest.length < text.length := by
  simp only [dropAnyMarker, Option.bind_eq_bind, Option.bind_eq_some_iff] at success
  obtain ⟨inner, opened, closed⟩ := success
  have shorter : inner.length ≤ text.length := by
    rw [Option.or_eq_some_iff] at opened
    rcases opened with short | ⟨_, long⟩
    · have := dropFolded_length short
      omega
    · have := dropFolded_length long
      omega
  split at closed
  · next behind shape =>
    simp only [Option.some.injEq, Prod.mk.injEq] at closed
    have := congrArg List.length shape
    simp only [List.length_drop, List.length_cons] at this
    rw [← closed.2]
    omega
  · simp at closed

def markerTokens : List Char → List (List Char)
  | [] => []
  | c :: rest =>
    match _found : dropAnyMarker (c :: rest) with
    | some (token, behind) => token :: markerTokens behind
    | none => markerTokens rest
termination_by text => text.length
decreasing_by
  · exact dropAnyMarker_length _found
  · simp

/-- The known placeholders whose markers occur in a path, in the order of the table. -/
def placeholdersIn (raw : String) : List Placeholder :=
  Placeholder.known.filter fun placeholder => hasMarker placeholder.token.toList raw.toList

/-- The tokens of the markers in a path that no known placeholder has, in order of their first
appearance, each once whatever the case of its letters. -/
def unknownTokens (raw : String) : List String :=
  (markerTokens raw.toList).foldl
    (fun seen token =>
      let token := String.ofList (trim token)
      if (Placeholder.lookup? token).isNone && !seen.any (sameIgnoringCase · token) then
        seen ++ [token]
      else seen) []

end SaveManifest.Path
