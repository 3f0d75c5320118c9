/-!
# Separators

Paths are written with `/` between their parts. Normalization turns each `\` into `/`, joins runs of
separators, takes one separator from the end, and writes a leading `~` as `<home>`.

`segments` gives the other view of a path: what stands between its separators. A normalized
path is its segments joined by `/`.
-/

namespace SaveManifest.Path

def isSeparator (c : Char) : Bool := c == '/' || c == '\\'

/-- Every separator written as `/`, and each run of them once. -/
def joinRuns : List Char → List Char
  | [] => []
  | [c] => [if isSeparator c then '/' else c]
  | c :: d :: rest =>
    if isSeparator c then
      if isSeparator d then joinRuns (d :: rest) else '/' :: joinRuns (d :: rest)
    else c :: joinRuns (d :: rest)

/-- The path without a separator at its end, unless there is nothing else. -/
def dropTrailing (path : List Char) : List Char :=
  if 1 < path.length ∧ path.getLast? = some '/' then path.dropLast else path

/-- A leading `~` that is a whole segment, written as the home directory. -/
def expandHome : List Char → List Char
  | ['~'] => "<home>".toList
  | '~' :: '/' :: rest => "<home>/".toList ++ rest
  | path => path

def normalizeSeparators (path : List Char) : List Char :=
  expandHome (dropTrailing (joinRuns path))

/-- The non-empty parts between the separators of a path, in order. -/
def segments : List Char → List (List Char)
  | [] => []
  | c :: rest =>
    if isSeparator c then segments rest
    else match rest with
      | [] => [[c]]
      | d :: _ =>
        if isSeparator d then [c] :: segments rest
        else match segments rest with
          | [] => [[c]]
          | segment :: others => (c :: segment) :: others

end SaveManifest.Path
