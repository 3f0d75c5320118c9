import SaveManifest.Yaml.Chars

/-!
# Places in a stream

What is left of a stream and how far the reader has come: the number of characters read, the
line and the column. A line break of two characters counts as one line.
-/

namespace SaveManifest.Yaml

/-- What is left of a stream, and where it begins. -/
structure Cursor where
  rest : List Char
  index : Nat := 0
  line : Nat := 0
  column : Nat := 0
deriving DecidableEq, Repr

namespace Cursor

def skip (cursor : Cursor) (count : Nat) : Cursor :=
  { cursor with
    rest := cursor.rest.drop count
    index := cursor.index + count
    column := cursor.column + count }

/-- Behind the characters at the front that satisfy a condition; no line break may. -/
def skipWhile (cursor : Cursor) (condition : Char → Bool) : Cursor :=
  cursor.skip (cursor.rest.takeWhile condition).length

/-- What a line break turns into when it is read. -/
def readBreak (c : Char) : Char := if c == '\u2028' || c == '\u2029' then c else '\n'

/-- The line break at the front, as it is read, and the place behind it. -/
def takeBreak (cursor : Cursor) : List Char × Cursor :=
  match cursor.rest with
  | '\r' :: '\n' :: rest =>
    (['\n'], { rest, index := cursor.index + 2, line := cursor.line + 1, column := 0 })
  | c :: rest =>
    if isBreak c then
      ([readBreak c], { rest, index := cursor.index + 1, line := cursor.line + 1, column := 0 })
    else ([], cursor)
  | [] => ([], cursor)

def skipBreak (cursor : Cursor) : Cursor := cursor.takeBreak.2

/-- Behind the gaps, the comment and all else up to the end of the line. -/
def skipComment (cursor : Cursor) : Cursor :=
  if cursor.rest.head? == some '#' then cursor.skipWhile (fun c => !isBreak c) else cursor

def atMarker (cursor : Cursor) : Bool :=
  cursor.column == 0 &&
    match cursor.rest with
    | '-' :: '-' :: '-' :: rest => atGap rest
    | '.' :: '.' :: '.' :: rest => atGap rest
    | _ => false

/-- The end of a line behind a header or a directive: gaps, a comment and the break. -/
def finishLine? (cursor : Cursor) : Option Cursor :=
  let cursor := (cursor.skipWhile isGap).skipComment
  if atLineEnd cursor.rest then some cursor.skipBreak else none

end Cursor

end SaveManifest.Yaml
