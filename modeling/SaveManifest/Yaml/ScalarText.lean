import SaveManifest.Text.Ascii
import SaveManifest.Yaml.Cursor

/-!
# Reading the text of scalars

The text of a scalar in each of the five styles. Plain and quoted scalars fold line breaks: one
break becomes a space, and of several breaks the first is dropped. Literal and folded blocks
keep the indentation beyond that of the block, and their header says what becomes of the breaks
at the end. `none` stands for text that is no scalar.
-/

namespace SaveManifest.Yaml

open SaveManifest.Text

/-- White space between two parts of a scalar: gaps of one line, or a first line break and the
breaks that follow it. An escaped break counts as a first break without a text. -/
structure Between where
  gaps : List Char := []
  first : Option (List Char) := none
  more : List Char := []
deriving DecidableEq, Repr

/-- What white space between two parts becomes. -/
def Between.folded (between : Between) : List Char :=
  match between.first with
  | none => between.gaps
  | some ['\n'] => if between.more.isEmpty then [' '] else between.more
  | some first => first ++ between.more

/-- Reads gaps and line breaks. In a plain scalar a tab may not stand before column `margin` of a
later line. -/
def readBetween (margin : Option Int) : Nat → Between → Cursor → Option (Between × Cursor)
  | 0, between, cursor => some (between, cursor)
  | fuel + 1, between, cursor =>
    match cursor.rest with
    | [] => some (between, cursor)
    | c :: _ =>
      if isGap c then
        if between.first.isSome then
          if c == '\t' && margin.any (fun limit => (cursor.column : Int) < limit) then none
          else readBetween margin fuel between (cursor.skip 1)
        else
          readBetween margin fuel { between with gaps := between.gaps ++ [c] } (cursor.skip 1)
      else if isBreak c then
        let (text, behind) := cursor.takeBreak
        if between.first.isSome then
          readBetween margin fuel { between with more := between.more ++ text } behind
        else readBetween margin fuel { gaps := [], first := some text, more := [] } behind
      else some (between, cursor)

/-- The characters of flow collections that end a plain scalar inside one. -/
def flowIndicators : List Char := [',', '[', ']', '{', '}']

/-- The part of a plain scalar up to the next gap, line break or indicator. -/
def plainPart? (inFlow : Bool) : List Char → Option (List Char)
  | [] => some []
  | c :: rest =>
    if isGap c || isBreak c then some []
    else if inFlow && c == ':' && rest.head?.any (fun d => d == '?' || flowIndicators.contains d)
    then none
    else if (c == ':' && atGap rest) || (inFlow && flowIndicators.contains c) then some []
    else (plainPart? inFlow rest).map (c :: ·)

/-- A plain scalar at indentation `indent`: its text, the place behind it, and whether a line
break was passed at its end. The fuel exceeds the number of characters left; a part takes up one at
least. -/
def readPlain (inFlow : Bool) (indent : Int) :
    Nat → List Char → Between → Cursor → Option (List Char × Cursor × Bool)
  | 0, text, between, cursor => some (text, cursor, between.first.isSome)
  | fuel + 1, text, between, cursor =>
    if cursor.atMarker || cursor.rest.head? == some '#' then
      some (text, cursor, between.first.isSome)
    else match plainPart? inFlow cursor.rest with
      | none => none
      | some [] => some (text, cursor, between.first.isSome)
      | some (c :: part) =>
        let text := text ++ between.folded ++ c :: part
        let cursor := cursor.skip (part.length + 1)
        if !cursor.rest.isEmpty && atGap cursor.rest then
          match readBetween (some (indent + 1)) fuel {} cursor with
          | none => none
          | some (between, cursor) =>
            if !inFlow && (cursor.column : Int) < indent + 1 then
              some (text, cursor, between.first.isSome)
            else readPlain inFlow indent fuel text between cursor
        else some (text, cursor, false)

def readHex? (width : Nat) (text : List Char) : Option Nat :=
  let digits := text.take width
  if digits.length = width then
    digits.foldlM (fun value c => (digitValue? 16 c).map (value * 16 + ·)) 0
  else none

/-- The character that an escape stands for, by the character behind the backslash, and how many
characters the escape takes. -/
def readEscape? : List Char → Option (Char × Nat)
  | [] => none
  | c :: rest =>
    let ofHex (width : Nat) : Option (Char × Nat) := do
      let point ← readHex? width rest
      if (0xD800 ≤ point ∧ point ≤ 0xDFFF) ∨ 0x10FFFF < point then none
      else some (Char.ofNat point, width + 2)
    match c with
    | '0' => some ('\x00', 2)
    | 'a' => some ('\x07', 2)
    | 'b' => some ('\x08', 2)
    | 't' => some ('\t', 2)
    | '\t' => some ('\t', 2)
    | 'n' => some ('\n', 2)
    | 'v' => some ('\x0b', 2)
    | 'f' => some ('\x0c', 2)
    | 'r' => some ('\r', 2)
    | 'e' => some ('\x1b', 2)
    | ' ' => some (' ', 2)
    | '"' => some ('"', 2)
    | '/' => some ('/', 2)
    | '\\' => some ('\\', 2)
    | 'N' => some ('\u0085', 2)
    | '_' => some ('\u00a0', 2)
    | 'L' => some ('\u2028', 2)
    | 'P' => some ('\u2029', 2)
    | 'x' => ofHex 2
    | 'u' => ofHex 4
    | 'U' => ofHex 8
    | _ => none

/-- The part of a quoted scalar up to the next gap, line break or closing quote, and whether it
ends in an escaped line break, which is then behind the cursor. -/
def quotedPart? (single : Bool) : Nat → List Char → Cursor → Option (List Char × Cursor × Bool)
  | 0, part, cursor => some (part, cursor, false)
  | fuel + 1, part, cursor =>
    match cursor.rest with
    | [] => some (part, cursor, false)
    | c :: rest =>
      if isGap c || isBreak c then some (part, cursor, false)
      else if single then
        if c == '\'' then
          if rest.head? == some '\'' then quotedPart? single fuel (part ++ ['\'']) (cursor.skip 2)
          else some (part, cursor, false)
        else quotedPart? single fuel (part ++ [c]) (cursor.skip 1)
      else if c == '"' then some (part, cursor, false)
      else if c == '\\' then
        if rest.head?.any isBreak then some (part, (cursor.skip 1).skipBreak, true)
        else match readEscape? rest with
          | none => none
          | some (d, width) => quotedPart? single fuel (part ++ [d]) (cursor.skip width)
      else quotedPart? single fuel (part ++ [c]) (cursor.skip 1)

/-- A quoted scalar behind its opening quote: its text and the place behind the closing one. The
fuel exceeds the number of characters left. -/
def readQuoted (single : Bool) : Nat → List Char → Cursor → Option (List Char × Cursor)
  | 0, _, _ => none
  | fuel + 1, text, cursor =>
    if cursor.atMarker || cursor.rest.isEmpty then none
    else match quotedPart? single fuel [] cursor with
      | none => none
      | some (part, cursor, escapedBreak) =>
        let text := text ++ part
        if cursor.rest.head? == some (if single then '\'' else '"') then some (text, cursor.skip 1)
        else
          let start : Between := if escapedBreak then { first := some [] } else {}
          match readBetween none fuel start cursor with
          | none => none
          | some (between, cursor) => readQuoted single fuel (text ++ between.folded) cursor

/-- What becomes of the line breaks at the end of a block. -/
inductive Chomping where
  | strip
  | clip
  | keep
deriving DecidableEq, Repr

/-- The header of a block behind its indicator: an indentation and a chomping, in either order,
up to the end of the line. -/
def readHeader? (cursor : Cursor) : Option (Option Nat × Chomping × Cursor) := do
  let chompingOf (cursor : Cursor) : Option Chomping :=
    match cursor.rest with
    | '+' :: _ => some .keep
    | '-' :: _ => some .strip
    | _ => none
  let indentOf (cursor : Cursor) : Option Nat :=
    match cursor.rest with
    | c :: _ => if isDigit c then some (c.toNat - 48) else none
    | [] => none
  let (indent, chomping, cursor) :=
    match chompingOf cursor, indentOf cursor with
    | some chomping, _ =>
      let cursor := cursor.skip 1
      match indentOf cursor with
      | some indent => (some indent, chomping, cursor.skip 1)
      | none => (none, chomping, cursor)
    | none, some indent =>
      let cursor := cursor.skip 1
      match chompingOf cursor with
      | some chomping => (some indent, chomping, cursor.skip 1)
      | none => (some indent, .clip, cursor)
    | none, none => (none, .clip, cursor)
  if indent = some 0 then none
  let cursor ← cursor.finishLine?
  some (indent, chomping, cursor)

/-- Reads indentation and empty lines. Without a known indentation, all spaces count as such and
the deepest line tells it. Gives the breaks, the deepest column, and the place behind. -/
def readEmptyLines (indent : Option Nat) :
    Nat → List Char → Nat → Cursor → Option (List Char × Nat × Cursor)
  | 0, breaks, deepest, cursor => some (breaks, deepest, cursor)
  | fuel + 1, breaks, deepest, cursor =>
    let spaces := (cursor.rest.takeWhile (· == ' ')).length
    let cursor := match indent with
      | none => cursor.skip spaces
      | some limit => cursor.skip (min spaces (limit - cursor.column))
    let deepest := max deepest cursor.column
    let within := indent.all fun limit => cursor.column < limit
    match cursor.rest with
    | [] => some (breaks, deepest, cursor)
    | c :: _ =>
      if within && c == '\t' then none
      else if isBreak c then
        let (text, cursor) := cursor.takeBreak
        readEmptyLines indent fuel (breaks ++ text) deepest cursor
      else some (breaks, deepest, cursor)

/-- Reads the lines of a block at a known indentation. `last` is the break before the line and
`breaks` the empty lines after that; `gapBefore` says that the line before began with a gap. -/
def readBlockLines (literal : Bool) (indent : Nat) :
    Nat → List Char → List Char → List Char → Bool → Cursor →
      Option (List Char × List Char × List Char × Cursor)
  | 0, text, last, breaks, _, cursor => some (text, last, breaks, cursor)
  | fuel + 1, text, last, breaks, gapBefore, cursor =>
    if cursor.column = indent ∧ cursor.rest ≠ [] then
      let gapHere := cursor.rest.head?.any isGap
      let joint :=
        if !literal && last == ['\n'] && !gapBefore && !gapHere then
          if breaks.isEmpty then [' '] else []
        else last
      let line := cursor.rest.takeWhile (fun c => !isBreak c)
      let (last, behind) := (cursor.skip line.length).takeBreak
      match readEmptyLines (some indent) fuel [] 0 behind with
      | none => none
      | some (others, _, behind) =>
        readBlockLines literal indent fuel (text ++ joint ++ breaks ++ line) last others gapHere
          behind
    else some (text, last, breaks, cursor)

/-- A literal or folded block behind its indicator, in a block at `parent`: its text and the
place behind it. -/
def readBlock (literal : Bool) (parent : Int) (cursor : Cursor) :
    Option (List Char × Cursor) := do
  let (increment, chomping, cursor) ← readHeader? cursor
  let known := increment.map fun width => if 0 ≤ parent then parent.toNat + width else width
  let (breaks, deepest, cursor) ← readEmptyLines known (cursor.rest.length + 1) [] 0 cursor
  let indent := known.getD (max deepest (max (parent + 1).toNat 1))
  let (text, last, breaks, cursor) ←
    readBlockLines literal indent (cursor.rest.length + 1) [] [] breaks false cursor
  let tail := match chomping with
    | .strip => []
    | .clip => last
    | .keep => last ++ breaks
  some (text ++ tail, cursor)

end SaveManifest.Yaml
