import SaveManifest.Text.Number
import SaveManifest.Yaml.Cursor
import SaveManifest.Yaml.Token

/-!
# Anchors, tags and directives

The tokens that say something about a node or a document instead of being part of it. The text
of a tag may hold escapes, a percent sign and two hexadecimal digits for each byte of a character
in UTF-8. `none` stands for a token that is not well formed.
-/

namespace SaveManifest.Yaml

open SaveManifest.Text

/-- A character of the text of a tag; commas and brackets only where the tag is written out in
angle brackets or as the stem of a handle. -/
def isTagChar (verbatim : Bool) (c : Char) : Bool :=
  isNameChar c || [';', '/', '?', ':', '@', '&', '=', '+', '$', '.', '%', '!', '~', '*', '\'',
    '(', ')'].contains c || (verbatim && [',', '[', ']'].contains c)

/-- How many bytes follow the first one of a character in UTF-8, and what the first one
contributes. -/
def leadingByte? (byte : Nat) : Option (Nat × Nat) :=
  if byte < 0x80 then some (0, byte)
  else if byte < 0xC0 then none
  else if byte < 0xE0 then some (1, byte - 0xC0)
  else if byte < 0xF0 then some (2, byte - 0xE0)
  else if byte < 0xF8 then some (3, byte - 0xF0)
  else none

/-- The text that a text with escapes stands for. `pending` bytes of a character are still to
come, and the bytes before them amount to `value`. -/
def decodeEscapes (pending value : Nat) : List Char → Option (List Char)
  | '%' :: high :: low :: rest => do
    let high ← digitValue? 16 high
    let low ← digitValue? 16 low
    let byte := high * 16 + low
    let (pending, value) ←
      if pending = 0 then leadingByte? byte
      else if 0x80 ≤ byte ∧ byte < 0xC0 then some (pending - 1, value * 64 + (byte - 0x80))
      else none
    let others ← decodeEscapes pending value rest
    if pending = 0 then some (Char.ofNat value :: others) else some others
  | c :: rest => if pending = 0 ∧ c ≠ '%' then (decodeEscapes 0 0 rest).map (c :: ·) else none
  | [] => if pending = 0 then some [] else none

/-- The text of a tag at the front, decoded, and the place behind it. -/
def readTagText? (verbatim : Bool) (cursor : Cursor) : Option (List Char × Cursor) :=
  let written := cursor.rest.takeWhile (isTagChar verbatim)
  (decodeEscapes 0 0 written).map fun text => (text, cursor.skip written.length)

/-- The name that follows an exclamation mark, and the place behind the second exclamation mark
if there is one behind the name. -/
def readHandle (cursor : Cursor) : List Char × Cursor × Bool :=
  let name := cursor.rest.takeWhile isNameChar
  let behind := cursor.skip name.length
  if behind.rest.head? == some '!' then (name, behind.skip 1, true) else (name, behind, false)

/-- A tag at an exclamation mark. A lone mark is the tag that asks for no tag. -/
def readTag? (inFlow : Bool) (cursor : Cursor) : Option (Token × Cursor) := do
  let (token, behind) ←
    if (cursor.skip 1).rest.head? == some '<' then do
      let (text, behind) ← readTagText? true (cursor.skip 2)
      if text.isEmpty || behind.rest.head? != some '>' then none
      some (Token.tag "" (String.ofList text), behind.skip 1)
    else do
      let (name, behind, closed) := readHandle (cursor.skip 1)
      let (text, behind) ← readTagText? false behind
      if closed then
        if text.isEmpty then none
        some (Token.tag (String.ofList ('!' :: name ++ ['!'])) (String.ofList text), behind)
      else if name.isEmpty && text.isEmpty then some (Token.tag "" "!", behind)
      else some (Token.tag "!" (String.ofList (name ++ text)), behind)
  if atGap behind.rest || (inFlow && behind.rest.head? == some ',') then some (token, behind)
  else none

def readAnchorName? (cursor : Cursor) : Option (String × Cursor) :=
  let name := cursor.rest.takeWhile isNameChar
  let behind := cursor.skip name.length
  let ended := atGap behind.rest ||
    behind.rest.head?.any fun c => ['?', ':', ',', ']', '}', '%', '@', '\x60'].contains c
  if name.isEmpty || !ended then none else some (String.ofList name, behind)

def maxVersionDigits : Nat := 9

/-- A part of a version at the front, and the place behind it. -/
def readVersionPart? (cursor : Cursor) : Option (Nat × Cursor) :=
  let digits := cursor.rest.takeWhile isDigit
  if maxVersionDigits < digits.length then none
  else (readDigits? 10 digits).map fun value => (value, cursor.skip digits.length)

/-- What follows the name of a directive that tells the version. -/
def readVersion? (cursor : Cursor) : Option (Token × Cursor) := do
  let (major, cursor) ← readVersionPart? (cursor.skipWhile isGap)
  if cursor.rest.head? != some '.' then none
  let (minor, cursor) ← readVersionPart? (cursor.skip 1)
  some (.version major minor, cursor)

/-- What follows the name of a directive that tells the stem of a handle. -/
def readTagDirective? (cursor : Cursor) : Option (Token × Cursor) := do
  let cursor := cursor.skipWhile isGap
  if cursor.rest.head? != some '!' then none
  let (name, cursor, closed) := readHandle (cursor.skip 1)
  if !closed && !name.isEmpty then none
  let handle := '!' :: name ++ (if closed then ['!'] else [])
  if !cursor.rest.head?.any isGap then none
  let (text, cursor) ← readTagText? true (cursor.skipWhile isGap)
  if text.isEmpty || !atGap cursor.rest then none
  some (.tagDirective (String.ofList handle) (String.ofList text), cursor)

/-- A directive at its percent sign, up to the end of its line. -/
def readDirective? (cursor : Cursor) : Option (Token × Cursor) := do
  let cursor := cursor.skip 1
  let name := cursor.rest.takeWhile isNameChar
  let behind := cursor.skip name.length
  if !atGap behind.rest then none
  let (token, behind) ←
    if name == ['Y', 'A', 'M', 'L'] then readVersion? behind
    else if name == ['T', 'A', 'G'] then readTagDirective? behind
    else none
  let behind ← behind.finishLine?
  some (token, behind)

end SaveManifest.Yaml
