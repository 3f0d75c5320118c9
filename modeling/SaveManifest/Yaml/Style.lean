import SaveManifest.Yaml.Chars
import SaveManifest.Yaml.Schema

/-!
# Styles of scalars

How a scalar is written, and which style a text gets: a literal block when it has several lines,
single quotes when it would be read as something else, and no quotes otherwise; where the text
rules a style out, quotes with escapes are the last resort.
-/

namespace SaveManifest.Yaml

inductive Style where
  | plain
  | singleQuoted
  | doubleQuoted
  | literal
  | folded
deriving DecidableEq, Repr

/-- A line break and a space side by side, in the order that `first` and `second` ask for. -/
def hasNeighbours (first second : Char → Bool) : List Char → Bool
  | a :: b :: rest => (first a && second b) || hasNeighbours first second (b :: rest)
  | _ => false

/-- A space, as opposed to a tab. -/
def isSpace (c : Char) : Bool := c == ' '

/-- A character that only an escape can stand for. A carriage return and the next-line character
are special although they break a line. -/
def isSpecial (c : Char) : Bool := !isPrintable c

def indicators : List Char :=
  ['#', ',', '[', ']', '{', '}', '&', '*', '!', '|', '>', '\'', '"', '%', '@', '\x60']

/-- Whether a text begins like the marker that starts or ends a document. -/
def beginsLikeMarker : List Char → Bool
  | '-' :: '-' :: '-' :: _ => true
  | '.' :: '.' :: '.' :: _ => true
  | _ => false

/-- Whether the beginning of a text would be taken for an indicator. -/
def beginsWithIndicator : List Char → Bool
  | [] => false
  | c :: rest =>
    indicators.contains c || ((c == '?' || c == ':' || c == '-') && atGap rest)

/-- Whether a plain scalar would end inside the text: at a colon before a gap or at a number
sign behind one. -/
def endsInside : List Char → Bool
  | c :: d :: rest =>
    ((isGap c || isBreak c) && d == '#') || (d == ':' && atGap rest) || endsInside (d :: rest)
  | _ => false

def plainAllowed (text : List Char) : Bool :=
  !beginsLikeMarker text && !beginsWithIndicator text && !endsInside text &&
    !(text.head?.any isSpace) && !(text.getLast?.any isSpace) && !text.any isBreak &&
    !text.any isSpecial

def singleQuotedAllowed (text : List Char) : Bool :=
  !hasNeighbours isBreak isSpace text && !hasNeighbours isSpace isBreak text &&
    !text.any isSpecial

def literalAllowed (text : List Char) : Bool :=
  !text.isEmpty && !(text.getLast?.any isSpace) && !hasNeighbours isSpace isBreak text &&
    !text.any isSpecial

/-- Single quotes, or double ones where single ones are ruled out. -/
def quotedStyle (text : List Char) : Style :=
  if singleQuotedAllowed text then .singleQuoted else .doubleQuoted

def styleOf (text : List Char) : Style :=
  if text.contains '\n' then
    if literalAllowed text then .literal else .doubleQuoted
  else if needsQuotes text then quotedStyle text
  else if plainAllowed text then .plain
  else quotedStyle text

/-- The length of a key up to which it may stand before its colon on one line, in bytes. -/
def maxSimpleKey : Nat := 128

def byteLength (text : List Char) : Nat := (String.ofList text).utf8ByteSize

/-- Whether a key stands on one line with its colon. -/
def isSimpleKey (key : List Char) : Bool := !key.any isBreak && byteLength key ≤ maxSimpleKey

end SaveManifest.Yaml
