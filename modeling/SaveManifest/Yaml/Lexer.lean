import SaveManifest.Yaml.Property
import SaveManifest.Yaml.ScalarText

/-!
# From text to tokens

Reads a stream token by token. In a block, indentation opens and closes collections; inside
brackets it does not count. Where a scalar, an alias or a bracket may turn out to be a key, the
stream gets a slot and the place is kept as a candidate, one for each level of brackets. A
candidate lapses at the end of its line or `maxKeyLength` characters further; a candidate that
can only be a key must not lapse.
-/

namespace SaveManifest.Yaml

/-- How many characters a key may take up to its colon. -/
def maxKeyLength : Nat := 1024

/-- A place where a key may have begun. -/
structure Candidate where
  slot : Nat
  required : Bool
  index : Nat
  line : Nat
  column : Nat
deriving DecidableEq, Repr

/-- Whether a key can no longer reach back to a candidate. -/
def Candidate.hasLapsed (candidate : Candidate) (cursor : Cursor) : Bool :=
  candidate.line < cursor.line || candidate.index + maxKeyLength < cursor.index

/-- How far a stream was read, and what was found. The items are listed backwards; the first
candidate is that of the innermost brackets. -/
structure Lexer where
  cursor : Cursor
  indent : Int := -1
  outerIndents : List Int := []
  candidate : Option Candidate := none
  outerCandidates : List (Option Candidate) := []
  keyAllowed : Bool := true
  items : List Item := []
  fillings : List (Nat × List Token) := []
  slots : Nat := 0

namespace Lexer

def inFlow (lexer : Lexer) : Bool := !lexer.outerCandidates.isEmpty

/-- The lexer with a token found, and its cursor behind it. -/
def emit (lexer : Lexer) (token : Token) (cursor : Cursor) : Lexer :=
  { lexer with items := .token token :: lexer.items, cursor }

/-- The lexer with tokens found where it stands. -/
def emitAll (lexer : Lexer) (tokens : List Token) : Lexer :=
  { lexer with items := (tokens.map Item.token).reverse ++ lexer.items }

/-- Gives up the candidate of the innermost brackets. -/
def giveUp (lexer : Lexer) : Option Lexer :=
  if lexer.candidate.any (·.required) then none else some { lexer with candidate := none }

/-- Keeps the place as a candidate where a key is allowed. -/
def propose (lexer : Lexer) : Option Lexer :=
  if lexer.keyAllowed then do
    let lexer ← lexer.giveUp
    let cursor := lexer.cursor
    some { lexer with
      candidate := some {
        slot := lexer.slots
        required := !lexer.inFlow && lexer.indent == cursor.column
        index := cursor.index
        line := cursor.line
        column := cursor.column }
      items := .slot lexer.slots :: lexer.items
      slots := lexer.slots + 1 }
  else some lexer

def dropLapsed (lexer : Lexer) : Option Lexer :=
  let lapsed (candidate : Candidate) : Bool := candidate.hasLapsed lexer.cursor
  let lost (candidate : Option Candidate) : Bool :=
    candidate.any fun candidate => lapsed candidate && candidate.required
  if lost lexer.candidate || lexer.outerCandidates.any lost then none
  else some { lexer with
    candidate := lexer.candidate.filter (!lapsed ·)
    outerCandidates := lexer.outerCandidates.map fun candidate => candidate.filter (!lapsed ·) }

/-- Opens a block at a column, if it is indented deeper than the block around it; gives the token
that says so. -/
def openBlock (lexer : Lexer) (column : Nat) (token : Token) : Lexer × List Token :=
  if !lexer.inFlow && lexer.indent < column then
    ({ lexer with indent := column, outerIndents := lexer.indent :: lexer.outerIndents }, [token])
  else (lexer, [])

/-- The indentations left when those deeper than a column are closed, and how many were. -/
def closed (column : Int) (indent : Int) : List Int → Int × List Int × Nat
  | [] => (indent, [], 0)
  | outer :: outers =>
    if column < indent then
      let (indent, outers, count) := closed column outer outers
      (indent, outers, count + 1)
    else (indent, outer :: outers, 0)

def closeBlocks (lexer : Lexer) (column : Int) : Lexer :=
  if lexer.inFlow then lexer
  else
    let (indent, outerIndents, count) := closed column lexer.indent lexer.outerIndents
    { lexer with indent, outerIndents }.emitAll (List.replicate count .blockEnd)

/-- Skips spaces, comments and line breaks; tabs only where no key can begin. A byte order mark
is skipped at the very start. -/
def skipToToken : Nat → Lexer → Lexer
  | 0, lexer => lexer
  | fuel + 1, lexer =>
    let cursor := lexer.cursor
    let cursor :=
      if cursor.index == 0 && cursor.rest.head? == some '\ufeff' then cursor.skip 1 else cursor
    let tabs := lexer.inFlow || !lexer.keyAllowed
    let cursor := (cursor.skipWhile fun c => c == ' ' || (tabs && c == '\t')).skipComment
    if cursor.rest.head?.any isBreak then
      skipToToken fuel
        { lexer with cursor := cursor.skipBreak, keyAllowed := lexer.keyAllowed || !lexer.inFlow }
    else { lexer with cursor }

/-- A token before which all blocks end: a directive or the marker of a document. -/
def boundary (lexer : Lexer) (token : Token) (cursor : Cursor) : Option Lexer := do
  let lexer ← (lexer.closeBlocks (-1)).giveUp
  some ({ lexer with keyAllowed := false }.emit token cursor)

def openFlow (lexer : Lexer) (token : Token) : Option Lexer := do
  let lexer ← lexer.propose
  some ({ lexer with
    candidate := none
    outerCandidates := lexer.candidate :: lexer.outerCandidates
    keyAllowed := true }.emit token (lexer.cursor.skip 1))

def closeFlow (lexer : Lexer) (token : Token) : Option Lexer := do
  let lexer ← lexer.giveUp
  let lexer := { lexer with keyAllowed := false }.emit token (lexer.cursor.skip 1)
  match lexer.outerCandidates with
  | [] => some lexer
  | candidate :: outerCandidates => some { lexer with candidate, outerCandidates }

/-- A comma between the items of brackets. -/
def flowEntry (lexer : Lexer) : Option Lexer := do
  let lexer ← lexer.giveUp
  some ({ lexer with keyAllowed := true }.emit .flowEntry (lexer.cursor.skip 1))

/-- A sign that begins an item or a key of a block, in a block of its own if it is indented
deeper. -/
def indicator (lexer : Lexer) (opening token : Token) (keyAllowed : Bool) : Option Lexer := do
  if !lexer.inFlow && !lexer.keyAllowed then none
  let (lexer, tokens) := lexer.openBlock lexer.cursor.column opening
  let lexer ← (lexer.emitAll tokens).giveUp
  some ({ lexer with keyAllowed }.emit token (lexer.cursor.skip 1))

/-- A colon before a value. Behind a candidate it tells that the candidate is a key. -/
def value (lexer : Lexer) : Option Lexer :=
  match lexer.candidate with
  | some candidate =>
    let (lexer, tokens) := lexer.openBlock candidate.column .blockMapping
    some ({ lexer with
      fillings := (candidate.slot, tokens ++ [Token.key]) :: lexer.fillings
      candidate := none
      keyAllowed := false }.emit .value (lexer.cursor.skip 1))
  | none => do
    if !lexer.inFlow && !lexer.keyAllowed then none
    let (lexer, tokens) := lexer.openBlock lexer.cursor.column .blockMapping
    let lexer := lexer.emitAll tokens
    some ({ lexer with keyAllowed := !lexer.inFlow }.emit .value (lexer.cursor.skip 1))

/-- A token that may begin a key. -/
def atom (lexer : Lexer) (read : Cursor → Option (Token × Cursor)) : Option Lexer := do
  let lexer ← lexer.propose
  let (token, cursor) ← read lexer.cursor
  some ({ lexer with keyAllowed := false }.emit token cursor)

def block (lexer : Lexer) (literal : Bool) : Option Lexer := do
  let lexer ← lexer.giveUp
  let (text, cursor) ← readBlock literal lexer.indent (lexer.cursor.skip 1)
  let style := if literal then Style.literal else Style.folded
  some ({ lexer with keyAllowed := true }.emit (.scalar style (String.ofList text)) cursor)

def quoted (fuel : Nat) (lexer : Lexer) (single : Bool) : Option Lexer :=
  lexer.atom fun cursor => do
    let (text, cursor) ← readQuoted single fuel [] (cursor.skip 1)
    let style := if single then Style.singleQuoted else Style.doubleQuoted
    some (.scalar style (String.ofList text), cursor)

/-- A plain scalar. A line break passed at its end allows a key again. -/
def plain (fuel : Nat) (lexer : Lexer) : Option Lexer := do
  let lexer ← lexer.propose
  let (text, cursor, keyAllowed) ←
    readPlain lexer.inFlow lexer.indent fuel [] {} lexer.cursor
  some ({ lexer with keyAllowed }.emit (.scalar .plain (String.ofList text)) cursor)

def beginsPlain (inFlow : Bool) (c : Char) (behind : List Char) : Bool :=
  if isGap c || isBreak c then false
  else if c == '-' then !behind.head?.any isGap
  else if c == '?' || c == ':' then !inFlow && !atGap behind
  else !indicators.contains c

/-- Reads the token at the cursor, which stands at a character `c` with more `behind` it; `fuel`
exceeds the number of characters left. -/
def token (fuel : Nat) (lexer : Lexer) (c : Char) (behind : List Char) : Option Lexer :=
  let cursor := lexer.cursor
  let inFlow := lexer.inFlow
  if cursor.column == 0 && c == '%' then do
    let (token, cursor) ← readDirective? cursor
    lexer.boundary token cursor
  else if cursor.atMarker then
    lexer.boundary (if c == '-' then .documentStart else .documentEnd) (cursor.skip 3)
  else match c with
    | '[' => lexer.openFlow .flowSequence
    | '{' => lexer.openFlow .flowMapping
    | ']' => lexer.closeFlow .flowSequenceEnd
    | '}' => lexer.closeFlow .flowMappingEnd
    | ',' => lexer.flowEntry
    | '*' => lexer.atom fun cursor =>
      (readAnchorName? (cursor.skip 1)).map fun (name, cursor) => (.alias name, cursor)
    | '&' => lexer.atom fun cursor =>
      (readAnchorName? (cursor.skip 1)).map fun (name, cursor) => (.anchor name, cursor)
    | '!' => lexer.atom (readTag? inFlow)
    | '\'' => quoted fuel lexer true
    | '"' => quoted fuel lexer false
    | _ =>
      if c == '-' && atGap behind then lexer.indicator .blockSequence .blockEntry true
      else if c == '?' && (inFlow || atGap behind) then
        lexer.indicator .blockMapping .key !inFlow
      else if c == ':' && (inFlow || atGap behind) then lexer.value
      else if c == '|' && !inFlow then lexer.block true
      else if c == '>' && !inFlow then lexer.block false
      else if beginsPlain inFlow c behind then plain fuel lexer
      else none

/-- Reads tokens up to the end of the stream. The fuel exceeds the number of characters left, since
every token takes up one at least. -/
def run : Nat → Lexer → Option Lexer
  | 0, _ => none
  | fuel + 1, lexer => do
    let lexer := lexer.skipToToken (fuel + 1)
    let lexer ← lexer.dropLapsed
    let lexer := lexer.closeBlocks lexer.cursor.column
    match lexer.cursor.rest with
    | [] => (lexer.closeBlocks (-1)).giveUp
    | c :: behind => do
      let lexer ← token (fuel + 1) lexer c behind
      run fuel lexer

end Lexer

/-- The tokens of a text, or `none` where it is no stream of YAML. -/
def tokens? (text : List Char) : Option (List Token) := do
  if !text.all isAllowed then none
  let lexer ← Lexer.run (text.length + 1) { cursor := { rest := text } }
  some (resolveSlots lexer.fillings lexer.items.reverse)

end SaveManifest.Yaml
