import SaveManifest.Yaml.Lexer

/-!
# Documents

A stream of one document as a tree of scalars, sequences and mappings. An alias stays in the tree
as the number of the node it stands for, because a node may hold an alias of itself; the
document lists the numbered nodes. Of a tag only what the reader of a scalar needs is kept.
-/

namespace SaveManifest.Yaml

inductive Node where
  | scalar (style : Style) (tag : Option String) (text : String)
  | sequence (items : List Node)
  | mapping (pairs : List (Node × Node))
  | alias (number : Nat)
deriving Repr

/-- The node that stands where nothing is written. -/
def Node.missing : Node := .scalar .plain none ""

/-- A document: its root and the nodes that have an anchor, by number. -/
structure Document where
  root : Node
  anchored : List (Nat × Node)
deriving Repr

/-- The node that a node stands for. -/
def Document.follow (document : Document) : Node → Node
  | .alias number => (document.anchored.lookup number).getD .missing
  | node => node

namespace Tree

/-- How far a document was read: the tokens left, the stems of the tag handles, the numbers of
the anchors by name and the nodes by number. -/
structure State where
  tokens : List Token
  stems : List (String × String) := []
  numbers : List (String × Nat) := []
  next : Nat := 0
  anchored : List (Nat × Node) := []

def State.advance (state : State) : State := { state with tokens := state.tokens.tail }

/-- Whether the next token is one of these, or there is none. -/
def State.stopsAt (state : State) (stops : List Token) : Bool :=
  match state.tokens with
  | [] => true
  | token :: _ => stops.contains token

def State.isAt (state : State) (token : Token) : Bool := state.tokens.head? == some token

/-- What stands in front of a node: its anchor, and its tag with the stem of its handle. -/
structure Properties where
  anchor : Option String := none
  tag : Option String := none
deriving DecidableEq, Repr

def Properties.isEmpty (properties : Properties) : Bool :=
  properties.anchor.isNone && properties.tag.isNone

/-- A tag with the stem of its handle in front. -/
def resolveTag? (stems : List (String × String)) (handle suffix : String) : Option String :=
  if handle.isEmpty then some suffix
  else (stems.lookup handle).map (· ++ suffix)

/-- The anchor and the tag of a node, in either order. -/
def properties? (state : State) : Option (Properties × State) :=
  match state.tokens with
  | .anchor anchor :: .tag handle suffix :: tokens
  | .tag handle suffix :: .anchor anchor :: tokens => do
    let tag ← resolveTag? state.stems handle suffix
    some ({ anchor := some anchor, tag := some tag }, { state with tokens })
  | .anchor anchor :: tokens => some ({ anchor := some anchor }, { state with tokens })
  | .tag handle suffix :: tokens => do
    let tag ← resolveTag? state.stems handle suffix
    some ({ tag := some tag }, { state with tokens })
  | _ => some ({}, state)

/-- Gives the next number to the anchor of a node, if it has one. -/
def enter (properties : Properties) (state : State) : Option Nat × State :=
  match properties.anchor with
  | none => (none, state)
  | some name =>
    (some state.next,
      { state with numbers := (name, state.next) :: state.numbers, next := state.next + 1 })

/-- Lists a node that is complete under its number, if it has one. -/
def leave (number : Option Nat) (node : Node) (state : State) : Node × State :=
  match number with
  | none => (node, state)
  | some number => (node, { state with anchored := (number, node) :: state.anchored })

/-- A scalar with the properties in front of it. The tag that asks for no tag is dropped. -/
def scalarNode (properties : Properties) (style : Style) (text : String) : Node :=
  .scalar style (properties.tag.filter (· ≠ "!")) text

/-- What ends a key or a value that is not written, in a block. -/
def blockStops : List Token := [.key, .value, .blockEnd]

mutual

/-- A node. `block` says that block collections are allowed, `indentless` that a sequence need
not be indented. -/
def node (block indentless : Bool) : Nat → State → Option (Node × State)
  | 0, _ => none
  | fuel + 1, state =>
    match state.tokens with
    | .alias name :: tokens =>
      (state.numbers.lookup name).map fun number => (.alias number, { state with tokens })
    | _ => do
      let (properties, state) ← properties? state
      let (number, state) := enter properties state
      let (node, state) ← match state.tokens with
        | .scalar style text :: tokens =>
          some (scalarNode properties style text, { state with tokens })
        | .flowSequence :: tokens => flowSequence true fuel [] { state with tokens }
        | .flowMapping :: tokens => flowMapping true fuel [] { state with tokens }
        | token :: tokens =>
          if indentless && token == .blockEntry then indentlessSequence fuel [] state
          else if block && token == .blockSequence then
            blockSequence fuel [] { state with tokens }
          else if block && token == .blockMapping then blockMapping fuel [] { state with tokens }
          else if properties.isEmpty then none
          else some (scalarNode properties .plain "", state)
        | [] => if properties.isEmpty then none else some (scalarNode properties .plain "", state)
      some (leave number node state)

/-- A node, or what stands for it where one of these tokens comes next. -/
def nodeUnless (stops : List Token) (block indentless : Bool) :
    Nat → State → Option (Node × State)
  | 0, _ => none
  | fuel + 1, state =>
    if state.stopsAt stops then some (.missing, state) else node block indentless fuel state

/-- The items of a sequence in a block; `items` are those before, backwards. -/
def blockSequence : Nat → List Node → State → Option (Node × State)
  | 0, _, _ => none
  | fuel + 1, items, state =>
    if state.isAt .blockEntry then do
      let (item, state) ← nodeUnless [.blockEntry, .blockEnd] true false fuel state.advance
      blockSequence fuel (item :: items) state
    else if state.isAt .blockEnd then some (.sequence items.reverse, state.advance)
    else none

/-- The items of a sequence that is not indented below its key. -/
def indentlessSequence : Nat → List Node → State → Option (Node × State)
  | 0, _, _ => none
  | fuel + 1, items, state =>
    if state.isAt .blockEntry then do
      let (item, state) ← nodeUnless (.blockEntry :: blockStops) true false fuel state.advance
      indentlessSequence fuel (item :: items) state
    else some (.sequence items.reverse, state)

/-- The pairs of a mapping in a block. -/
def blockMapping : Nat → List (Node × Node) → State → Option (Node × State)
  | 0, _, _ => none
  | fuel + 1, pairs, state =>
    if state.isAt .key then do
      let (key, state) ← nodeUnless blockStops true true fuel state.advance
      let (value, state) ←
        if state.isAt .value then nodeUnless blockStops true true fuel state.advance
        else some (.missing, state)
      blockMapping fuel ((key, value) :: pairs) state
    else if state.isAt .blockEnd then some (.mapping pairs.reverse, state.advance)
    else none

/-- A value inside brackets, behind its colon if there is one. -/
def flowValue (stops : List Token) : Nat → State → Option (Node × State)
  | 0, _ => none
  | fuel + 1, state =>
    if state.isAt .value then nodeUnless stops false false fuel state.advance
    else some (.missing, state)

/-- The items of a sequence in brackets. A pair may stand for a mapping of that pair; where its
key is not written, the token behind the question mark is passed over. -/
def flowSequence (first : Bool) : Nat → List Node → State → Option (Node × State)
  | 0, _, _ => none
  | fuel + 1, items, state =>
    if state.isAt .flowSequenceEnd then some (.sequence items.reverse, state.advance)
    else if !first && !state.isAt .flowEntry then none
    else
      let state := if first then state else state.advance
      if state.isAt .flowSequenceEnd then some (.sequence items.reverse, state.advance)
      else if state.isAt .key then do
        let state := state.advance
        let (key, state) ←
          if state.stopsAt [.value, .flowEntry, .flowSequenceEnd] then
            some (Node.missing, state.advance)
          else node false false fuel state
        let (value, state) ← flowValue [.flowEntry, .flowSequenceEnd] fuel state
        flowSequence false fuel (.mapping [(key, value)] :: items) state
      else do
        let (item, state) ← node false false fuel state
        flowSequence false fuel (item :: items) state

/-- The pairs of a mapping in braces. A node without a question mark or a colon is a key whose
value is missing. -/
def flowMapping (first : Bool) : Nat → List (Node × Node) → State → Option (Node × State)
  | 0, _, _ => none
  | fuel + 1, pairs, state =>
    if state.isAt .flowMappingEnd then some (.mapping pairs.reverse, state.advance)
    else if !first && !state.isAt .flowEntry then none
    else
      let state := if first then state else state.advance
      if state.isAt .flowMappingEnd then some (.mapping pairs.reverse, state.advance)
      else if state.isAt .key then do
        let (key, state) ←
          nodeUnless [.value, .flowEntry, .flowMappingEnd] false false fuel state.advance
        let (value, state) ← flowValue [.flowEntry, .flowMappingEnd] fuel state
        flowMapping false fuel ((key, value) :: pairs) state
      else do
        let (key, state) ← node false false fuel state
        flowMapping false fuel ((key, .missing) :: pairs) state

end

/-- The directives in front of a document: whether a version was told, and the stems of the
handles. -/
def directives? (versioned : Bool) (stems : List (String × String)) :
    List Token → Option (List (String × String) × List Token)
  | .version major minor :: tokens =>
    if versioned || major != 1 || (minor != 1 && minor != 2) then none
    else directives? true stems tokens
  | .tagDirective handle stem :: tokens =>
    if (stems.lookup handle).isSome then none
    else directives? versioned (stems ++ [(handle, stem)]) tokens
  | tokens => some (stems, tokens)

def standardStems : List (String × String) := [("!", "!"), ("!!", "tag:yaml.org,2002:")]

/-- Whether a token can only stand outside the content of a document. -/
def isOutside : Token → Bool
  | .version _ _ => true
  | .tagDirective _ _ => true
  | .documentStart => true
  | .documentEnd => true
  | _ => false

/-- Whether a token can only stand in front of a document. -/
def isInFront (token : Token) : Bool := isOutside token && token != .documentEnd

/-- The content of a document, and what is left of the stream. -/
def content? (explicit : Bool) (stems : List (String × String)) (tokens : List Token) :
    Option (Document × List Token) :=
  let state : State := { tokens, stems := stems ++ standardStems }
  if explicit && tokens.head?.all isOutside then
    some ({ root := .missing, anchored := [] }, tokens)
  else do
    let (root, state) ← node true false (2 * tokens.length + 2) state
    some ({ root, anchored := state.anchored }, state.tokens)

/-- The first document of a stream, and what is left of the stream. -/
def first? (tokens : List Token) : Option (Document × List Token) :=
  match tokens with
  | [] => none
  | token :: _ =>
    if isInFront token then do
      let (stems, tokens) ← directives? false [] tokens
      if tokens.head? == some .documentStart then content? true stems tokens.tail else none
    else content? false [] tokens

end Tree

/-- The document of a text, or `none` where the text is no stream of one document. -/
def Document.ofText? (text : String) : Option Document := do
  let tokens ← tokens? text.toList
  let (document, rest) ← Tree.first? tokens
  if rest.all (· == .documentEnd) then some document else none

end SaveManifest.Yaml
