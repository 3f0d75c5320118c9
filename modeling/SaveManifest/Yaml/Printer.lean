import SaveManifest.Yaml.Style

/-!
# Writing YAML

Documents in block style, two spaces a level, lists not indented below their key. Keys come in the
order given. A key of several lines, or of more than 128 bytes, is set apart with `? ` and its
value with `: `. An empty map is `{}`, an empty list `[]`.
-/

namespace SaveManifest.Yaml

/-- A document to write. -/
inductive Value where
  | null
  | bool (value : Bool)
  | number (value : Nat)
  | text (value : String)
  | list (items : List Value)
  | map (fields : List (String × Value))

/-- A field of a map, left out where there is nothing to write. -/
def Value.field (name : String) (isEmpty : Bool) (value : Value) : List (String × Value) :=
  if isEmpty then [] else [(name, value)]

def hexDigit (value : Nat) : Char :=
  if value < 10 then Char.ofNat (48 + value) else Char.ofNat (55 + value)

def hexDigits : Nat → Nat → List Char
  | 0, _ => []
  | width + 1, value => hexDigits width (value / 16) ++ [hexDigit (value % 16)]

/-- A character inside double quotes, escaped where it has to be. -/
def escaped (c : Char) : List Char :=
  if isPrintable c && !isBreak c && c != '"' && c != '\\' then [c]
  else match c.toNat with
    | 0x00 => ['\\', '0']
    | 0x07 => ['\\', 'a']
    | 0x08 => ['\\', 'b']
    | 0x09 => ['\\', 't']
    | 0x0A => ['\\', 'n']
    | 0x0B => ['\\', 'v']
    | 0x0C => ['\\', 'f']
    | 0x0D => ['\\', 'r']
    | 0x1B => ['\\', 'e']
    | 0x22 => ['\\', '"']
    | 0x5C => ['\\', '\\']
    | 0x85 => ['\\', 'N']
    | 0xA0 => ['\\', '_']
    | 0x2028 => ['\\', 'L']
    | 0x2029 => ['\\', 'P']
    | point =>
      if point ≤ 0xFF then '\\' :: 'x' :: hexDigits 2 point
      else if point ≤ 0xFFFF then '\\' :: 'u' :: hexDigits 4 point
      else '\\' :: 'U' :: hexDigits 8 point

def pad (indent : Nat) : List Char := List.replicate indent ' '

/-- Text that keeps its line breaks, each line indented where it is not empty; `fresh` says that
a line begins here. -/
def indentLines (indent : Nat) (fresh : Bool) : List Char → List Char
  | [] => []
  | c :: rest =>
    if isBreak c then c :: indentLines indent true rest
    else if fresh then pad indent ++ c :: indentLines indent false rest
    else c :: indentLines indent false rest

/-- The inside of single quotes: a quote is written twice, and a line that a break begins is
indented. -/
def singleQuotedInside (indent : Nat) (fresh : Bool) : List Char → List Char
  | [] => if fresh then pad indent else []
  | c :: rest =>
    if isSpace c then c :: singleQuotedInside indent fresh rest
    else if isBreak c then c :: singleQuotedInside indent true rest
    else
      (if fresh then pad indent else []) ++ (if c = '\'' then [c, c] else [c]) ++
        singleQuotedInside indent false rest

/-- The header of a literal block: the indent where the text begins with a gap, and what
becomes of the line breaks at its end. -/
def literalHeader (text : List Char) : List Char :=
  let indent := match text with
    | c :: _ => if isSpace c || isBreak c then ['2'] else []
    | [] => []
  let chomp := match text.reverse with
    | [] => ['-']
    | [c] => if isBreak c then ['+'] else ['-']
    | c :: d :: _ => if isBreak c then (if isBreak d then ['+'] else []) else ['-']
  '|' :: indent ++ chomp

/-- A text in the style chosen for it; continuation lines are indented. -/
def scalarLines (indent : Nat) (text : List Char) : List Char :=
  match styleOf text with
  | .plain => text
  | .singleQuoted => '\'' :: singleQuotedInside indent false text ++ ['\'']
  | .doubleQuoted => '"' :: text.flatMap escaped ++ ['"']
  | .literal => literalHeader text ++ '\n' :: indentLines indent true text
  | .folded => text

/-- What is written so far, brought to the beginning of a line. -/
def endLine (written : List Char) : List Char :=
  if written.getLast?.any isBreak then written else written ++ ['\n']

mutual

/-- A value behind a colon that stands behind its key, in a map indented by `indent`. -/
def valueLines (indent : Nat) : Value → List Char
  | .list (item :: items) => '\n' :: pad indent ++ listLines indent (item :: items)
  | .map (field :: fields) => '\n' :: pad (indent + 2) ++ mapLines (indent + 2) (field :: fields)
  | .list [] => " []".toList
  | .map [] => " {}".toList
  | .null => " null".toList
  | .bool value => ' ' :: (if value then "true" else "false").toList
  | .number value => ' ' :: (toString value).toList
  | .text value => ' ' :: scalarLines (indent + 2) value.toList

/-- A value behind an indicator that begins a line, at `indent`. -/
def itemLines (indent : Nat) : Value → List Char
  | .list (item :: items) => ' ' :: listLines (indent + 2) (item :: items)
  | .map (field :: fields) => ' ' :: mapLines (indent + 2) (field :: fields)
  | .list [] => " []".toList
  | .map [] => " {}".toList
  | .null => " null".toList
  | .bool value => ' ' :: (if value then "true" else "false").toList
  | .number value => ' ' :: (toString value).toList
  | .text value => ' ' :: scalarLines (indent + 2) value.toList

/-- The items of a list at `indent`, the first one without its indentation. -/
def listLines (indent : Nat) : List Value → List Char
  | [] => []
  | item :: items =>
    let line := '-' :: itemLines indent item
    if items.isEmpty then line else endLine line ++ pad indent ++ listLines indent items

/-- The fields of a map at `indent`, the first one without its indentation. -/
def mapLines (indent : Nat) : List (String × Value) → List Char
  | [] => []
  | (key, value) :: fields =>
    let text := key.toList
    let field :=
      if isSimpleKey text then scalarLines (indent + 2) text ++ ':' :: valueLines indent value
      else endLine ('?' :: ' ' :: scalarLines (indent + 2) text) ++ pad indent ++
        ':' :: itemLines indent value
    if fields.isEmpty then field else endLine field ++ pad indent ++ mapLines indent fields

end

def print (document : Value) : String :=
  let lines := match document with
    | .list (item :: items) => listLines 0 (item :: items)
    | .map (field :: fields) => mapLines 0 (field :: fields)
    | other => (itemLines 0 other).tail
  String.ofList (endLine lines)

end SaveManifest.Yaml
