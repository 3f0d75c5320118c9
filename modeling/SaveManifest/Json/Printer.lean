import SaveManifest.Json

/-!
# Writing JSON

Values over several lines, two spaces a level, members in the order given. In texts only quotes,
backslashes and control characters are escaped, the latter by a letter where there is one.
-/

namespace SaveManifest.Json

def hexDigit (value : Nat) : Char :=
  if value < 10 then Char.ofNat (48 + value) else Char.ofNat (87 + value)

def escaped (c : Char) : List Char :=
  match c with
  | '"' => ['\\', '"']
  | '\\' => ['\\', '\\']
  | '\n' => ['\\', 'n']
  | '\r' => ['\\', 'r']
  | '\t' => ['\\', 't']
  | '\x08' => ['\\', 'b']
  | '\x0c' => ['\\', 'f']
  | c =>
    if c.toNat < 0x20 then
      ['\\', 'u', '0', '0', hexDigit (c.toNat / 16), hexDigit (c.toNat % 16)]
    else [c]

def quoted (text : String) : List Char := '"' :: text.toList.flatMap escaped ++ ['"']

def newLine (level : Nat) : List Char := '\n' :: List.replicate (2 * level) ' '

mutual

/-- A value whose further lines are indented by so many levels. -/
def lines (level : Nat) : Json → List Char
  | .null => "null".toList
  | .truth value => (if value then "true" else "false").toList
  | .whole value => (toString value).toList
  | .fraction => "null".toList
  | .text value => quoted value
  | .list [] => ['[', ']']
  | .list (item :: items) =>
    '[' :: newLine (level + 1) ++ lines (level + 1) item ++ itemLines (level + 1) items ++
      newLine level ++ [']']
  | .object [] => ['\x7b', '\x7d']
  | .object ((name, value) :: members) =>
    '\x7b' :: newLine (level + 1) ++ quoted name ++ ':' :: ' ' :: lines (level + 1) value ++
      memberLines (level + 1) members ++ newLine level ++ ['\x7d']

/-- The items after the first one. -/
def itemLines (level : Nat) : List Json → List Char
  | [] => []
  | item :: items => ',' :: newLine level ++ lines level item ++ itemLines level items

/-- The members after the first one. -/
def memberLines (level : Nat) : List (String × Json) → List Char
  | [] => []
  | (name, value) :: members =>
    ',' :: newLine level ++ quoted name ++ ':' :: ' ' :: lines level value ++
      memberLines level members

end

/-- A value as a text, without a line break at its end. -/
def print (value : Json) : String := String.ofList (lines 0 value)

end SaveManifest.Json
