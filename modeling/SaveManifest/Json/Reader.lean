import SaveManifest.Json
import SaveManifest.Text.Decimal

/-!
# Reading JSON

A text is one value between blanks. Lists and objects nest at most `maxDepth` deep; of two
members with one name the later one counts; a number beyond all doubles is refused, and so is a
text with half of a surrogate pair. `none` stands for a text that is no JSON.
-/

namespace SaveManifest.Json

open SaveManifest.Text

/-- How deep lists and objects nest. -/
def maxDepth : Nat := 127

def skipBlanks (source : List Char) : List Char :=
  source.dropWhile fun c => c == ' ' || c == '\t' || c == '\n' || c == '\r'

/-- The number that four hexadecimal digits at the front denote, and the rest. -/
def readUnit? (source : List Char) : Option (Nat × List Char) :=
  let digits := source.take 4
  if digits.length = 4 then (readDigits? 16 digits).map (·, source.drop 4) else none

/-- The character of one or two units of 16 bits, from behind the first backslash and `u`. -/
def readUnits? (source : List Char) : Option (Char × List Char) := do
  let (first, rest) ← readUnit? source
  if 0xDC00 ≤ first ∧ first ≤ 0xDFFF then none
  else if 0xD800 ≤ first ∧ first ≤ 0xDBFF then
    match rest with
    | '\\' :: 'u' :: rest => do
      let (second, rest) ← readUnit? rest
      if 0xDC00 ≤ second ∧ second ≤ 0xDFFF then
        some (Char.ofNat (0x10000 + (first - 0xD800) * 0x400 + (second - 0xDC00)), rest)
      else none
    | _ => none
  else some (Char.ofNat first, rest)

/-- What an escape stands for, from behind its backslash. -/
def readEscape? : List Char → Option (Char × List Char)
  | '"' :: rest => some ('"', rest)
  | '\\' :: rest => some ('\\', rest)
  | '/' :: rest => some ('/', rest)
  | 'b' :: rest => some ('\x08', rest)
  | 'f' :: rest => some ('\x0c', rest)
  | 'n' :: rest => some ('\n', rest)
  | 'r' :: rest => some ('\r', rest)
  | 't' :: rest => some ('\t', rest)
  | 'u' :: rest => readUnits? rest
  | _ => none

/-- The inside of a text, from behind the opening quote, and the rest. -/
def readInside : Nat → List Char → Option (List Char × List Char)
  | 0, _ => none
  | fuel + 1, source =>
    match source with
    | [] => none
    | '"' :: rest => some ([], rest)
    | '\\' :: rest => do
      let (c, rest) ← readEscape? rest
      let (others, rest) ← readInside fuel rest
      some (c :: others, rest)
    | c :: rest =>
      if c.toNat < 0x20 then none
      else (readInside fuel rest).map fun (others, rest) => (c :: others, rest)

/-- A text from behind its opening quote. -/
def readText? (source : List Char) : Option (String × List Char) :=
  (readInside (source.length + 1) source).map fun (inside, rest) => (String.ofList inside, rest)

/-- A row of digits at the front, at least one, and the rest. -/
def readRow? (source : List Char) : Option (List Char × List Char) :=
  match spanDigits source with
  | ([], _) => none
  | found => some found

/-- The whole part of a number: a lone zero, or digits that do not begin with one. -/
def readWhole? : List Char → Option (List Char × List Char)
  | '0' :: rest => if rest.head?.any isDigit then none else some (['0'], rest)
  | source => readRow? source

/-- The exponent at the front, as it is written, and the rest. -/
def readExponent? (source : List Char) : Option (List Char × List Char) :=
  let behindLetter (rest : List Char) : Option (List Char × List Char) :=
    match rest with
    | '+' :: rest => (readRow? rest).map fun (digits, rest) => ('e' :: digits, rest)
    | '-' :: rest => (readRow? rest).map fun (digits, rest) => ('e' :: '-' :: digits, rest)
    | rest => (readRow? rest).map fun (digits, rest) => ('e' :: digits, rest)
  match source with
  | 'e' :: rest => behindLetter rest
  | 'E' :: rest => behindLetter rest
  | _ => some ([], source)

/-- The fraction at the front, as it is written, and the rest. -/
def readPart? (source : List Char) : Option (List Char × List Char) :=
  match source with
  | '.' :: rest => (readRow? rest).map fun (digits, rest) => ('.' :: digits, rest)
  | _ => some ([], source)

/-- A number without its sign. -/
def readMagnitude? (negative : Bool) (source : List Char) : Option (Json × List Char) := do
  let (front, rest) ← readWhole? source
  let (part, rest) ← readPart? rest
  let (exponent, rest) ← readExponent? rest
  let fraction ← readFraction? (front ++ part ++ exponent)
  if !fraction.isFinite then none
  let magnitude ← readDigits? 10 front
  if !part.isEmpty || !exponent.isEmpty then some (.fraction, rest)
  else if negative then
    if 0 < magnitude ∧ magnitude ≤ wordBound 63 then some (.whole (-magnitude), rest)
    else some (.fraction, rest)
  else if magnitude < wordBound 64 then some (.whole magnitude, rest)
  else some (.fraction, rest)

/-- The items of a list up to its bracket, at least one. -/
def readItems (read : List Char → Option (Json × List Char)) :
    Nat → List Char → Option (List Json × List Char)
  | 0, _ => none
  | fuel + 1, source => do
    let (item, rest) ← read (skipBlanks source)
    match skipBlanks rest with
    | ']' :: rest => some ([item], rest)
    | ',' :: rest => (readItems read fuel rest).map fun (items, rest) => (item :: items, rest)
    | _ => none

/-- The members of an object up to its brace, at least one; `members` are those before. -/
def readMembers (read : List Char → Option (Json × List Char)) :
    Nat → List (String × Json) → List Char → Option (List (String × Json) × List Char)
  | 0, _, _ => none
  | fuel + 1, members, source =>
    match skipBlanks source with
    | '"' :: rest => do
      let (name, rest) ← readText? rest
      match skipBlanks rest with
      | ':' :: rest => do
        let (value, rest) ← read (skipBlanks rest)
        let members := setMember name value members
        match skipBlanks rest with
        | '}' :: rest => some (members, rest)
        | ',' :: rest => readMembers read fuel members rest
        | _ => none
      | _ => none
    | _ => none

/-- A value that is neither a list nor an object. -/
def readScalar? (source : List Char) : Option (Json × List Char) :=
  match source with
  | 'n' :: 'u' :: 'l' :: 'l' :: rest => some (.null, rest)
  | 't' :: 'r' :: 'u' :: 'e' :: rest => some (.truth true, rest)
  | 'f' :: 'a' :: 'l' :: 's' :: 'e' :: rest => some (.truth false, rest)
  | '"' :: rest => (readText? rest).map fun (value, rest) => (.text value, rest)
  | '-' :: rest => readMagnitude? true rest
  | source => readMagnitude? false source

/-- A value that nests at most `depth` deep. -/
def readValue : Nat → List Char → Option (Json × List Char)
  | 0, source => readScalar? source
  | depth + 1, source =>
    match source with
    | '[' :: rest =>
      match skipBlanks rest with
      | ']' :: rest => some (.list [], rest)
      | rest =>
        (readItems (readValue depth) (rest.length + 1) rest).map fun (items, rest) =>
          (.list items, rest)
    | '{' :: rest =>
      match skipBlanks rest with
      | '}' :: rest => some (.object [], rest)
      | rest =>
        (readMembers (readValue depth) (rest.length + 1) [] rest).map fun (members, rest) =>
          (.object members, rest)
    | _ => readScalar? source

def ofText? (source : String) : Option Json :=
  match readValue maxDepth (skipBlanks source.toList) with
  | some (value, rest) => if (skipBlanks rest).isEmpty then some value else none
  | none => none

end SaveManifest.Json
