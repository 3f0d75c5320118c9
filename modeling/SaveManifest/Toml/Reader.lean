import SaveManifest.Text.Decimal
import SaveManifest.Toml.Value

/-!
# Reading TOML

A document is a row of lines: headers, keys with a value, comments, empty lines. Each reader takes
what it reads from the front of a text and gives what it found and the rest, or `none` where the
text is not well formed. Lists and tables in braces nest at most `maxDepth` deep, and a row of
keys is at most as long.
-/

namespace SaveManifest.Toml

open SaveManifest.Text

/-- How deep lists and tables in braces nest. -/
def maxDepth : Nat := 79

def isGap (c : Char) : Bool := c == ' ' || c == '\t'

/-- A character that comments and strings may hold: none that controls anything but a tab. -/
def isPlain (c : Char) : Bool :=
  c == '\t' || (' ' ≤ c && c.toNat ≤ 0x7E) || 0x80 ≤ c.toNat

def skipGaps (text : List Char) : List Char := text.dropWhile isGap

/-- The text behind the line break at its front, if there is one. -/
def skipBreak? : List Char → Option (List Char)
  | '\n' :: rest => some rest
  | '\r' :: '\n' :: rest => some rest
  | _ => none

/-- The text behind a comment at its front, if there is one. -/
def skipComment : List Char → List Char
  | '#' :: rest => rest.dropWhile isPlain
  | text => text

/-- The text behind the end of a line: gaps, a comment, and a line break or the end of all. -/
def finishLine? (text : List Char) : Option (List Char) :=
  match skipComment (skipGaps text) with
  | [] => some []
  | text => skipBreak? text

/-- The text behind gaps, line breaks and comments. A comment has to end in a line break. -/
def skipLines : Nat → List Char → Option (List Char)
  | 0, text => some text
  | fuel + 1, text =>
    match skipGaps text with
    | '#' :: rest => (skipBreak? (rest.dropWhile isPlain)).bind (skipLines fuel)
    | text =>
      match skipBreak? text with
      | some rest => skipLines fuel rest
      | none => some text

/-- The text behind a character that has to be at its front. -/
def expect? (c : Char) : List Char → Option (List Char)
  | [] => none
  | d :: rest => if d = c then some rest else none

/-! ## Strings -/

/-- The character that `width` hexadecimal digits at the front stand for. -/
def readScalar? (width : Nat) (text : List Char) : Option (Char × List Char) := do
  let digits := text.take width
  if digits.length ≠ width then none
  let point ← readDigits? 16 digits
  if (0xD800 ≤ point ∧ point ≤ 0xDFFF) ∨ 0x10FFFF < point then none
  else some (Char.ofNat point, text.drop width)

/-- What an escape stands for, from behind its backslash. -/
def readEscape? : List Char → Option (Char × List Char)
  | 'b' :: rest => some ('\x08', rest)
  | 't' :: rest => some ('\t', rest)
  | 'n' :: rest => some ('\n', rest)
  | 'f' :: rest => some ('\x0c', rest)
  | 'r' :: rest => some ('\r', rest)
  | '"' :: rest => some ('"', rest)
  | '\\' :: rest => some ('\\', rest)
  | 'u' :: rest => readScalar? 4 rest
  | 'U' :: rest => readScalar? 8 rest
  | _ => none

/-- A string in double quotes, from behind the opening one. -/
def readBasic : Nat → List Char → Option (List Char × List Char)
  | 0, _ => none
  | fuel + 1, text =>
    match text with
    | '"' :: rest => some ([], rest)
    | '\\' :: rest => do
      let (c, rest) ← readEscape? rest
      let (others, rest) ← readBasic fuel rest
      some (c :: others, rest)
    | c :: rest =>
      if isPlain c then (readBasic fuel rest).map fun (others, rest) => (c :: others, rest)
      else none
    | [] => none

/-- A string in single quotes, from behind the opening one. -/
def readLiteral (text : List Char) : Option (List Char × List Char) :=
  let inside := text.takeWhile fun c => isPlain c && c != '\''
  (expect? '\'' (text.drop inside.length)).map fun rest => (inside, rest)

/-- The text behind gaps and line breaks. -/
def skipBlanks : List Char → List Char
  | ' ' :: rest => skipBlanks rest
  | '\t' :: rest => skipBlanks rest
  | '\n' :: rest => skipBlanks rest
  | '\r' :: '\n' :: rest => skipBlanks rest
  | text => text

/-- The text behind a backslash that ends a line: gaps, a line break, and all gaps and line
breaks that follow. -/
def skipEscapedBreak? (text : List Char) : Option (List Char) :=
  (skipBreak? (skipGaps text)).map skipBlanks

/-- A string of several lines, from behind the opening quotes and the line break that may follow
them. Up to two quotes may stand side by side; of more, the last three end the string. -/
def readLines (quote : Char) : Nat → List Char → Option (List Char × List Char)
  | 0, _ => none
  | fuel + 1, text =>
    let quotes := (text.takeWhile (· == quote)).length
    if 3 ≤ quotes then
      if quotes ≤ 5 then some (List.replicate (quotes - 3) quote, text.drop quotes) else none
    else
      let more (part : List Char) (rest : List Char) : Option (List Char × List Char) :=
        (readLines quote fuel rest).map fun (others, rest) => (part ++ others, rest)
      match text with
      | [] => none
      | '\\' :: rest =>
        if quote = '"' then
          match skipEscapedBreak? rest with
          | some rest => more [] rest
          | none => (readEscape? rest).bind fun (c, rest) => more [c] rest
        else more ['\\'] rest
      | c :: rest =>
        match skipBreak? (c :: rest) with
        | some rest => more ['\n'] rest
        | none => if isPlain c then more [c] rest else none

/-- A string at its opening quote; several lines only where they are allowed. -/
def readString? (lines : Bool) (text : List Char) : Option (String × List Char) :=
  let found (read : Option (List Char × List Char)) : Option (String × List Char) :=
    read.map fun (inside, rest) => (String.ofList inside, rest)
  let behindBreak (rest : List Char) : List Char := (skipBreak? rest).getD rest
  match text with
  | '"' :: '"' :: '"' :: rest =>
    if lines then found (readLines '"' (rest.length + 1) (behindBreak rest))
    else found (readBasic (text.length + 1) text.tail)
  | '\'' :: '\'' :: '\'' :: rest =>
    if lines then found (readLines '\'' (rest.length + 1) (behindBreak rest))
    else found (readLiteral text.tail)
  | '"' :: rest => found (readBasic (rest.length + 1) rest)
  | '\'' :: rest => found (readLiteral rest)
  | _ => none

/-! ## Keys -/

def isKeyChar (c : Char) : Bool := isLetter c || isDigit c || c == '_' || c == '-'

def readKey? (text : List Char) : Option (String × List Char) :=
  match text with
  | '"' :: _ => readString? false text
  | '\'' :: _ => readString? false text
  | _ =>
    let key := text.takeWhile isKeyChar
    if key.isEmpty then none else some (String.ofList key, text.drop key.length)

/-- A row of at most `depth` keys with dots between them; gaps do not count. -/
def readKeys : Nat → List Char → Option (List String × List Char)
  | 0, _ => none
  | depth + 1, text => do
    let (key, rest) ← readKey? (skipGaps text)
    match skipGaps rest with
    | '.' :: rest => (readKeys depth rest).map fun (keys, rest) => (key :: keys, rest)
    | rest => some ([key], rest)

/-! ## Numbers and dates -/

/-- Digits with single underscores between them, and the rest. -/
def spanUnderscored (base : Nat) : List Char → List Char × List Char
  | '_' :: c :: rest =>
    if (digitValue? base c).isSome then
      let (digits, rest) := spanUnderscored base rest
      (c :: digits, rest)
    else ([], '_' :: c :: rest)
  | c :: rest =>
    if (digitValue? base c).isSome then
      let (digits, rest) := spanUnderscored base rest
      (c :: digits, rest)
    else ([], c :: rest)
  | [] => ([], [])

/-- Digits at the front, at least one, that do not begin with an underscore. -/
def readRow? (base : Nat) (text : List Char) : Option (List Char × List Char) :=
  if text.head?.any fun c => (digitValue? base c).isSome then some (spanUnderscored base text)
  else none

/-- The whole part of a decimal number: a lone zero, or digits that do not begin with one. -/
def readWhole? : List Char → Option (List Char × List Char)
  | '0' :: rest => some (['0'], rest)
  | text => readRow? 10 text

/-- The exponent of a decimal number behind its letter: its sign, its digits and the rest. -/
def readExponent? (text : List Char) : Option (List Char × List Char) :=
  match text with
  | '-' :: rest => (readRow? 10 rest).map fun (digits, rest) => ('-' :: digits, rest)
  | '+' :: rest => readRow? 10 rest
  | rest => readRow? 10 rest

/-- The fraction and the exponent that make a decimal number a float, as they stand there
without underscores. -/
def readTail? (text : List Char) : Option (List Char × List Char) :=
  let exponent (text : List Char) : Option (List Char × List Char) :=
    match text with
    | 'e' :: rest => (readExponent? rest).map fun (digits, rest) => ('e' :: digits, rest)
    | 'E' :: rest => (readExponent? rest).map fun (digits, rest) => ('e' :: digits, rest)
    | _ => none
  match text with
  | '.' :: rest => do
    let (digits, rest) ← readRow? 10 rest
    match exponent rest with
    | some (more, rest) => some ('.' :: digits ++ more, rest)
    | none => some ('.' :: digits, rest)
  | _ => exponent text

/-- A number without its sign. A whole number has to fit in 64 bits; a float must not exceed all
doubles, unless it is negative. -/
def readUnsignedNumber? (negative : Bool) (text : List Char) : Option (Value × List Char) :=
  match text with
  | 'i' :: 'n' :: 'f' :: rest => some (.float, rest)
  | 'n' :: 'a' :: 'n' :: rest => some (.float, rest)
  | _ => do
    let (whole, rest) ← readWhole? text
    match readTail? rest with
    | some (tail, rest) =>
      let fraction ← readFraction? (whole ++ tail)
      if fraction.isFinite || negative then some (.float, rest) else none
    | none =>
      let magnitude ← readDigits? 10 whole
      if magnitude < wordBound 63 ∨ (negative ∧ magnitude = wordBound 63) then
        some (.integer (if negative then -magnitude else magnitude), rest)
      else none

/-- A whole number in another base, from behind what tells the base. -/
def readInBase? (base : Nat) (text : List Char) : Option (Value × List Char) := do
  let (digits, rest) ← readRow? base text
  let magnitude ← readDigits? base digits
  if magnitude < wordBound 63 then some (.integer magnitude, rest) else none

def readNumber? (text : List Char) : Option (Value × List Char) :=
  match text with
  | '+' :: rest => readUnsignedNumber? false rest
  | '-' :: rest => readUnsignedNumber? true rest
  | '0' :: 'x' :: rest => readInBase? 16 rest
  | '0' :: 'o' :: rest => readInBase? 8 rest
  | '0' :: 'b' :: rest => readInBase? 2 rest
  | _ => readUnsignedNumber? false text

/-- A number of exactly `width` digits that lies between two bounds. -/
def readFixed? (width least most : Nat) (text : List Char) : Option (Nat × List Char) := do
  let digits := text.take width
  if digits.length ≠ width ∨ !digits.all isDigit then none
  let value ← readDigits? 10 digits
  if least ≤ value ∧ value ≤ most then some (value, text.drop width) else none

def daysOf (year month : Nat) : Nat :=
  if month = 2 then
    if year % 4 = 0 ∧ (year % 100 ≠ 0 ∨ year % 400 = 0) then 29 else 28
  else if [4, 6, 9, 11].contains month then 30
  else 31

def skipDate? (text : List Char) : Option (List Char) := do
  let (year, rest) ← readFixed? 4 0 9999 text
  let (month, rest) ← readFixed? 2 1 12 (← expect? '-' rest)
  let (_, rest) ← readFixed? 2 1 (daysOf year month) (← expect? '-' rest)
  some rest

def skipTime? (text : List Char) : Option (List Char) := do
  let (_, rest) ← readFixed? 2 0 23 text
  let (_, rest) ← readFixed? 2 0 59 (← expect? ':' rest)
  let (_, rest) ← readFixed? 2 0 60 (← expect? ':' rest)
  match rest with
  | '.' :: rest =>
    if rest.head?.any isDigit then some (rest.dropWhile isDigit) else none
  | _ => some rest

/-- The text behind the offset of a time from the universal one, if there is one. -/
def skipOffset? (text : List Char) : Option (List Char) :=
  let behindSign (rest : List Char) : Option (List Char) := do
    let (_, rest) ← readFixed? 2 0 23 rest
    let (_, rest) ← readFixed? 2 0 59 (← expect? ':' rest)
    some rest
  match text with
  | 'Z' :: rest => some rest
  | 'z' :: rest => some rest
  | '+' :: rest => behindSign rest
  | '-' :: rest => behindSign rest
  | _ => some text

/-- Whether a text begins with two digits and a colon. -/
def beginsLikeTime : List Char → Bool
  | a :: b :: ':' :: _ => isDigit a && isDigit b
  | _ => false

/-- Whether a text begins with four digits and a hyphen. -/
def beginsLikeDate (text : List Char) : Bool :=
  (text.take 4).length == 4 && (text.take 4).all isDigit && (text.drop 4).head? == some '-'

/-- A date, a time of day or both, at its first digit. -/
def readDate? (text : List Char) : Option (Value × List Char) :=
  if beginsLikeTime text then (skipTime? text).map fun rest => (.date, rest)
  else do
    let rest ← skipDate? text
    let timed := match rest with
      | c :: behind => (c == 'T' || c == 't' || c == ' ') && beginsLikeTime behind
      | [] => false
    if timed then do
      let rest ← skipTime? rest.tail
      let rest ← skipOffset? rest
      some (.date, rest)
    else some (.date, rest)

/-! ## Values -/

/-- The items of a list behind its bracket. A comma may follow the last one. -/
def readItems (read : List Char → Option (Value × List Char)) :
    Nat → List Char → Option (List Value × List Char)
  | 0, _ => none
  | fuel + 1, text => do
    let text ← skipLines (text.length + 1) text
    match text with
    | ']' :: rest => some ([], rest)
    | _ =>
      let (item, rest) ← read text
      let rest ← skipLines (rest.length + 1) rest
      match rest with
      | ']' :: rest => some ([item], rest)
      | ',' :: rest =>
        (readItems read fuel rest).map fun (items, rest) => (item :: items, rest)
      | _ => none

/-- The keys and values of a table in braces, behind its brace: at least one. -/
def readPairs (read : List Char → Option (Value × List Char)) :
    Nat → Fields → List Char → Option (Fields × List Char)
  | 0, _, _ => none
  | fuel + 1, fields, text => do
    let (keys, rest) ← readKeys maxDepth text
    let rest ← expect? '=' rest
    let (value, rest) ← read (skipGaps rest)
    let fields ← fields.addDotted keys value
    match skipGaps rest with
    | '}' :: rest => some (fields, rest)
    | ',' :: rest => readPairs read fuel fields rest
    | _ => none

/-- A value that is neither a list nor a table. -/
def readScalarValue? (text : List Char) : Option (Value × List Char) :=
  match text with
  | '"' :: _ => (readString? true text).map fun (value, rest) => (.text value, rest)
  | '\'' :: _ => (readString? true text).map fun (value, rest) => (.text value, rest)
  | 't' :: 'r' :: 'u' :: 'e' :: rest => some (.truth true, rest)
  | 'f' :: 'a' :: 'l' :: 's' :: 'e' :: rest => some (.truth false, rest)
  | _ =>
    if beginsLikeDate text || beginsLikeTime text then readDate? text else readNumber? text

/-- A value that nests at most `depth` deep. -/
def readValue : Nat → List Char → Option (Value × List Char)
  | 0, text => readScalarValue? text
  | depth + 1, text =>
    match text with
    | '[' :: rest =>
      (readItems (readValue depth) (rest.length + 1) rest).map fun (items, rest) =>
        (.list false items, rest)
    | '{' :: rest =>
      match skipGaps rest with
      | '}' :: rest => some (.table .braces [], rest)
      | _ =>
        (readPairs (readValue depth) (rest.length + 1) [] rest).map fun (fields, rest) =>
          (.table .braces fields, rest)
    | _ => readScalarValue? text

/-! ## Documents -/

/-- A header behind its bracket: its keys, and the rest behind its line. -/
def readHeader? (rows : Bool) (text : List Char) : Option (List String × List Char) := do
  let (keys, rest) ← readKeys maxDepth text
  let rest ← expect? ']' rest
  let rest ← if rows then expect? ']' rest else some rest
  let rest ← finishLine? rest
  some (keys, rest)

/-- Reads the lines of a document below a header. -/
def readDocument : Nat → List String → Fields → List Char → Option Fields
  | 0, _, _, _ => none
  | fuel + 1, header, fields, text =>
    match skipGaps text with
    | [] => some fields
    | '[' :: '[' :: rest => do
      let (keys, rest) ← readHeader? true rest
      readDocument fuel keys (← fields.addRowHeader keys) rest
    | '[' :: rest => do
      let (keys, rest) ← readHeader? false rest
      readDocument fuel keys (← fields.addHeader keys) rest
    | '#' :: rest => do
      let rest ← finishLine? ('#' :: rest)
      readDocument fuel header fields rest
    | c :: rest =>
      match skipBreak? (c :: rest) with
      | some rest => readDocument fuel header fields rest
      | none => do
        let (keys, rest) ← readKeys maxDepth (c :: rest)
        let rest ← expect? '=' rest
        let (value, rest) ← readValue maxDepth (skipGaps rest)
        let rest ← finishLine? rest
        readDocument fuel header (← fields.addBelow header keys value) rest

/-- The fields of a document, or `none` where a text is no TOML. A byte order mark in front does
not count. -/
def read? (text : String) : Option Fields :=
  let text := match text.toList with
    | '\ufeff' :: rest => rest
    | text => text
  readDocument (text.length + 1) [] [] text

end SaveManifest.Toml
