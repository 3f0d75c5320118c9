import SaveManifest.Settings
import SaveManifest.Text.Alphanumeric

/-!
# Environment files

Files of lines `name=value` that add variables to an environment. A value may be quoted, may hold
escapes, and may name variables with a dollar sign; a number sign behind white space begins a
comment. A file is taken over up to the first line that is not well formed.

A logical line goes on over the end of a line while quotes are open.
-/

namespace SaveManifest

namespace EnvironmentFile

open SaveManifest.Text

/-! ## Lines -/

/-- Where the reader of a logical line stands: in bare text, behind a backslash, in double or
single quotes or behind a backslash in them, or behind white space. -/
inductive Mode where
  | bare
  | escape
  | double
  | doubleEscape
  | single
  | singleEscape
  | blank
deriving DecidableEq, Repr

/-- The mode behind one more character; none where a comment begins. -/
def Mode.after (mode : Mode) (c : Char) : Option Mode :=
  let opened : Mode :=
    if c = '\\' then .escape else if c = '"' then .double else if c = '\'' then .single else .bare
  match mode with
  | .blank => if c = '#' then none else some opened
  | .escape => some .bare
  | .bare =>
    if isBlank c && c != '\n' && c != '\r' then some .blank else some opened
  | .double => some (if c = '\\' then .doubleEscape else if c = '"' then .bare else .double)
  | .doubleEscape => some .double
  | .single => some (if c = '\\' then .singleEscape else if c = '\'' then .bare else .single)
  | .singleEscape => some .single

/-- What the end of a physical line means for a logical one. -/
inductive LineEnd where
  | complete
  | comment (length : Nat)
  | open (mode : Mode)
deriving DecidableEq, Repr

/-- Reads a physical line in a mode; `read` characters of it were read before. -/
def scanLine (mode : Mode) (read : Nat) : List Char → LineEnd
  | [] => if mode = .bare then .complete else .open mode
  | c :: rest =>
    match mode.after c with
    | none => .comment read
    | some mode => scanLine mode (read + 1) rest

def withoutBreak (text : List Char) : List Char :=
  match text.reverse with
  | '\n' :: '\r' :: rest => rest.reverse
  | '\n' :: rest => rest.reverse
  | _ => text

/-- The physical lines of a text, each with its line feed. -/
def physicalLines : List Char → List (List Char)
  | [] => []
  | '\n' :: rest => ['\n'] :: physicalLines rest
  | c :: rest =>
    match physicalLines rest with
    | [] => [[c]]
    | line :: lines => (c :: line) :: lines

/-- The logical lines of physical ones; `before` is the part of a logical line read so far. What
stays open at the end is no line. -/
def logicalLines (before : List Char) (mode : Mode) : List (List Char) → List (List Char)
  | [] => []
  | line :: lines =>
    let all := before ++ line
    if (trimLeft all).head? = some '#' then logicalLines [] .bare lines
    else match scanLine mode 0 line with
      | .complete => withoutBreak all :: logicalLines [] .bare lines
      | .comment length => (before ++ line.take length) :: logicalLines [] .bare lines
      | .open mode => logicalLines all mode lines

/-! ## Values -/

/-- Whether a dollar sign has begun the name of a variable, and whether braces stand around it. -/
inductive Naming where
  | none
  | bare
  | braced
deriving DecidableEq, Repr

/-- How far a value was read. -/
structure Progress where
  output : List Char := []
  single : Bool := false
  double : Bool := false
  escaped : Bool := false
  ended : Bool := false
  naming : Naming := .none
  name : List Char := []
deriving DecidableEq, Repr

/-- The value of the variable that was named, put out. -/
def Progress.substitute (progress : Progress) (lookup : String → String) : Progress :=
  { progress with
    output := progress.output ++ (lookup (String.ofList progress.name)).toList
    name := [] }

/-- A value at its end; none if something is left open. -/
def Progress.finish? (progress : Progress) (lookup : String → String) : Option (List Char) :=
  if progress.naming = .braced ∨ progress.single ∨ progress.double then none
  else some (progress.substitute lookup).output

/-- Reads the rest of a value. `none` stands for a value that is not well formed. -/
def readValue (lookup : String → String) : Progress → List Char → Option (List Char)
  | progress, [] => progress.finish? lookup
  | progress, c :: rest =>
    let put (progress : Progress) : Progress := { progress with output := progress.output ++ [c] }
    if progress.ended then
      if c = ' ' ∨ c = '\t' then readValue lookup progress rest
      else if c = '#' then progress.finish? lookup
      else none
    else if progress.escaped then
      let behind := { progress with escaped := false }
      if ['\\', '\'', '"', '$', ' '].contains c then readValue lookup (put behind) rest
      else if c = 'n' then
        readValue lookup { behind with output := behind.output ++ ['\n'] } rest
      else none
    else if progress.single then
      readValue lookup (if c = '\'' then { progress with single := false } else put progress) rest
    else match progress.naming with
      | .bare =>
        if isAlphanumeric c then
          readValue lookup { progress with name := progress.name ++ [c] } rest
        else if c = '\x7b' ∧ progress.name.isEmpty then
          readValue lookup { progress with naming := .braced } rest
        else
          let named := progress.substitute lookup
          if c = '$' then readValue lookup named rest
          else readValue lookup (put { named with naming := .none }) rest
      | .braced =>
        if c = '\x7d' then
          readValue lookup { progress.substitute lookup with naming := .none } rest
        else readValue lookup { progress with name := progress.name ++ [c] } rest
      | .none =>
        if c = '$' then readValue lookup { progress with naming := .bare } rest
        else if progress.double then
          if c = '"' then readValue lookup { progress with double := false } rest
          else if c = '\\' then readValue lookup { progress with escaped := true } rest
          else readValue lookup (put progress) rest
        else if c = '\'' then readValue lookup { progress with single := true } rest
        else if c = '"' then readValue lookup { progress with double := true } rest
        else if c = '\\' then readValue lookup { progress with escaped := true } rest
        else if c = ' ' ∨ c = '\t' then readValue lookup { progress with ended := true } rest
        else readValue lookup (put progress) rest

/-- A character of the name of a variable in front of its equals sign. -/
def isKeyChar (c : Char) : Bool := isLetter c || isDigit c || c == '_' || c == '.'

/-- The name at the front of a line, and the text behind it and the white space that follows. -/
def readKey? (text : List Char) : Option (List Char × List Char) :=
  if text.head?.any fun c => isLetter c || c == '_' then
    let key := text.takeWhile isKeyChar
    some (key, trimLeft (text.drop key.length))
  else none

/-- The name that a line defines and the text of its value; `export` may stand in front. -/
def readDefinition? (text : List Char) : Option (List Char × List Char) := do
  let behindEquals (text : List Char) : Option (List Char) :=
    match text with
    | '=' :: rest => some (trimLeft rest)
    | _ => none
  let (key, rest) ← readKey? text
  match behindEquals rest with
  | some value => some (key, value)
  | none =>
    if key = "export".toList then do
      let (key, rest) ← readKey? rest
      (behindEquals rest).map (key, ·)
    else none

/-- The definitions of logical lines up to the first that is not well formed. `earlier` are those
of this file; a variable of the environment goes before one of the file. -/
def definitions (override : Bool) (environment : Environment) (earlier : List (String × String)) :
    List (List Char) → Environment
  | [] => environment
  | line :: lines =>
    let text := trimLeft (trimRight line)
    if text.isEmpty ∨ text.head? = some '#' then definitions override environment earlier lines
    else
      let lookup (name : String) : String :=
        ((environment.get? name).or (earlier.lookup name)).getD ""
      let definition := do
        let (key, text) ← readDefinition? text
        let value ← if text.head? = some '#' then some [] else readValue lookup {} text
        some (String.ofList key, String.ofList value)
      match definition with
      | none => environment
      | some (key, value) =>
        let environment :=
          if environment.contains key && !override then environment
          else environment.insert key value
        definitions override environment ((key, value) :: earlier) lines

/-- An environment with the definitions of the text of a file, which replace older ones only if
asked to. -/
def add (override : Bool) (text : String) (environment : Environment) : Environment :=
  let text := match text.toList with
    | '\ufeff' :: rest => rest
    | text => text
  definitions override environment [] (logicalLines [] .bare (physicalLines text))

end EnvironmentFile

end SaveManifest
