import SaveManifest.CommandLine.Grammar
import SaveManifest.Refresh
import SaveManifest.Text.Number
import SaveManifest.Workspace

/-!
# Invocations

What the arguments of the program ask for. Arguments are read from left to right, and the first
one that is wrong or asks for a page of text decides. A value of an option may be attached with an
equals sign or follow as the next argument, which must not look like an option then; behind `--`
nothing is an option. An option may be given once before and once behind the command; the later
one counts.
-/

namespace SaveManifest.CommandLine

/-- What ends the reading of the arguments before their end. -/
inductive Stop where
  | shown (page : String)
  | refused
deriving DecidableEq, Repr

/-- The options given with their values, in order. -/
abbrev Given := List (String × String)

/-- The arguments of one command: the options given, the values that belong to no option, and
the command that follows with its arguments. -/
structure Reading where
  given : Given
  values : List String
  next : Option (String × List String) := none
deriving DecidableEq, Repr

/-- The number that a text spells, at most 64 bits wide. -/
def readCount? (text : String) : Option Nat :=
  Text.readUnsigned? 10 UInt64.size text.toList

/-- Adds an option with its value, unless the value is none for it or the option was given before
and may not be repeated. -/
def addOption (rule : OptionRule) (value : String) (given : Given) : Except Stop Given :=
  let repeated := (given.lookup rule.name).isSome
  let allowed := match rule.takes with
    | .nothing => !repeated
    | .path _ => !repeated && !value.isEmpty
    | .text _ => !repeated
    | .many _ => true
    | .number _ => !repeated && (readCount? value).isSome
  if allowed then .ok (given ++ [(rule.name, value)]) else .error .refused

/-- The options behind a single hyphen, one letter each. -/
def readLetters (rule : CommandRule) (given : Given) : List Char → Except Stop Given
  | [] => .ok given
  | letter :: letters =>
    if letter = 'h' then .error (.shown (helpPage rule))
    else if letter = 'V' ∧ rule.hasVersion then .error (.shown versionLine)
    else match rule.options.find? (·.letter == some letter) with
      | none => .error .refused
      | some option =>
        match addOption option "" given with
        | .error stop => .error stop
        | .ok given => readLetters rule given letters

/-- The name of an option and the value attached to it. -/
def splitAttached (text : List Char) : String × Option String :=
  let name := text.takeWhile (· != '=')
  match text.drop name.length with
  | '=' :: value => (String.ofList name, some (String.ofList value))
  | _ => (String.ofList name, none)

/-- Whether an argument cannot be the value of the option before it. -/
def looksLikeOption (argument : String) : Bool :=
  match argument.toList with
  | '-' :: _ :: _ => true
  | _ => false

/-- What an option at the front of the arguments is: a page that it asks for, or the option with
its value, if that is attached or not needed. -/
inductive LongOption where
  | stop (stop : Stop)
  | complete (rule : OptionRule) (value : String)
  | awaiting (rule : OptionRule)

/-- Reads an option behind two hyphens. -/
def readLong (rule : CommandRule) (text : List Char) : LongOption :=
  let (name, attached) := splitAttached text
  if name = "help" ∧ attached.isNone then .stop (.shown (helpPage rule))
  else if name = "version" ∧ rule.hasVersion ∧ attached.isNone then .stop (.shown versionLine)
  else match rule.options.find? (·.name == name) with
    | none => .stop .refused
    | some option =>
      match option.takes, attached with
      | .nothing, none => .complete option ""
      | .nothing, some _ => .stop .refused
      | _, some value => .complete option value
      | _, none => .awaiting option

/-- Reads the arguments of a command up to the command that follows. `trailing` says that no
options follow any more. -/
def readArguments (rule : CommandRule) (trailing : Bool) (given : Given) (values : List String) :
    List String → Except Stop Reading
  | [] => .ok { given, values }
  | argument :: arguments =>
    let asValue : Except Stop Reading :=
      if !trailing && rule.commands.any (·.1 == argument) then
        .ok { given, values, next := some (argument, arguments) }
      else if rule.value.isSome && values.isEmpty then
        readArguments rule trailing given [argument] arguments
      else .error .refused
    if trailing then asValue
    else match argument.toList with
      | ['-', '-'] => readArguments rule true given values arguments
      | '-' :: '-' :: text =>
        match readLong rule text with
        | .stop stop => .error stop
        | .complete option value =>
          match addOption option value given with
          | .error stop => .error stop
          | .ok given => readArguments rule false given values arguments
        | .awaiting option =>
          match arguments with
          | [] => .error .refused
          | value :: arguments =>
            if looksLikeOption value then .error .refused
            else match addOption option value given with
              | .error stop => .error stop
              | .ok given => readArguments rule false given values arguments
      | '-' :: letter :: letters =>
        match readLetters rule given (letter :: letters) with
        | .error stop => .error stop
        | .ok given => readArguments rule false given values arguments
      | _ => asValue

inductive Command where
  | discover
  | refresh (options : RefreshOptions)
  | resolve (raw : String) (system : Option String)
  | stats
deriving DecidableEq, Repr

structure RunOptions where
  paths : PathFlags := {}
  json : Bool := false
  diagnostics : Bool := false
deriving DecidableEq, Repr

/-- What the arguments ask for. Without a command, all that is left is to show the help page. -/
inductive Invocation where
  | run (options : RunOptions) (command : Command)
  | idle
  | stopped (stop : Stop)
deriving DecidableEq, Repr

/-- The options of a run, given in front of the command and behind it. -/
def runOptions (front behind : Given) : RunOptions :=
  let value (name : String) : Option String := (behind.lookup name).or (front.lookup name)
  { paths := { root := value projectRoot.name, settings := value config.name }
    json := (value json.name).isSome
    diagnostics := (value diagnostics.name).isSome }

/-- The options of a refresh, unless some of them exclude each other. -/
def refreshOptions (given : Given) : Except Stop RefreshOptions :=
  let has (rule : OptionRule) : Bool := (given.lookup rule.name).isSome
  let titles := (given.filter (·.1 == game.name)).map (·.2)
  let limit := (given.lookup limit.name).bind readCount?
  let selection : Selection :=
    if !titles.isEmpty then .titles titles
    else if has all then .all
    else if has flagged then .flagged
    else .pending
  if (has all && has flagged) || (has all && has game) || (has flagged && has game) then
    .error .refused
  else .ok { selection, limit }

def readCommand (name : String) (reading : Reading) : Except Stop Command :=
  if name = "discover" then .ok .discover
  else if name = "refresh" then
    match refreshOptions reading.given with
    | .error stop => .error stop
    | .ok options => .ok (.refresh options)
  else if name = "resolve" then
    match reading.values with
    | raw :: _ => .ok (.resolve raw (reading.given.lookup system.name))
    | [] => .error .refused
  else .ok .stats

/-- The page that the command for help pages shows. -/
def readHelp : List String → Stop
  | [] => .shown (helpPage programRule)
  | [name] =>
    if name = "help" then .shown helpOfHelp
    else if commands.any (·.1 == name) then .shown (helpPage (commandRule name))
    else .refused
  | _ => .refused

def Invocation.ofArguments (arguments : List String) : Invocation :=
  match readArguments programRule false [] [] arguments with
  | .error stop => .stopped stop
  | .ok { next := none, .. } => .idle
  | .ok { given, next := some (name, arguments), .. } =>
    if name = "help" then .stopped (readHelp arguments)
    else match readArguments (commandRule name) false [] [] arguments with
      | .error stop => .stopped stop
      | .ok reading =>
        match readCommand name reading with
        | .error stop => .stopped stop
        | .ok command => .run (runOptions given reading.given) command

end SaveManifest.CommandLine
