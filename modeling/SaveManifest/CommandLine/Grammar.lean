/-!
# The grammar of the command line

The commands, their options and what each option takes, and the help pages that describe them.
Options of the whole program may stand before or behind the command.
-/

namespace SaveManifest.CommandLine

/-- What an option takes, and how help pages name it. An option that takes many may be
repeated. -/
inductive Takes where
  | nothing
  | path (label : String)
  | text (label : String)
  | many (label : String)
  | number (label : String)
deriving DecidableEq, Repr

/-- The name of what an option takes. -/
def Takes.label? : Takes → Option String
  | nothing => none
  | path label => some label
  | text label => some label
  | many label => some label
  | number label => some label

structure OptionRule where
  name : String
  letter : Option Char := none
  takes : Takes := .nothing
  about : String := ""
deriving DecidableEq, Repr

/-- A command, or the program itself: its options in the order of its help page, its own value if
it takes one, and the commands below it. -/
structure CommandRule where
  name : String
  about : String
  options : List OptionRule
  value : Option String := none
  commands : List (String × String) := []
  hasVersion : Bool := false
deriving DecidableEq, Repr

def program : String := "savewiki"

def version : String := "0.1.0"

def projectRoot : OptionRule := { name := "project-root", takes := .path "PATH" }

def config : OptionRule := { name := "config", takes := .path "PATH" }

def verbose : OptionRule :=
  { name := "verbose", letter := some 'v', about := "Enable debug logging" }

def json : OptionRule := { name := "json", about := "Print reports as JSON" }

def diagnostics : OptionRule :=
  { name := "diagnostics", about := "Print resolved runtime diagnostics" }

def all : OptionRule := { name := "all", about := "Refresh every cached page" }

def flagged : OptionRule := { name := "flagged", about := "Refresh pages with skipped paths" }

def game : OptionRule :=
  { name := "game", takes := .many "TITLE", about := "Refresh a specific page (repeatable)" }

def limit : OptionRule :=
  { name := "limit", takes := .number "N", about := "Stop after N pages" }

def system : OptionRule :=
  { name := "system", takes := .text "TEXT",
    about := "System column text, e.g. Windows or Steam" }

def commands : List (String × String) := [
  ("discover", "List category members and record unseen pages"),
  ("refresh", "Fetch pages and rebuild their manifest records"),
  ("resolve", "Resolve a single raw wiki path"),
  ("stats", "Show cache and manifest counts"),
  ("help", "Print this message or the help of the given subcommand(s)")]

def aboutOf (name : String) : String := (commands.lookup name).getD ""

/-- The options of the whole program. -/
def shared : List OptionRule := [projectRoot, config, verbose, json, diagnostics]

def programRule : CommandRule where
  name := program
  about := "Build a save-location manifest from wiki game pages"
  options := shared
  commands := commands
  hasVersion := true

def commandRule (name : String) : CommandRule :=
  let rule : CommandRule := { name, about := aboutOf name, options := shared }
  if name = "refresh" then
    { rule with
      options := [all, projectRoot, config, flagged, game, verbose, json, limit, diagnostics] }
  else if name = "resolve" then
    { rule with
      options := [projectRoot, config, system, verbose, json, diagnostics]
      value := some "RAW" }
  else rule

/-! ## Help pages -/

def padded (width : Nat) (text : String) : String :=
  text ++ String.ofList (List.replicate (width - text.length) ' ')

/-- Rows of two columns, indented; the second column begins two spaces behind the longest first
one. -/
def table (rows : List (String × String)) : String :=
  let width := (rows.map (·.1.length)).foldl max 0
  String.join (rows.map fun (left, right) => "  " ++ padded width left ++ "  " ++ right ++ "\n")

def optionText (letter : Option Char) (name : String) (label : Option String) : String :=
  (match letter with
    | some letter => "-" ++ letter.toString ++ ", "
    | none => "    ") ++
    "--" ++ name ++ ((label.map fun label => " <" ++ label ++ ">").getD "")

/-- The options of a command as they stand in its help page. -/
def optionRows (rule : CommandRule) : List (String × String) :=
  rule.options.map (fun option =>
    (optionText option.letter option.name option.takes.label?, option.about)) ++
    [(optionText (some 'h') "help" none, "Print help")] ++
    (if rule.hasVersion then [(optionText (some 'V') "version" none, "Print version")] else [])

def usage (rule : CommandRule) : String :=
  "Usage: " ++ program ++ (if rule.name = program then "" else " " ++ rule.name) ++ " [OPTIONS]" ++
    ((rule.value.map fun value => " <" ++ value ++ ">").getD "") ++
    (if rule.commands.isEmpty then "" else " [COMMAND]")

def helpPage (rule : CommandRule) : String :=
  rule.about ++ "\n\n" ++ usage rule ++ "\n\n" ++
    (if rule.commands.isEmpty then "" else "Commands:\n" ++ table rule.commands ++ "\n") ++
    ((rule.value.map fun value =>
      "Arguments:\n" ++ table [("<" ++ value ++ ">", "")] ++ "\n").getD "") ++
    "Options:\n" ++ table (optionRows rule)

/-- The help page of the command that prints help pages. -/
def helpOfHelp : String :=
  aboutOf "help" ++ "\n\nUsage: " ++ program ++ " help [COMMAND]...\n\nArguments:\n" ++
    table [("[COMMAND]...", "Print help for the subcommand(s)")]

def versionLine : String := program ++ " " ++ version ++ "\n"

end SaveManifest.CommandLine
