import SaveManifest.Path.Denylist
import SaveManifest.Storage
import SaveManifest.Text.Number
import SaveManifest.Toml.Reader

/-!
# Settings

What a user may set: the wiki, in a file or in the environment, the categories to list, and more
paths that are too broad. A variable of the environment counts when it is more than white space,
and then goes before the file.
-/

namespace SaveManifest

abbrev Environment := Catalog String

/-- The trimmed value of a variable, if it is more than white space. -/
def Environment.setting? (environment : Environment) (name : String) : Option String :=
  ((environment.get? name).map Text.trimmed).filter fun value => !value.isEmpty

/-- A variable that holds a number of at most 64 bits, or else a default. -/
def Environment.number (environment : Environment) (name : String) (default : UInt64) : UInt64 :=
  ((environment.get? name).bind fun value =>
    Text.readWord64? (Text.trim value.toList)).getD default

structure Settings where
  apiUrl : Option String := none
  userAgent : Option String := none
  categories : List String := []
  extraBroadPaths : List String := []
deriving DecidableEq, Repr

namespace Settings

open SaveManifest.Toml

def readText? : Value → Option String
  | .text value => some value
  | _ => none

def readTexts? : Value → Option (List String)
  | .list _ items => items.mapM readText?
  | _ => none

/-- The value of a field, or `absent` where there is no such field. -/
def readField? {α : Type} (fields : Fields) (name : String) (absent : α)
    (read : Value → Option α) : Option α :=
  match fields.lookup name with
  | some value => read value
  | none => some absent

/-- The section on the wiki: a table, or a list of both values. A date counts as a table
without a field of the section. -/
def readWiki? : Value → Option (Option String × Option String)
  | .table _ fields => do
    let apiUrl ← readField? fields "api_url" none fun value => (readText? value).map some
    let userAgent ← readField? fields "user_agent" none fun value => (readText? value).map some
    some (apiUrl, userAgent)
  | .date => some (none, none)
  | .list _ (apiUrl :: userAgent :: _) => do
    some (some (← readText? apiUrl), some (← readText? userAgent))
  | _ => none

/-- The section on the manifest: a table, or a list of the values in order, of which those at
the end may be missing. -/
def readManifest? : Value → Option (List String × List String)
  | .table _ fields => do
    let categories ← readField? fields "categories" [] readTexts?
    let extraBroadPaths ← readField? fields "extra_broad_paths" [] readTexts?
    some (categories, extraBroadPaths)
  | .date => some ([], [])
  | .list _ [] => some ([], [])
  | .list _ [categories] => do some (← readTexts? categories, [])
  | .list _ (categories :: extraBroadPaths :: _) => do
    some (← readTexts? categories, ← readTexts? extraBroadPaths)
  | _ => none

def ofText? (text : String) : Option Settings := do
  let fields ← Toml.read? text
  let (apiUrl, userAgent) ← readField? fields "wiki" (none, none) readWiki?
  let (categories, extraBroadPaths) ← readField? fields "manifest" ([], []) readManifest?
  some { apiUrl, userAgent, categories, extraBroadPaths }

def load (files : FileSystem) (path : String) : Except Failure Settings :=
  Storage.load ofText? {} files path

def defaultApiUrl : String := "https://www.pcgamingwiki.com/w/api.php"

def defaultUserAgent : String := "savewiki/0.1"

def defaultCategory : String := "Games"

def effectiveApiUrl (settings : Settings) (environment : Environment) : String :=
  ((environment.setting? "WIKI_API_URL").or settings.apiUrl).getD defaultApiUrl

def effectiveUserAgent (settings : Settings) (environment : Environment) : String :=
  ((environment.setting? "WIKI_USER_AGENT").or settings.userAgent).getD defaultUserAgent

/-- The categories to list: those set, trimmed and without blank ones. -/
def effectiveCategories (settings : Settings) : List String :=
  match (settings.categories.map Text.trimmed).filter fun category => !category.isEmpty with
  | [] => [defaultCategory]
  | categories => categories

/-- The paths that are too broad to name a game. -/
def denylist (settings : Settings) : Path.Denylist :=
  Path.Denylist.standard.withExtra settings.extraBroadPaths

end Settings

/-- How a wiki is asked. Times are in milliseconds. -/
structure ClientOptions where
  apiUrl : String
  userAgent : String
  timeout : UInt64
  pause : UInt64
  retries : UInt64
  retryDelay : UInt64
deriving DecidableEq, Repr

def ClientOptions.ofSettings (settings : Settings) (environment : Environment) :
    ClientOptions where
  apiUrl := settings.effectiveApiUrl environment
  userAgent := settings.effectiveUserAgent environment
  timeout := environment.number "WIKI_HTTP_TIMEOUT_MS" 30000
  pause := environment.number "WIKI_RATE_LIMIT_READ" 300
  retries := environment.number "WIKI_HTTP_RETRIES" 2
  retryDelay := environment.number "WIKI_HTTP_RETRY_DELAY_MS" 500

end SaveManifest
