import SaveManifest.Text.Blank
import SaveManifest.Url.Host

/-!
# Addresses

Absolute addresses in the sense of the web: a scheme, in most cases a host and the number of a
service on it, a path, a query and a fragment. Reading brings an address into its normal form:
the scheme and a domain name in lower case, the usual service of the scheme left out, a path
without `.` and `..`, and what a part cannot hold percent-encoded. A user name and a password are
read and dropped.
-/

namespace SaveManifest

open SaveManifest.Text

/-- An address. An address without a host has a path that need not begin with a slash. -/
structure Url where
  scheme : String
  host : Option String := none
  service : Option Nat := none
  path : String
  query : Option String := none
  fragment : Option String := none
deriving DecidableEq, Repr

namespace Url

/-- The schemes with a host that browsers know, and their usual services. -/
def webSchemes : List (String × Nat) :=
  [("http", 80), ("https", 443), ("ws", 80), ("wss", 443), ("ftp", 21)]

def fileScheme : String := "file"

def isHttp (url : Url) : Bool := url.scheme == "http" || url.scheme == "https"

/-- The address as a text. A path that begins with two slashes gets a dot in front where it would
be taken for a host. -/
def text (url : Url) : String :=
  let host := match url.host with
    | some host =>
      "//" ++ host ++ ((url.service.map fun number => ":" ++ toString number).getD "")
    | none => if "//".toList.isPrefixOf url.path.toList then "/." else ""
  url.scheme ++ ":" ++ host ++ url.path ++ ((url.query.map ("?" ++ ·)).getD "") ++
    ((url.fragment.map ("#" ++ ·)).getD "")

def withParameters (url : Url) (pairs : List (String × String)) : Url :=
  let form := String.ofList (formText pairs)
  match url.query with
  | none => { url with query := some form }
  | some query => { url with query := some (if query.isEmpty then form else query ++ "&" ++ form) }

/-- A slash, or in the schemes of the web a backslash too. -/
def isSlash (web : Bool) (c : Char) : Bool := c == '/' || (web && c == '\\')

/-- A character that ends the host and all that belongs to it. -/
def endsAuthority (web : Bool) (c : Char) : Bool := isSlash web c || c == '?' || c == '#'

/-- The scheme in front of the first colon, in lower case, and the text behind the colon. -/
def splitScheme? (text : List Char) : Option (String × List Char) :=
  let scheme := text.takeWhile fun c => isLetter c || isDigit c || ['+', '-', '.'].contains c
  match text.drop scheme.length with
  | ':' :: rest =>
    if scheme.head?.any isLetter then some (String.ofList (lowered scheme), rest) else none
  | _ => none

/-- The text behind the last at sign, and whether there is an at sign. -/
def behindUser (text : List Char) : List Char × Bool :=
  let behind := (text.reverse.takeWhile (· != '@')).reverse
  (behind, behind.length < text.length)

/-- The host, and the text behind its colon if there is one. Colons in brackets do not count. -/
def splitHost (inBrackets : Bool) : List Char → List Char × Option (List Char)
  | [] => ([], none)
  | c :: rest =>
    if c = ':' ∧ !inBrackets then ([], some rest)
    else
      let inBrackets := if c = '[' then true else if c = ']' then false else inBrackets
      let (host, service) := splitHost inBrackets rest
      (c :: host, service)

/-- The number of a service; the inner `none` stands for a service left out. -/
def readService? (usual : Option Nat) (text : List Char) : Option (Option Nat) :=
  if text.isEmpty then some none
  else do
    if !text.all isDigit then none
    let service ← readDigits? 10 text
    if 65535 < service then none
    else some (if some service = usual then none else some service)

/-- Whether a part of a path stays at the directory. -/
def isSingleDot (part : List Char) : Bool :=
  [".", "%2e"].any fun dots => dots.toList == lowered part

/-- Whether a part of a path leads to the directory above. -/
def isDoubleDot (part : List Char) : Bool :=
  ["..", ".%2e", "%2e.", "%2e%2e"].any fun dots => dots.toList == lowered part

/-- The parts of a path without those that stay or lead upwards; `kept` are those before, and the
last part is empty where the path leads to a directory. -/
def normalizeParts (kept : List (List Char)) : List (List Char) → List (List Char)
  | [] => kept
  | part :: parts =>
    let directory := if parts.isEmpty then [[]] else []
    if isDoubleDot part then normalizeParts (kept.dropLast ++ directory) parts
    else if isSingleDot part then normalizeParts (kept ++ directory) parts
    else normalizeParts (kept ++ [part]) parts

/-- A path in normal form, from the text behind its first slash. -/
def pathText (web : Bool) (text : List Char) : String :=
  let parts := normalizeParts [] (splitOn (isSlash web) text)
  String.ofList ('/' :: ['/'].intercalate (parts.map (percentEncode inPath)))

/-- The letter of a drive and a colon, for which a bar may stand. -/
def isDrive : List Char → Bool
  | [letter, mark] => isLetter letter && (mark == ':' || mark == '|')
  | _ => false

/-- A path in the local file system in normal form, from the text behind its first slash. No part
of it leads above a drive. -/
def filePathText (text : List Char) : String :=
  match splitOn (isSlash true) text with
  | drive :: parts =>
    if isDrive drive then
      let parts := (drive.take 1 ++ [':']) :: (normalizeParts [] parts).map (percentEncode inPath)
      String.ofList ('/' :: ['/'].intercalate parts)
    else pathText true text
  | [] => pathText true text

/-- The query and the fragment of what follows a path. -/
def readEnding (web : Bool) (text : List Char) : Option String × Option String :=
  let query := text.takeWhile (· != '#')
  let fragment := text.drop query.length
  (match query with
    | '?' :: query => some (String.ofList (percentEncode (inQuery web) query))
    | _ => none,
   match fragment with
    | '#' :: fragment => some (String.ofList (percentEncode inFragment fragment))
    | _ => none)

/-- The text in front of the query and the fragment, and these two. -/
def splitEnding (text : List Char) : List Char × List Char :=
  let front := text.takeWhile fun c => c != '?' && c != '#'
  (front, text.drop front.length)

/-- An address with a host, from behind its two slashes. -/
def readWithHost? (scheme : String) (text : List Char) : Option Url := do
  let usual := webSchemes.lookup scheme
  let web := usual.isSome
  let authority := text.takeWhile fun c => !endsAuthority web c
  let rest := text.drop authority.length
  let (machine, hasUser) := behindUser authority
  let (host, service) := splitHost false machine
  if host.isEmpty ∧ (web ∨ hasUser ∨ service.isSome) then none
  let host ← if web then readWebHost? host else readOtherHost? host
  let service ← match service with
    | none => some none
    | some service => readService? usual service
  let (path, ending) := splitEnding rest
  let (query, fragment) := readEnding web ending
  let path := match path with
    | c :: path => if isSlash web c then pathText web path else pathText web (c :: path)
    | [] => if web then "/" else ""
  some { scheme, host := some host, service, path, query, fragment }

/-- An address in the local file system, from behind its colon. -/
def readFile? (text : List Char) : Option Url := do
  let (front, ending) := splitEnding text
  let (query, fragment) := readEnding true ending
  match front with
  | a :: b :: rest =>
    if isSlash true a && isSlash true b then
      let host := rest.takeWhile fun c => !isSlash true c
      let behind := if isDrive host then rest else rest.drop (host.length + 1)
      let host := if isDrive host then [] else host
      let path := filePathText behind
      let host ← if host.isEmpty then some "" else readWebHost? host
      let host := if host = "localhost" then "" else host
      some { scheme := fileScheme, host := some host, path, query, fragment }
    else
      let path := filePathText (if isSlash true a then b :: rest else a :: b :: rest)
      some { scheme := fileScheme, host := some "", path, query, fragment }
  | [a] =>
    let path := filePathText (if isSlash true a then [] else [a])
    some { scheme := fileScheme, host := some "", path, query, fragment }
  | [] => some { scheme := fileScheme, host := some "", path := "/", query, fragment }

/-- An address of another scheme without a host, from behind its colon. -/
def readOther (scheme : String) (text : List Char) : Url :=
  let (front, ending) := splitEnding text
  let (query, fragment) := readEnding false ending
  let path := match front with
    | '/' :: path => pathText false path
    | _ => String.ofList (percentEncode isControl front)
  { scheme, path, query, fragment }

/-- The address a text denotes, or `none` where the text is no absolute address. Blanks and
controls at its ends do not count, nor do tabs and line breaks anywhere. -/
def ofText? (text : String) : Option Url := do
  let isOuter (c : Char) : Bool := c.toNat ≤ 0x20
  let inner := ((text.toList.dropWhile isOuter).reverse.dropWhile isOuter).reverse
  let (scheme, rest) ← splitScheme?
    (inner.filter fun c => c != '\t' && c != '\n' && c != '\r')
  if (webSchemes.lookup scheme).isSome then
    readWithHost? scheme (rest.dropWhile (isSlash true))
  else if scheme == fileScheme then readFile? rest
  else match rest with
    | '/' :: '/' :: rest => readWithHost? scheme rest
    | _ => some (readOther scheme rest)

end Url

end SaveManifest
