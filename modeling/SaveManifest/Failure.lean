/-!
# Failures

What can end an operation, as a cause, and its wording. A failure is reported as a chain of
messages from the outermost context to the root. The root may be the report of a reader, of the
file system or of the network; such a message is marked as foreign.
-/

namespace SaveManifest

inductive Message where
  | own (text : String)
  | foreign (text : String)
deriving DecidableEq, Repr

def Message.text : Message → String
  | own text => text
  | foreign text => text

/-- What ended an operation. -/
inductive Failure where
  | cannotRead (path : String)
  | cannotParse (path : String)
  | cannotCreate (path : String)
  | cannotWrite (path : String)
  | rootIsFile (path : String)
  | noCategory
  | noTitle
  | invalidUrl (url : String)
  | noAnswer (report : String)
  | badStatus (status : String)
  | badBody
  | apiError (code info : String)
  | exhausted
  | badMembers
  | badPage (title : String)
  | unfetchedPages (count : Nat)
  | told (messages : List String)
deriving DecidableEq, Repr

namespace Failure

/-- The messages of a failure, from the outermost context to the root. -/
def chain : Failure → List Message
  | cannotRead path => [.own ("failed to read " ++ path), .foreign "no readable text"]
  | cannotParse path => [.own ("failed to parse " ++ path), .foreign "not of the expected form"]
  | cannotCreate path => [.own ("failed to create " ++ path), .foreign "not a directory"]
  | cannotWrite path => [.own ("failed to write " ++ path), .foreign "not a file"]
  | rootIsFile path => [.own ("project root is a file, not a directory: " ++ path)]
  | noCategory => [.own "discover requires at least one category"]
  | noTitle => [.own "refresh requires at least one non-empty title"]
  | invalidUrl url => [.own ("invalid WIKI_API_URL: " ++ url), .foreign "not an absolute URL"]
  | noAnswer report => [.own "failed to call MediaWiki API", .foreign report]
  | badStatus status => [.own ("MediaWiki API request failed with HTTP " ++ status)]
  | badBody =>
    [.own "failed to decode MediaWiki API JSON response", .foreign "error decoding response body"]
  | apiError code info => [.own ("MediaWiki API error [" ++ code ++ "]: " ++ info)]
  | exhausted => [.own "MediaWiki API request exhausted retry budget"]
  | badMembers =>
    [.own "failed to decode categorymembers API response", .foreign "not of the expected form"]
  | badPage title =>
    [.own ("failed to fetch page " ++ title), .own "failed to decode page content API response",
      .foreign "not of the expected form"]
  | unfetchedPages count =>
    [.own ("refresh finished with " ++ toString count ++ " error(s)")]
  | told messages => messages.map .own

/-- The outermost message. -/
def headline (failure : Failure) : String :=
  match failure.chain with
  | [] => ""
  | message :: _ => message.text

/-- The messages below the outermost one, numbered from zero if there are several. -/
def causes (failure : Failure) : List String :=
  match (failure.chain.drop 1).map (·.text) with
  | [] => []
  | [cause] => ["    " ++ cause]
  | several => several.zipIdx.map fun (cause, index) =>
    let number := toString index
    String.ofList (List.replicate (5 - number.length) ' ') ++ number ++ ": " ++ cause

def report (failure : Failure) : String :=
  let causes := failure.causes
  "Error: " ++ failure.headline ++
    (if causes.isEmpty then "" else "\n\nCaused by:\n" ++ "\n".intercalate causes)

/-- The whole chain on one line. -/
def brief (failure : Failure) : String := ": ".intercalate (failure.chain.map (·.text))

end Failure

end SaveManifest
