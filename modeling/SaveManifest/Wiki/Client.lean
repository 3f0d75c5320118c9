import SaveManifest.Http.Network
import SaveManifest.Json.Reader
import SaveManifest.Settings
import SaveManifest.Wiki.Response

/-!
# Asking a wiki over the network

Every question is a request to the address of the wiki. A request whose outcome calls for it is
tried again, as often as the options allow; the first other outcome decides. A category is
listed batch by batch, each batch naming the token with which the next one begins. The requests of
a session are counted, repeated ones included.
-/

namespace SaveManifest

open Http

namespace Client

/-- A character that a header cannot hold. -/
def isRefusedInHeader (c : Char) : Bool := (c.toNat < 0x20 && c != '\t') || c.toNat == 0x7F

/-- Why a request cannot be handed to the network, if it cannot. -/
def refusal? (options : ClientOptions) (request : Request) : Option String :=
  if options.userAgent.toList.any isRefusedInHeader then
    some "builder error: failed to parse header value"
  else if !request.url.isHttp then
    some ("builder error for url (" ++ request.address.text ++ "): URL scheme is not allowed")
  else none

/-- What an outcome that needs no other attempt amounts to. -/
def decide (request : Request) : Outcome → Except Failure Json
  | .lost _ cause =>
    .error (.noAnswer ("error sending request for url (" ++ request.address.text ++ "): " ++ cause))
  | .answered status body =>
    if !isSuccess status then .error (.badStatus (statusText status))
    else match Json.ofText? body with
      | none => .error .badBody
      | some payload =>
        match Response.apiFailure? payload with
        | some failure => .error failure
        | none => .ok payload

/-- Sends a request until its outcome decides, as often as the budget allows. The last attempt
decides in any case, so only an empty budget is exhausted. -/
def attempt (request : Request) : Nat → Session → Except Failure Json × Session
  | 0, session => (.error .exhausted, session)
  | budget + 1, session =>
    let (outcome, session) := session.send request
    if 0 < budget && outcome.passes then attempt request budget session
    else (decide request outcome, session)

/-- The names and values of a question: the form of the answer, and those that are not empty. -/
def parametersOf (pairs : List (String × String)) : List (String × String) :=
  [("format", "json"), ("formatversion", "2")] ++ pairs.filter fun pair => !pair.2.isEmpty

def ask (options : ClientOptions) (pairs : List (String × String)) (session : Session) :
    Except Failure Json × Session :=
  match Url.ofText? options.apiUrl with
  | none => (.error (.invalidUrl options.apiUrl), session)
  | some url =>
    let request : Request := { url, parameters := parametersOf pairs }
    match refusal? options request with
    | some report => (.error (.noAnswer report), session.giveUp)
    | none => attempt request (options.retries.toNat + 1) session

theorem succeeds_of_decide {request : Request} {outcome : Outcome} {payload : Json}
    (decided : decide request outcome = .ok payload) : outcome.succeeds = true := by
  cases outcome with
  | lost passing cause => simp [decide] at decided
  | answered status body =>
    simp only [Outcome.succeeds]
    simp only [decide] at decided
    split at decided
    · simp at decided
    · simp_all

theorem left_attempt {request : Request} {budget : Nat} {session after : Session}
    {payload : Json} (success : attempt request budget session = (.ok payload, after)) :
    after.left < session.left := by
  induction budget generalizing session with
  | zero => simp [attempt] at success
  | succ budget ih =>
    simp only [attempt] at success
    split at success
    · have step := session.left_send request
      have later := ih success
      omega
    · simp only [Prod.mk.injEq] at success
      obtain ⟨decided, rfl⟩ := success
      have positive := Session.left_pos_of_succeeds (succeeds_of_decide decided)
      have step := session.left_send request
      omega

/-- A question that is answered uses up an outcome. -/
theorem left_ask {options : ClientOptions} {pairs : List (String × String)}
    {session after : Session} {payload : Json}
    (success : ask options pairs session = (.ok payload, after)) : after.left < session.left := by
  simp only [ask] at success
  split at success
  · simp at success
  · split at success
    · simp at success
    · exact left_attempt success

def categoryTitle (category : String) : String :=
  if "Category:".toList.isPrefixOf category.toList then category else "Category:" ++ category

def membersQuestion (category : String) (token : Option String) : List (String × String) :=
  [("action", "query"), ("list", "categorymembers"), ("cmtitle", categoryTitle category),
    ("cmtype", "page"), ("cmprop", "ids|title"), ("cmlimit", "500")] ++
    (token.map fun token => ("cmcontinue", token)).toList

/-- The members of a category from the batch that a token begins. -/
def membersFrom (options : ClientOptions) (category : String) (token : Option String)
    (session : Session) : Except Failure (List Member) × Session :=
  match _asked : ask options (membersQuestion category token) session with
  | (.error failure, session) => (.error failure, session)
  | (.ok payload, session) =>
    match Response.answer? payload with
    | none => (.error .badMembers, session)
    | some { members, token := none, .. } => (.ok members, session)
    | some { members, token := some token, .. } =>
      match membersFrom options category (some token) session with
      | (.error failure, session) => (.error failure, session)
      | (.ok others, session) => (.ok (members ++ others), session)
termination_by session.left
decreasing_by exact left_ask _asked

def pageQuestion (title : String) : List (String × String) :=
  [("action", "query"), ("titles", title), ("prop", "revisions"), ("rvprop", "ids|content"),
    ("rvslots", "main")]

def page (options : ClientOptions) (title : String) (session : Session) :
    Except Failure (Option Page) × Session :=
  match ask options (pageQuestion title) session with
  | (.error failure, session) => (.error failure, session)
  | (.ok payload, session) =>
    match Response.answer? payload with
    | none => (.error (.badPage title), session)
    | some answer => (.ok (answer.pages.head?.bind (·.page?)), session)

def wiki (options : ClientOptions) : Wiki Session where
  members category := membersFrom options category none
  page := page options
  requests := (·.attempts)

end Client

end SaveManifest
