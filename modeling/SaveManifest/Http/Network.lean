import SaveManifest.Http.Status
import SaveManifest.Url

/-!
# The network

What becomes of the requests that a run sends: a row of outcomes, one for each request, and an
outcome that all requests after those share. That last one is no success, so that a run that asks
as long as it is told to go on comes to an end.
-/

namespace SaveManifest.Http

/-- What becomes of a request: a status and a body, or nothing, with the cause of the loss and
whether another attempt may help. -/
inductive Outcome where
  | answered (status : Nat) (body : String)
  | lost (passing : Bool) (cause : String)
deriving DecidableEq, Repr

def Outcome.succeeds : Outcome → Bool
  | answered status _ => isSuccess status
  | lost _ _ => false

/-- Whether an outcome calls for another attempt. -/
def Outcome.passes : Outcome → Bool
  | answered status _ => isPassing status
  | lost passing _ => passing

/-- The outcomes of all requests to come. -/
structure Network where
  outcomes : List Outcome := []
  afterwards : Outcome := .answered 404 ""
  afterwards_fails : afterwards.succeeds = false := by rfl
deriving Repr

/-- A network on which no connection can be made. -/
def Network.unreachable : Network where
  afterwards :=
    .lost true
      "client error (Connect): tcp connect error: Network is unreachable (os error 101)"

/-- A question to a server: its address and the names and values of its query. -/
structure Request where
  url : Url
  parameters : List (String × String)
deriving DecidableEq, Repr

def Request.address (request : Request) : Url := request.url.withParameters request.parameters

/-- How far a run is with a network: what is to come, the requests that were handed to it, and the
number of all requests that were tried. -/
structure Session where
  network : Network := {}
  sent : List Request := []
  attempts : Nat := 0

namespace Session

/-- The number of outcomes to come. -/
def left (session : Session) : Nat := session.network.outcomes.length

def send (session : Session) (request : Request) : Outcome × Session :=
  let sent := session.sent ++ [request]
  let attempts := session.attempts + 1
  match session.network.outcomes with
  | [] => (session.network.afterwards, { session with sent, attempts })
  | outcome :: outcomes =>
    (outcome, { network := { session.network with outcomes }, sent, attempts })

/-- Counts a request that could not be handed to the network. -/
def giveUp (session : Session) : Session := { session with attempts := session.attempts + 1 }

theorem left_send (session : Session) (request : Request) :
    (session.send request).2.left = session.left - 1 := by
  unfold send left
  split <;> simp_all

/-- A request succeeds only while outcomes are left. -/
theorem left_pos_of_succeeds {session : Session} {request : Request}
    (success : (session.send request).1.succeeds = true) : 0 < session.left := by
  unfold send at success
  unfold left
  split at success
  · simp [session.network.afterwards_fails] at success
  · simp_all

end Session

end SaveManifest.Http
