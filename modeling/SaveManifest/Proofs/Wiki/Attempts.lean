import Mathlib.Order.Bounds.Basic
import SaveManifest.Wiki.Client

/-!
# The attempts at a question

A network gives the requests their outcomes in a row, first those that are listed and then always
the same one (`Network.outcome`). A request is sent until an outcome calls for no other attempt, or
until no retry is left. The place of this outcome in the row, the least of these two
(`isLeast_lastTrial`), says all about a question: how often its request is sent, and what the
question amounts to (`ask_decides`).
-/

namespace SaveManifest

namespace Http

namespace Network

/-- What becomes of a request with so many others before it. -/
def outcome (network : Network) (place : Nat) : Outcome :=
  network.outcomes[place]?.getD network.afterwards

def drop (network : Network) (count : Nat) : Network :=
  { network with outcomes := network.outcomes.drop count }

/-- The place of the outcome behind which a request with so many retries is not sent again. -/
def decisive (network : Network) : Nat → Nat
  | 0 => 0
  | retries + 1 =>
    if (network.outcome 0).passes then (network.drop 1).decisive retries + 1 else 0

@[simp] theorem outcome_drop (network : Network) (count place : Nat) :
    (network.drop count).outcome place = network.outcome (count + place) := by
  simp [outcome, drop]

@[simp] theorem drop_drop (network : Network) (first second : Nat) :
    (network.drop first).drop second = network.drop (first + second) := by
  simp [drop]

theorem isLeast_decisive (network : Network) (retries : Nat) :
    IsLeast {place | place = retries ∨ (network.outcome place).passes = false}
      (network.decisive retries) := by
  induction retries generalizing network with
  | zero => exact ⟨Or.inl rfl, fun _ _ => Nat.zero_le _⟩
  | succ retries ih =>
    unfold decisive
    split
    · next again =>
      -- The places behind the first outcome are those of the network without it.
      obtain ⟨ends, least⟩ := ih (network.drop 1)
      simp only [Set.mem_ofPred_eq, outcome_drop, Nat.add_comm 1] at ends
      refine ⟨ends.imp_left (congrArg Nat.succ), ?_⟩
      intro place holds
      cases place with
      | zero =>
        rcases holds with none | stops
        · omega
        · rw [again] at stops
          cases stops
      | succ place =>
        have later := @least place
        simp only [Set.mem_ofPred_eq, outcome_drop, Nat.add_comm 1] at later
        exact Nat.succ_le_succ (later (holds.imp_left Nat.succ.inj))
    · next stops => exact ⟨Or.inr (Bool.eq_false_iff.2 stops), fun _ _ => Nat.zero_le _⟩

end Network

namespace Session

/-- A session in which a request was sent so many times more. -/
def sendTimes (session : Session) (request : Request) (count : Nat) : Session where
  network := session.network.drop count
  sent := session.sent ++ List.replicate count request
  attempts := session.attempts + count

theorem send_eq (session : Session) (request : Request) :
    session.send request = (session.network.outcome 0, session.sendTimes request 1) := by
  obtain ⟨⟨outcomes, afterwards, fails⟩, sent, attempts⟩ := session
  cases outcomes with
  | nil => rfl
  | cons outcome outcomes => rfl

theorem sendTimes_sendTimes (session : Session) (request : Request) (first second : Nat) :
    (session.sendTimes request first).sendTimes request second =
      session.sendTimes request (first + second) := by
  simp [sendTimes, Nat.add_assoc]

end Session

end Http

namespace Client

open Http

/-! ### One attempt -/

/-- What an attempt comes to: the request cannot be handed to the network, or it is sent. -/
inductive Trial where
  | refused (report : String)
  | sent (outcome : Outcome)

namespace Trial

def passes : Trial → Bool
  | refused _ => false
  | sent outcome => outcome.passes

def succeeds : Trial → Bool
  | refused _ => false
  | sent outcome => outcome.succeeds

/-- What an attempt amounts to that no other one follows. -/
def result (request : Request) : Trial → Except Failure Json
  | refused report => .error (.noAnswer report)
  | sent outcome => decide request outcome

end Trial

/-- What the attempts at a request come to, each at its place. -/
def trial (options : ClientOptions) (request : Request) (network : Network) (place : Nat) : Trial :=
  match refusal? options request with
  | some report => .refused report
  | none => .sent (network.outcome place)

def lastTrial (options : ClientOptions) (request : Request) (network : Network) : Nat :=
  match refusal? options request with
  | some _ => 0
  | none => network.decisive options.retries.toNat

theorem isLeast_lastTrial (options : ClientOptions) (request : Request) (network : Network) :
    IsLeast {place | place = options.retries.toNat ∨
        (trial options request network place).passes = false}
      (lastTrial options request network) := by
  unfold trial lastTrial
  cases refusal? options request with
  | some report => exact ⟨Or.inr rfl, fun _ _ => Nat.zero_le _⟩
  | none => exact network.isLeast_decisive options.retries.toNat

theorem Trial.succeeds_of_passes {trial : Trial} (again : trial.passes = true) :
    trial.succeeds = false := by
  cases trial with
  | refused report => rfl
  | sent outcome =>
    cases outcome with
    | lost passing cause => rfl
    | answered status body => exact isSuccess_of_isPassing again

/-- An outcome gives a payload if it is an answer of success with JSON that reports no error. -/
theorem decide_eq_ok {request : Request} {outcome : Outcome} {payload : Json} :
    decide request outcome = .ok payload ↔
      ∃ status body, outcome = .answered status body ∧ isSuccess status = true ∧
        Json.ofText? body = some payload ∧ Json.member? "error" payload = none := by
  constructor
  · intro decided
    cases outcome with
    | lost passing cause => cases decided
    | answered status body =>
      unfold decide at decided
      dsimp only at decided
      split at decided
      · cases decided
      · next success =>
        split at decided
        · cases decided
        · next value read =>
          split at decided
          · cases decided
          · next clean =>
            cases decided
            exact ⟨status, body, rfl, by simpa using success, read, Option.map_eq_none_iff.1 clean⟩
  · rintro ⟨status, body, rfl, success, read, clean⟩
    have noFailure : Response.apiFailure? payload = none := by
      rw [Response.apiFailure?, clean, Option.map_none]
    simp [decide, success, read, noFailure]

/-- How an outcome can fail a question. -/
theorem decide_eq_error {request : Request} {outcome : Outcome} {failure : Failure}
    (decided : decide request outcome = .error failure) :
    (∃ report, failure = .noAnswer report) ∨ (∃ status, failure = .badStatus status) ∨
      failure = .badBody ∨ ∃ code info, failure = .apiError code info := by
  cases outcome with
  | lost passing cause =>
    cases decided
    exact Or.inl ⟨_, rfl⟩
  | answered status body =>
    unfold decide at decided
    dsimp only at decided
    split at decided
    · cases decided
      exact Or.inr (Or.inl ⟨_, rfl⟩)
    · split at decided
      · cases decided
        exact Or.inr (Or.inr (Or.inl rfl))
      · split at decided
        · next told =>
          cases decided
          obtain ⟨error, -, rfl⟩ := Option.map_eq_some_iff.1 told
          exact Or.inr (Or.inr (Or.inr ⟨_, _, rfl⟩))
        · cases decided

theorem Trial.result_eq_ok {request : Request} {trial : Trial} {payload : Json} :
    trial.result request = .ok payload ↔
      ∃ status body, trial = .sent (.answered status body) ∧ isSuccess status = true ∧
        Json.ofText? body = some payload ∧ Json.member? "error" payload = none := by
  cases trial with
  | refused report => simp [result]
  | sent outcome => simp [result, decide_eq_ok]

theorem Trial.result_eq_error {request : Request} {trial : Trial} {failure : Failure}
    (failed : trial.result request = .error failure) :
    (∃ report, failure = .noAnswer report) ∨ (∃ status, failure = .badStatus status) ∨
      failure = .badBody ∨ ∃ code info, failure = .apiError code info := by
  cases trial with
  | refused report =>
    cases failed
    exact Or.inl ⟨report, rfl⟩
  | sent outcome => exact decide_eq_error failed

/-- No attempt is told in the words for an exhausted budget. -/
theorem Trial.headline_result {request : Request} {trial : Trial} {failure : Failure}
    (failed : trial.result request = .error failure) :
    failure.headline ≠ Failure.exhausted.headline := by
  intro same
  -- The first words are enough to tell the failures apart.
  have texts := congrArg (·.toList.take 24) same
  rcases result_eq_error failed with ⟨report, rfl⟩ | ⟨status, rfl⟩ | rfl | ⟨code, info, rfl⟩
  · simp [Failure.headline, Failure.chain, Message.text] at texts
  · simp [Failure.headline, Failure.chain, Message.text] at texts
  · simp [Failure.headline, Failure.chain, Message.text] at texts
  · simp [Failure.headline, Failure.chain, Message.text] at texts

/-! ### All attempts -/

theorem attempt_eq (request : Request) (retries : Nat) (session : Session) :
    attempt request (retries + 1) session =
      (decide request (session.network.outcome (session.network.decisive retries)),
        session.sendTimes request (session.network.decisive retries + 1)) := by
  induction retries generalizing session with
  | zero =>
    rw [attempt, Session.send_eq]
    rfl
  | succ retries ih =>
    rw [attempt, Session.send_eq]
    dsimp only
    cases again : (session.network.outcome 0).passes with
    | false => simp [Network.decisive, again]
    | true =>
      have place : session.network.decisive (retries + 1) =
          (session.network.drop 1).decisive retries + 1 := by
        rw [Network.decisive, if_pos again]
      have next : (session.sendTimes request 1).network = session.network.drop 1 := rfl
      rw [place, Bool.and_true, if_pos (by simp), ih, next, Network.outcome_drop,
        Session.sendTimes_sendTimes, Nat.add_comm 1, Nat.add_comm 1]

theorem ask_eq {options : ClientOptions} {url : Url}
    (parsed : Url.ofText? options.apiUrl = some url) (pairs : List (String × String))
    (session : Session) :
    let request : Request := { url, parameters := parametersOf pairs }
    let last := lastTrial options request session.network
    ask options pairs session =
      ((trial options request session.network last).result request,
        if (refusal? options request).isSome then session.giveUp
        else session.sendTimes request (last + 1)) := by
  intro request last
  unfold last lastTrial trial ask
  rw [parsed]
  dsimp only
  cases refusal? options request with
  | some report => rfl
  | none => exact attempt_eq request options.retries.toNat session

/-- A question is decided at one place of the row of attempts: the least one that is the last
allowed or does not call for another attempt. Just the requests up to this place are made, of which
only the last can be answered with success, and the question amounts to what is found there: to a
payload just if it is an answer of success with JSON that reports no error. The failure that stands
for an exhausted budget is never told. -/
theorem ask_decides {options : ClientOptions} {url : Url}
    (parsed : Url.ofText? options.apiUrl = some url) (pairs : List (String × String))
    (session : Session) :
    let request : Request := { url, parameters := parametersOf pairs }
    let attempts := trial options request session.network
    ∃ k result after, ask options pairs session = (result, after) ∧
      IsLeast {place | place = options.retries.toNat ∨ (attempts place).passes = false} k ∧
      after.attempts = session.attempts + (k + 1) ∧
      after = (if (refusal? options request).isSome then session.giveUp
        else session.sendTimes request (k + 1)) ∧
      result = (attempts k).result request ∧
      (∀ payload, result = .ok payload ↔
        ∃ status body, attempts k = .sent (.answered status body) ∧ isSuccess status = true ∧
          Json.ofText? body = some payload ∧ Json.member? "error" payload = none) ∧
      (∀ place ≤ k, (attempts place).succeeds = true → place = k) ∧
      ∀ failure, result = .error failure → failure.headline ≠ Failure.exhausted.headline := by
  intro request attempts
  have least := isLeast_lastTrial options request session.network
  refine ⟨lastTrial options request session.network, _, _, ask_eq parsed pairs session, least, ?_,
    rfl, rfl, ?_, ?_, ?_⟩
  · cases refused : refusal? options request with
    | none => rfl
    | some report =>
      -- A refused request is tried once.
      unfold lastTrial
      rw [refused]
      rfl
  · exact fun payload => Trial.result_eq_ok
  · intro place early success
    by_contra other
    have again : (attempts place).passes = true := by
      rw [← Bool.not_eq_false]
      intro stops
      exact other (Nat.le_antisymm early (least.2 (Or.inr stops)))
    rw [Trial.succeeds_of_passes again] at success
    cases success
  · exact fun failure => Trial.headline_result

/-- A wiki on this machine, which is asked up to five times. -/
def localOptions : ClientOptions where
  apiUrl := "HTTP://127.0.0.1:80/w/api.php"
  userAgent := "tester/1"
  timeout := 5000
  pause := 0
  retries := 4
  retryDelay := 0

/-- The first answer that is no call for another attempt decides, whatever would come then. -/
theorem ask_decides_third :
    let url : Url := { scheme := "http", host := some "127.0.0.1", path := "/w/api.php" }
    let session : Session := { network := { outcomes :=
      [.answered 503 "", .lost true "connection closed", .answered 200 "\x7b\x7d",
        .answered 404 ""] } }
    Url.ofText? localOptions.apiUrl = some url ∧
      ∃ after, ask localOptions [("action", "query"), ("cmcontinue", "")] session =
          (.ok (.object []), after) ∧
        after.attempts = 3 ∧ after.left = 1 ∧
        after.sent = List.replicate 3 { url, parameters :=
          [("format", "json"), ("formatversion", "2"), ("action", "query")] } := by
  intro url session
  have parsed : Url.ofText? localOptions.apiUrl = some url := by decide +kernel
  obtain ⟨k, result, after, asked, least, attempts, left, -, payload, -⟩ :=
    ask_decides parsed [("action", "query"), ("cmcontinue", "")] session
  have third : k = 2 := by
    apply least.unique
    refine ⟨Or.inr (by decide +kernel), ?_⟩
    intro place stops
    match place, stops with
    | 0, stops => exact absurd stops (by decide +kernel)
    | 1, stops => exact absurd stops (by decide +kernel)
    | place + 2, _ => exact Nat.le_add_left 2 place
  subst third
  have read : Json.ofText? "\x7b\x7d" = some (.object []) := by cbv
  have answered := (payload (.object [])).2 ⟨200, "\x7b\x7d", by rfl, rfl, read, rfl⟩
  refine ⟨parsed, after, answered ▸ asked, attempts, ?_, ?_⟩
  · rw [left]; decide +kernel
  · rw [left]; decide +kernel

end Client

end SaveManifest
