import Mathlib.Data.List.Chain
import SaveManifest.Proofs.Wiki.Attempts
import SaveManifest.Proofs.Wiki.Contents

/-!
# The batches of a category

Listing a category is a row of questions, each for one batch and each put to the network as the one
before it left it. The last attempt at a question decides whether it brings the batch that its JSON
holds, or fails (`Question.Brings`, `Question.Fails`). The first question names no token, each later
one the token of the batch before it, and the row ends with a batch without a token or with a
failure. The members are those of all batches in order, or there are none (`IsListing`). A question
begins at most one such row (`IsListing.unique`), and it is the one that the client goes through
(`members_isListing`).
-/

namespace SaveManifest.Client

open Http Response

/-- The names and values with which a batch is asked for. An empty token is left out. -/
def batchParameters (category : String) (token : Option String) : List (String × String) :=
  [("format", "json"), ("formatversion", "2"), ("action", "query"), ("list", "categorymembers"),
    ("cmtitle", categoryTitle category), ("cmtype", "page"), ("cmprop", "ids|title"),
    ("cmlimit", "500")] ++
    ((token.filter (!·.isEmpty)).map fun token => ("cmcontinue", token)).toList

/-- A question for a batch: the token that begins the batch, and the network that is asked. -/
structure Question where
  token : Option String
  network : Network

variable (options : ClientOptions) (category : String)

namespace Question

def request? (question : Question) : Option Request :=
  (Url.ofText? options.apiUrl).map fun url =>
    { url, parameters := batchParameters category question.token }

def requests (question : Question) : List Request :=
  match question.request? options category with
  | none => []
  | some request => List.replicate (lastTrial options request question.network + 1) request

/-- The requests of a question that can be handed to the network. -/
def sent (question : Question) : List Request :=
  (question.requests options category).filter fun request => (refusal? options request).isNone

/-- The network after the requests of a question. -/
def behind (question : Question) : Network :=
  question.network.drop (question.sent options category).length

/-- What the last attempt at a question comes to. -/
def last? (question : Question) : Option Trial :=
  (question.request? options category).map fun request =>
    trial options request question.network (lastTrial options request question.network)

/-- The last attempt is answered with a status of success and with JSON that reports no error. -/
def IsAnswered (question : Question) (payload : Json) : Prop :=
  ∃ status body, question.last? options category = some (.sent (.answered status body)) ∧
    200 ≤ status ∧ status < 300 ∧ Json.ofText? body = some payload ∧
    ∀ members, payload = .object members → members.lookup "error" = none

/-- The answer to a question lists these members and names the token of the next batch. -/
def Brings (question : Question) (members : List Member) (next : Option String) : Prop :=
  ∃ payload, question.IsAnswered options category payload ∧ IsBatch payload members next

/-- What is told of a question, be it answered or not. -/
def reply (question : Question) : Except Failure Json :=
  match question.request? options category with
  | none => .error (.invalidUrl options.apiUrl)
  | some request =>
    (trial options request question.network
      (lastTrial options request question.network)).result request

/-- Why a question brings nothing: it is not answered, or its answer is no batch. -/
inductive Fails (question : Question) : Failure → Prop
  | unanswered {failure : Failure} (told : question.reply options category = .error failure) :
      Fails question failure
  | strange {payload : Json} (answered : question.IsAnswered options category payload)
      (other : ∀ members next, ¬IsBatch payload members next) : Fails question .badMembers

/-- A question is followed by the one for the next batch. -/
def LeadsTo (question later : Question) : Prop :=
  ∃ members token, question.Brings options category members (some token) ∧
    later = ⟨some token, question.behind options category⟩

end Question

/-- What a row of questions lists that begins with a question. -/
structure IsListing (start : Question) (questions : List Question)
    (outcome : Except Failure (List Member)) : Prop where
  first : questions.head? = some start
  following : questions.IsChain (Question.LeadsTo options category)
  listed : ∀ members, outcome = .ok members ↔ ∃ batches : List (List Member),
    List.Forall₂ (fun question batch => ∃ next, question.Brings options category batch next)
        questions batches ∧
      (∃ last batch, questions.getLast? = some last ∧ last.Brings options category batch none) ∧
      batches.flatten = members
  failed : ∀ failure, outcome = .error failure ↔
    ∃ last, questions.getLast? = some last ∧ last.Fails options category failure

/-! ### One question -/

theorem isEmpty_categoryTitle (category : String) : (categoryTitle category).isEmpty = false := by
  rw [Bool.eq_false_iff, Ne, String.isEmpty_iff, ← String.toList_eq_nil_iff]
  intro nothing
  unfold categoryTitle at nothing
  split at nothing
  · next named =>
    rw [nothing] at named
    cases named
  · simp at nothing

theorem parametersOf_membersQuestion (category : String) (token : Option String) :
    parametersOf (membersQuestion category token) = batchParameters category token := by
  have named := isEmpty_categoryTitle category
  cases token with
  | none => simp [parametersOf, membersQuestion, batchParameters, named]
  | some token =>
    by_cases empty : token = ""
    · simp [parametersOf, membersQuestion, batchParameters, named, empty]
    · simp [parametersOf, membersQuestion, batchParameters, named, empty, Option.filter]

section

variable {options category} {question : Question}

theorem member?_eq_none_iff {name : String} {value : Json} :
    Json.member? name value = none ↔
      ∀ members, value = .object members → members.lookup name = none := by
  cases value <;> simp [Json.member?]

namespace Question

theorem isAnswered_iff {payload : Json} :
    question.IsAnswered options category payload ↔
      question.reply options category = .ok payload := by
  unfold IsAnswered last? reply
  cases question.request? options category with
  | none => simp
  | some request =>
    dsimp only
    rw [Trial.result_eq_ok]
    simp [isSuccess, member?_eq_none_iff, and_assoc]

theorem request_of_mem (question : Question) {request : Request}
    (made : request ∈ question.requests options category) :
    Url.ofText? options.apiUrl = some request.url ∧
      request.parameters = batchParameters category question.token := by
  unfold requests request? at made
  cases parsed : Url.ofText? options.apiUrl with
  | none =>
    rw [parsed] at made
    cases made
  | some url =>
    rw [parsed] at made
    obtain rfl := List.eq_of_mem_replicate made
    exact ⟨rfl, rfl⟩

theorem brings_of_answer? {answer : Response.Answer}
    (read : (question.reply options category).toOption.bind answer? = some answer) :
    question.Brings options category answer.members answer.token := by
  obtain ⟨payload, told, decoded⟩ := Option.bind_eq_some_iff.1 read
  refine ⟨payload, isAnswered_iff.2 ?_, isBatch_of_answer? decoded⟩
  cases reply : question.reply options category with
  | error failure =>
    rw [reply] at told
    cases told
  | ok other =>
    rw [reply] at told
    cases told
    rfl

theorem Brings.unique {members others : List Member} {next other : Option String}
    (first : question.Brings options category members next)
    (second : question.Brings options category others other) :
    members = others ∧ next = other := by
  obtain ⟨payload, answered, batch⟩ := first
  obtain ⟨_, again, same⟩ := second
  cases (isAnswered_iff.1 answered).symm.trans (isAnswered_iff.1 again)
  exact batch.unique same

theorem LeadsTo.unique {later other : Question} (first : question.LeadsTo options category later)
    (second : question.LeadsTo options category other) : later = other := by
  obtain ⟨members, token, brings, rfl⟩ := first
  obtain ⟨_, _, again, rfl⟩ := second
  cases (brings.unique again).2
  rfl

theorem Fails.not_brings {failure : Failure} {members : List Member} {next : Option String}
    (fails : question.Fails options category failure) :
    ¬question.Brings options category members next := by
  rintro ⟨payload, answered, batch⟩
  cases fails with
  | unanswered told => cases told.symm.trans (isAnswered_iff.1 answered)
  | strange again other =>
    cases (isAnswered_iff.1 answered).symm.trans (isAnswered_iff.1 again)
    exact other members next batch

theorem Fails.unique {failure other : Failure}
    (first : question.Fails options category failure)
    (second : question.Fails options category other) : failure = other := by
  cases first with
  | unanswered told =>
    cases second with
    | unanswered again => exact Except.error.inj (told.symm.trans again)
    | strange answered => cases told.symm.trans (isAnswered_iff.1 answered)
  | strange answered =>
    cases second with
    | unanswered told => cases told.symm.trans (isAnswered_iff.1 answered)
    | strange => rfl

end Question

variable (options category) in
/-- A question comes to its reply, and its requests are counted and sent. -/
theorem ask_eq_reply (session : Session) (token : Option String) :
    let question : Question := ⟨token, session.network⟩
    ask options (membersQuestion category token) session =
      (question.reply options category,
        { network := question.behind options category
          sent := session.sent ++ question.sent options category
          attempts := session.attempts + (question.requests options category).length }) := by
  intro question
  unfold Question.reply Question.behind Question.sent Question.requests Question.request?
  cases parsed : Url.ofText? options.apiUrl with
  | none => simp [ask, parsed, question, Network.drop]
  | some url =>
    rw [ask_eq parsed, parametersOf_membersQuestion]
    let request : Request := { url, parameters := batchParameters category token }
    cases refused : refusal? options request with
    | none => simp [question, request, refused, Session.sendTimes]
    | some report =>
      -- A refused request is counted once, and nothing is sent.
      simp [question, request, refused, lastTrial, Session.giveUp, Network.drop]

variable (options category) in
/-- A batch is not answered, or is the last one, or another one follows. -/
theorem membersFrom_cases (token : Option String) (session : Session) :
    let question : Question := ⟨token, session.network⟩
    let between := (ask options (membersQuestion category token) session).2
    (∃ failure, question.Fails options category failure ∧
        membersFrom options category token session = (.error failure, between)) ∨
      (∃ members, question.Brings options category members none ∧
        membersFrom options category token session = (.ok members, between)) ∨
      ∃ members next, question.Brings options category members (some next) ∧
        between.left < session.left ∧
        membersFrom options category token session =
          ((membersFrom options category (some next) between).1.map (members ++ ·),
            (membersFrom options category (some next) between).2) := by
  intro question between
  have told := ask_eq_reply options category session token
  unfold between
  rw [membersFrom]
  rcases outcome : ask options (membersQuestion category token) session with
    ⟨failure | payload, after⟩
  · rw [outcome] at told
    exact Or.inl ⟨failure, .unanswered (congrArg Prod.fst told).symm, rfl⟩
  · have fewer : after.left < session.left := left_ask outcome
    rw [outcome] at told
    have answered : question.IsAnswered options category payload :=
      Question.isAnswered_iff.2 (congrArg Prod.fst told).symm
    cases read : answer? payload with
    | none =>
      exact Or.inl ⟨.badMembers, .strange answered (answer?_eq_none_iff.1 read), by simp [read]⟩
    | some answer =>
      have batch := isBatch_of_answer? read
      obtain ⟨members, pages, _ | next⟩ := answer
      · exact Or.inr (Or.inl ⟨members, ⟨payload, answered, batch⟩, by simp [read]⟩)
      · refine Or.inr (Or.inr ⟨members, next, ⟨payload, answered, batch⟩, fewer, ?_⟩)
        rcases later : membersFrom options category (some next) after with
          ⟨failure | others, last⟩
        · simp [read, later, Except.map]
        · simp [read, later, Except.map]

/-! ### The row of questions -/

namespace IsListing

variable {failure : Failure} {members : List Member}

/-- A question that fails lists nothing. -/
theorem ofFails (fails : question.Fails options category failure) :
    IsListing options category question [question] (.error failure) where
  first := rfl
  following := .singleton _
  listed others := by
    constructor
    · intro success
      cases success
    · rintro ⟨batches, -, ⟨last, batch, ⟨⟩, brings⟩, -⟩
      exact absurd brings fails.not_brings
  failed other := by
    constructor
    · rintro ⟨⟩
      exact ⟨question, rfl, fails⟩
    · rintro ⟨last, ⟨⟩, again⟩
      rw [fails.unique again]

/-- A batch without a token is the last one. -/
theorem ofLast (brings : question.Brings options category members none) :
    IsListing options category question [question] (.ok members) where
  first := rfl
  following := .singleton _
  listed others := by
    constructor
    · rintro ⟨⟩
      exact ⟨[members], .cons ⟨none, brings⟩ .nil, ⟨question, members, rfl, brings⟩, by simp⟩
    · rintro ⟨batches, each, -, rfl⟩
      obtain ⟨batch, rest, ⟨next, again⟩, alone, rfl⟩ := List.forall₂_cons_left_iff.1 each
      cases alone
      simp [(brings.unique again).1]
  failed failure := by
    constructor
    · intro failed
      cases failed
    · rintro ⟨last, ⟨⟩, fails⟩
      exact absurd brings fails.not_brings

/-- A batch with a token is followed by what the token begins. -/
theorem next {token : String} {questions : List Question}
    {outcome : Except Failure (List Member)}
    (brings : question.Brings options category members (some token))
    (later : IsListing options category ⟨some token, question.behind options category⟩ questions
      outcome) :
    IsListing options category question (question :: questions)
      (outcome.map (members ++ ·)) := by
  obtain ⟨first, following, listed, failed⟩ := later
  cases questions with
  | nil => cases first
  | cons second questions =>
    obtain rfl := Option.some.inj first
    refine ⟨rfl, .cons_cons ⟨members, token, brings, rfl⟩ following, ?_, ?_⟩
    · intro whole
      constructor
      · intro success
        cases outcome with
        | error failure => cases success
        | ok others =>
          obtain ⟨batches, each, last, rfl⟩ := (listed others).1 rfl
          cases success
          exact ⟨members :: batches, .cons ⟨some token, brings⟩ each, last, rfl⟩
      · rintro ⟨batches, each, last, rfl⟩
        obtain ⟨batch, rest, ⟨next, again⟩, others, rfl⟩ := List.forall₂_cons_left_iff.1 each
        have success := (listed rest.flatten).2 ⟨rest, others, last, rfl⟩
        rw [success, (brings.unique again).1]
        rfl
    · intro failure
      rw [List.getLast?_cons_cons, ← failed failure]
      cases outcome with
      | error other => rfl
      | ok others => simp [Except.map]

/-- No question follows the last one of a listing. -/
theorem not_leadsTo {start last : Question} {questions : List Question}
    {outcome : Except Failure (List Member)}
    (listing : IsListing options category start questions outcome)
    (final : questions.getLast? = some last) (later : Question) :
    ¬last.LeadsTo options category later := by
  rintro ⟨members, token, brings, -⟩
  cases outcome with
  | error failure =>
    obtain ⟨_, again, fails⟩ := (listing.failed failure).1 rfl
    cases final.symm.trans again
    exact fails.not_brings brings
  | ok whole =>
    obtain ⟨batches, -, ⟨_, batch, again, closes⟩, -⟩ := (listing.listed whole).1 rfl
    cases final.symm.trans again
    cases (brings.unique closes).2

/-- Two rows go on alike for as long as both do, so none goes on where the other one ends. -/
theorem questions_unique {start last final : Question} {questions others : List Question}
    (first : (start :: questions).IsChain (Question.LeadsTo options category))
    (second : (start :: others).IsChain (Question.LeadsTo options category))
    (here : (start :: questions).getLast? = some last)
    (there : (start :: others).getLast? = some final)
    (ends : ∀ later, ¬last.LeadsTo options category later)
    (ceases : ∀ later, ¬final.LeadsTo options category later) : questions = others := by
  induction questions generalizing start others with
  | nil =>
    cases others with
    | nil => rfl
    | cons other others =>
      cases here
      exact absurd (List.isChain_cons_cons.1 second).1 (ends other)
  | cons question questions ih =>
    obtain ⟨goesOn, later⟩ := List.isChain_cons_cons.1 first
    cases others with
    | nil =>
      cases there
      exact absurd goesOn (ceases question)
    | cons other others =>
      obtain ⟨alsoGoesOn, alsoLater⟩ := List.isChain_cons_cons.1 second
      cases goesOn.unique alsoGoesOn
      rw [List.getLast?_cons_cons] at here there
      rw [ih later alsoLater here there]

/-- A question begins one listing at most. -/
theorem unique {start : Question} {questions others : List Question}
    {outcome other : Except Failure (List Member)}
    (first : IsListing options category start questions outcome)
    (second : IsListing options category start others other) :
    questions = others ∧ outcome = other := by
  have same : questions = others := by
    cases questions with
    | nil => cases first.first
    | cons question questions =>
      cases others with
      | nil => cases second.first
      | cons alike others =>
        cases first.first
        cases second.first
        have here := List.getLast?_eq_some_getLast (List.cons_ne_nil start questions)
        have there := List.getLast?_eq_some_getLast (List.cons_ne_nil start others)
        rw [questions_unique first.following second.following here there (first.not_leadsTo here)
          (second.not_leadsTo there)]
  subst same
  refine ⟨rfl, ?_⟩
  cases outcome with
  | error failure => exact ((second.failed failure).2 ((first.failed failure).1 rfl)).symm
  | ok members => exact ((second.listed members).2 ((first.listed members).1 rfl)).symm

end IsListing

variable (options category) in
/-- The members from the batch that a token begins are those of a listing. Every answer uses up an
outcome, so all questions but perhaps the last one are at most as many as the outcomes left. -/
theorem membersFrom_isListing (token : Option String) (session : Session) :
    ∃ outcome after questions,
      membersFrom options category token session = (outcome, after) ∧
      IsListing options category ⟨token, session.network⟩ questions outcome ∧
      questions.length ≤ session.left + 1 ∧
      after.attempts = session.attempts +
        (questions.flatMap (·.requests options category)).length ∧
      after.sent = session.sent ++ questions.flatMap (·.sent options category) := by
  induction left : session.left using Nat.strongRecOn generalizing token session with
  | ind n ih =>
    subst left
    have told := ask_eq_reply options category session token
    rcases membersFrom_cases options category token session with
      ⟨failure, fails, whole⟩ | ⟨members, brings, whole⟩ |
      ⟨members, next, brings, fewer, whole⟩
    · exact ⟨_, _, [_], whole, .ofFails fails, by simp, by simp [told], by simp [told]⟩
    · exact ⟨_, _, [_], whole, .ofLast brings, by simp, by simp [told], by simp [told]⟩
    · obtain ⟨outcome, after, questions, later, listing, length, attempts, sent⟩ :=
        ih _ fewer (some next) _ rfl
      rw [later] at whole
      refine ⟨_, _, _ :: questions, whole, .next brings ?_, ?_, ?_, ?_⟩
      · rw [told] at listing
        exact listing
      · rw [List.length_cons]
        omega
      · rw [attempts, told]
        simp [Nat.add_assoc]
      · rw [sent, told]
        simp

end

/-- Listing a category comes to an end after a row of questions, the first without a token and each
later one with the token of the batch before it, put to the network as the one before it left it.
There are members just if every question brings a batch and only the last one is without a token, and
then they are those of all batches in order; otherwise the last question fails, and there are none.
All requests of the row have the same address and the same names and values but for the token. They
are counted one by one, and those that can be handed over are sent in this order. -/
theorem members_isListing (options : ClientOptions) (category : String) (session : Session) :
    ∃ outcome after questions,
      (wiki options).members category session = (outcome, after) ∧
      IsListing options category ⟨none, session.network⟩ questions outcome ∧
      questions.length ≤ session.left + 1 ∧
      (∀ question ∈ questions, ∀ request ∈ question.requests options category,
        Url.ofText? options.apiUrl = some request.url ∧
          request.parameters = batchParameters category question.token) ∧
      (wiki options).requests after = (wiki options).requests session +
        (questions.flatMap (·.requests options category)).length ∧
      after.sent = session.sent ++
        (questions.flatMap (·.requests options category)).filter fun request =>
          (refusal? options request).isNone := by
  obtain ⟨outcome, after, questions, called, listing, length, attempts, sent⟩ :=
    membersFrom_isListing options category none session
  refine ⟨outcome, after, questions, called, listing, length, ?_, attempts, ?_⟩
  · intro question member request made
    exact question.request_of_mem made
  · rw [sent, List.filter_flatMap]
    rfl

/-- The JSON of a batch with two members and a token. -/
def firstBatch : String :=
  "\x7b\"continue\":\x7b\"cmcontinue\":\"page|ABC|123\",\"continue\":\"-||\"\x7d,\"query\":" ++
    "\x7b\"categorymembers\":[\x7b\"pageid\":10,\"ns\":0,\"title\":\"Alpha\"\x7d," ++
    "\x7b\"pageid\":11,\"ns\":0,\"title\":\"Beta\"\x7d]\x7d\x7d"

/-- The JSON of a batch with one member, without a token. -/
def lastBatch : String :=
  "\x7b\"query\":\x7b\"categorymembers\":[\x7b\"pageid\":12,\"title\":\"Gamma\"\x7d]\x7d\x7d"

/-- Two batches after a reply that calls for another attempt: the members of both, and the token of
the first one in the request for the second. -/
theorem members_isListing_twoBatches :
    let session : Session := { network := { outcomes :=
      [.answered 503 "", .answered 200 firstBatch, .answered 200 lastBatch] } }
    let common := [("format", "json"), ("formatversion", "2"), ("action", "query"),
      ("list", "categorymembers"), ("cmtitle", "Category:Games"), ("cmtype", "page"),
      ("cmprop", "ids|title"), ("cmlimit", "500")]
    ∃ after, (wiki localOptions).members "Games" session =
        (.ok [⟨10, "Alpha"⟩, ⟨11, "Beta"⟩, ⟨12, "Gamma"⟩], after) ∧
      (wiki localOptions).requests after = 3 ∧
      after.sent.map (·.parameters) =
        [common, common, common ++ [("cmcontinue", "page|ABC|123")]] := by
  intro session common
  obtain ⟨outcome, after, questions, called, listing, -, -, requests, sent⟩ :=
    members_isListing localOptions "Games" session
  let first : Question := ⟨none, session.network⟩
  let last : Question := ⟨some "page|ABC|123", first.behind localOptions "Games"⟩
  let answer : Response.Answer :=
    { members := [⟨10, "Alpha"⟩, ⟨11, "Beta"⟩], pages := [], token := some "page|ABC|123" }
  let rest : Response.Answer := { members := [⟨12, "Gamma"⟩], pages := [], token := none }
  have begins : first.Brings localOptions "Games" answer.members answer.token :=
    Question.brings_of_answer? (by decide +kernel)
  have closes : last.Brings localOptions "Games" rest.members rest.token :=
    Question.brings_of_answer? (by decide +kernel)
  obtain ⟨rfl, rfl⟩ := listing.unique (.next begins (.ofLast closes))
  refine ⟨after, called, ?_, ?_⟩
  · rw [requests]
    decide +kernel
  · rw [sent]
    decide +kernel

end SaveManifest.Client
