import SaveManifest.Proofs.Refresh.InStep

/-!
# What a discovery does

A discovery asks for its categories one after the other (`Wiki.listings`). If one of them cannot be
listed, or if there is none, it fails and nothing changes, whatever was listed by then. Otherwise
the cache gets the listed titles that it did not know, each once, and keeps all else (`Discovered`).
So the same answers have nothing to add a second time (`discover_allOrNothing`).
-/

namespace SaveManifest

variable {σ : Type}

/-- The answers to several categories, when they are asked for one after the other. -/
def Wiki.listings (wiki : Wiki σ) : List String → σ → List (Except Failure (List Member))
  | [], _ => []
  | category :: categories, state =>
    (wiki.members category state).1 ::
      wiki.listings categories (wiki.members category state).2

/-- What the members of a listing make of a cache, and how many pages are new. -/
structure Discovered (before : Cache) (members : List Member) (after : Cache) (count : Nat) :
    Prop where
  known : ∀ title entry, before.get? title = some entry → after.get? title = some entry
  new : ∀ title, before.get? title = none → after.get? title =
    (members.find? (·.title == title)).map fun member =>
      { pageId := member.pageId, revision := none, unsupportedOs := false,
        unsupportedPath := false, tooBroad := false }
  added : count =
    ((members.map (·.title)).filter fun title => !before.contains title).dedup.length
  growth : after.size = before.size + count

theorem discovered_markAll (cache : Cache) (members : List Member) :
    Discovered cache members (cache.markAll members) (cache.countNew members) where
  known title entry found := by rw [Cache.get?_markAll, found, Option.some_or]
  new title absent := by rw [Cache.get?_markAll, absent, Option.none_or]
  added := Cache.countNew_eq cache members
  growth := Cache.size_markAll cache members

/-! ### The listing -/

/-- The members of several answers in order, or the first failure among them. -/
def gathered : List (Except Failure (List Member)) → Except Failure (List Member)
  | [] => .ok []
  | .error failure :: _ => .error failure
  | .ok batch :: answers => (gathered answers).map (batch ++ ·)

theorem gathered_eq_ok {answers : List (Except Failure (List Member))} {members : List Member} :
    gathered answers = .ok members ↔
      ∃ batches : List (List Member), answers = batches.map .ok ∧ batches.flatten = members := by
  constructor
  · intro success
    induction answers generalizing members with
    | nil =>
      cases success
      exact ⟨[], rfl, rfl⟩
    | cons answer answers ih =>
      cases answer with
      | error failure => cases success
      | ok batch =>
        rw [gathered] at success
        cases rest : gathered answers with
        | error failure =>
          rw [rest] at success
          cases success
        | ok others =>
          rw [rest] at success
          obtain ⟨batches, rfl, rfl⟩ := ih rest
          cases success
          exact ⟨batch :: batches, rfl, rfl⟩
  · rintro ⟨batches, rfl, rfl⟩
    induction batches with
    | nil => rfl
    | cons batch batches ih => simp [gathered, ih, Except.map]

/-- Answers are gathered in vain just if one of them is a failure; the first failure is told. -/
theorem gathered_eq_error {answers : List (Except Failure (List Member))} {failure : Failure} :
    gathered answers = .error failure ↔
      ∃ (batches : List (List Member)) (others : List (Except Failure (List Member))),
        answers = batches.map .ok ++ .error failure :: others := by
  constructor
  · intro failed
    induction answers with
    | nil => cases failed
    | cons answer answers ih =>
      cases answer with
      | error first =>
        cases failed
        exact ⟨[], answers, rfl⟩
      | ok batch =>
        rw [gathered] at failed
        cases rest : gathered answers with
        | error first =>
          rw [rest] at failed
          cases failed
          obtain ⟨batches, others, rfl⟩ := ih rest
          exact ⟨batch :: batches, others, rfl⟩
        | ok members =>
          rw [rest] at failed
          cases failed
  · rintro ⟨batches, others, rfl⟩
    induction batches with
    | nil => rfl
    | cons batch batches ih => simp [gathered, ih, Except.map]

theorem Wiki.membersOfAll_eq (wiki : Wiki σ) (categories : List String) (state : σ) :
    (wiki.membersOfAll categories state).1 = gathered (wiki.listings categories state) := by
  induction categories generalizing state with
  | nil => rfl
  | cons category categories ih =>
    unfold membersOfAll listings
    rcases wiki.members category state with ⟨failure | batch, between⟩
    · rfl
    · dsimp only
      rw [gathered, ← ih between]
      rcases wiki.membersOfAll categories between with ⟨failure | others, last⟩
      · rfl
      · rfl

/-! ### The discovery -/

/-- A discovery has no category, or cannot list one, or marks the members of all. -/
theorem discover_cases (wiki : Wiki σ) (categories : List String) (cache : Cache) (state : σ) :
    let gathering := gathered (wiki.listings categories state)
    ∃ outcome after later, discover wiki categories cache state = (outcome, after, later) ∧
      (categories = [] ∧ outcome = .error .noCategory ∧ after = cache ∨
        (∃ failure, gathering = .error failure ∧ outcome = .error failure ∧ after = cache) ∨
        ∃ members, categories ≠ [] ∧ gathering = .ok members ∧
          outcome = .ok {
            categories
            listed := members.length
            added := cache.countNew members
            requests := wiki.requests later } ∧
          after = cache.markAll members) := by
  intro gathering
  unfold gathering discover
  rw [← Wiki.membersOfAll_eq]
  cases categories with
  | nil => exact ⟨_, _, _, rfl, Or.inl ⟨rfl, rfl, rfl⟩⟩
  | cons category categories =>
    rcases wiki.membersOfAll (category :: categories) state with ⟨failure | members, later⟩
    · exact ⟨_, _, _, rfl, Or.inr (Or.inl ⟨failure, rfl, rfl, rfl⟩)⟩
    · exact ⟨_, _, _, rfl, Or.inr (Or.inr ⟨members, List.cons_ne_nil _ _, rfl, rfl, rfl⟩)⟩

/-- Marking the same members again adds nothing. -/
theorem discover_again {wiki : Wiki σ} {categories : List String} {state : σ}
    {members : List Member} (some : categories ≠ [])
    (listed : gathered (wiki.listings categories state) = .ok members) (cache : Cache) :
    ∃ second later, discover wiki categories (cache.markAll members) state =
        (.ok second, cache.markAll members, later) ∧
      second.added = 0 ∧ second.listed = members.length := by
  have known : ∀ member ∈ members, (cache.markAll members).contains member.title = true :=
    fun member inside => (Cache.contains_markAll cache members member.title).2
      (Or.inr (List.mem_map_of_mem inside))
  obtain ⟨marked, none⟩ := Cache.markAll_of_contains known
  obtain ⟨outcome, after, later, called, ⟨empty, -⟩ | ⟨failure, failed, -⟩ |
    ⟨others, -, again, rfl, rfl⟩⟩ := discover_cases wiki categories (cache.markAll members) state
  · exact absurd empty some
  · rw [listed] at failed
    cases failed
  · rw [listed] at again
    cases again
    rw [marked] at called
    exact ⟨_, _, called, none, rfl⟩

/-- A discovery fails just if there is no category or one cannot be listed, and then cache and
manifest are what they were. Otherwise the titles that were unknown are added, each as a pending page
with the id of its first occurrence, and known entries stay. The report counts all members and, each
once, the new titles. After that the same answers add nothing. -/
theorem discover_allOrNothing (wiki : Wiki σ) (categories : List String) (holdings : Holdings)
    (state : σ) :
    let answers := wiki.listings categories state
    let outcome := (discover wiki categories holdings.cache state).1
    let after := ((Call.discover wiki categories).after (holdings, state)).1
    ((∃ failure, outcome = .error failure) ↔
        categories = [] ∨ ∃ failure, .error failure ∈ answers) ∧
      (∀ failure, outcome = .error failure → after = holdings) ∧
      ∀ report, outcome = .ok report →
        after.manifest = holdings.manifest ∧
        ∃ batches : List (List Member), answers = batches.map .ok ∧
          Discovered holdings.cache batches.flatten after.cache report.added ∧
          report.listed = batches.flatten.length ∧ report.categories = categories ∧
          ∀ {τ : Type} (again : Wiki τ) (later : τ), again.listings categories later = answers →
            ∃ second last,
              discover again categories after.cache later = (.ok second, after.cache, last) ∧
              second.added = 0 ∧ second.listed = report.listed := by
  intro answers outcome after
  obtain ⟨told, cache, between, called, cases⟩ :=
    discover_cases wiki categories holdings.cache state
  have whole : outcome = told := congrArg Prod.fst called
  have kept : after = { holdings with cache } := by
    unfold after Call.after
    dsimp only
    rw [called]
  rw [whole, kept]
  rcases cases with ⟨empty, rfl, rfl⟩ | ⟨failure, listing, rfl, rfl⟩ |
    ⟨members, some, listing, rfl, rfl⟩
  · refine ⟨⟨fun _ => Or.inl empty, fun _ => ⟨_, rfl⟩⟩, fun _ _ => rfl, ?_⟩
    intro report success
    cases success
  · obtain ⟨batches, others, split⟩ := gathered_eq_error.1 listing
    have inside : .error failure ∈ answers := by simp [answers, split]
    refine ⟨⟨fun _ => Or.inr ⟨failure, inside⟩, fun _ => ⟨_, rfl⟩⟩, fun _ _ => rfl, ?_⟩
    intro report success
    cases success
  · obtain ⟨batches, split, rfl⟩ := gathered_eq_ok.1 listing
    refine ⟨?_, ?_, ?_⟩
    · constructor
      · rintro ⟨failure, failed⟩
        cases failed
      · rintro (empty | ⟨failure, inside⟩)
        · exact absurd empty some
        · simp [answers, split] at inside
    · intro failure failed
      cases failed
    · intro report success
      cases success
      refine ⟨rfl, batches, split, discovered_markAll _ _, rfl, rfl, ?_⟩
      intro τ again later same
      exact discover_again some (by rw [same]; exact listing) holdings.cache

end SaveManifest
