import SaveManifest.Proofs.Extraction.Steps
import SaveManifest.Proofs.Extraction.Verdict
import SaveManifest.Proofs.Template.Balance

/-!
# Every path is accounted for

Each path parameter of a page is booked in one place: it gets an entry, or it adds one to one of
the three tallies, or it leaves no trace. The last happens to paths with unpaired braces alone,
and none of those comes out of a page (`isBalanced_collect`). So the paths of a page are as many
as those with an entry and those in the tallies together (`ofContent_accounts`).
-/

namespace SaveManifest

open SaveManifest.Path SaveManifest.Template SaveManifest.Text

/-- The record has an entry of a resolved path that carries a tag. -/
def Record.Carries (record : Record) (resolved : Resolved) (tag : Tag) : Prop :=
  ∃ entry, (record.paths resolved.kind).get? resolved.path = some entry ∧ tag ∈ entry.tags

/-- Changing an entry loses no tag if the change of that entry loses none. -/
theorem Record.Carries.update {record : Record} {resolved : Resolved} {tag : Tag}
    (carries : record.Carries resolved tag) (kind : PathKind) (path : String)
    {change : Entry → Entry} (keeps : ∀ entry, entry.tags ⊆ (change entry).tags) :
    (record.update kind path change).Carries resolved tag := by
  obtain ⟨entry, found, tagged⟩ := carries
  unfold Record.Carries
  rw [Record.get?_update]
  by_cases same : resolved.kind = kind ∧ resolved.path = path
  · obtain ⟨rfl, rfl⟩ := same
    rw [if_pos ⟨rfl, rfl⟩, found]
    exact ⟨_, rfl, keeps entry tagged⟩
  · rw [if_neg same]
    exact ⟨entry, found, tagged⟩

theorem Entry.tags_addConstraint (entry : Entry) (constraint : Constraint) :
    (entry.addConstraint constraint).tags = entry.tags := by
  unfold Entry.addConstraint
  split
  · rfl
  · rfl

theorem Tallies.merge_assoc (first second third : Tallies) :
    (first.merge second).merge third = first.merge (second.merge third) := by
  simp only [Tallies.merge, Nat.add_assoc]

theorem Tallies.empty_merge (tallies : Tallies) : ({} : Tallies).merge tallies = tallies := by
  simp only [Tallies.merge, Nat.zero_add]

namespace Extraction

inductive Booking where
  | accepted
  | unsupportedOs
  | unsupportedPath
  | tooBroad
  | nowhere
deriving DecidableEq, Repr

/-- What a booking adds to the tallies: one in one place, or nothing. -/
def Booking.tallies : Booking → Tallies
  | accepted => {}
  | unsupportedOs => { unsupportedOs := 1 }
  | unsupportedPath => { unsupportedPath := 1 }
  | tooBroad => { tooBroad := 1 }
  | nowhere => {}

/-- Where a refused path is booked, by the group of its reason. -/
def Booking.ofGroup : PathError.Group → Booking
  | .unsupportedOs => unsupportedOs
  | .unsupportedPath => unsupportedPath
  | .malformed => nowhere

def Verdict.booking : Verdict → Booking
  | accepted _ _ => .accepted
  | tooBroad => .tooBroad
  | refused error => .ofGroup error.group

def DataPath.booking (denylist : Denylist) (path : DataPath) : Booking :=
  (path.verdict denylist).booking

/-- How many of the paths are booked in one place. -/
def booked (denylist : Denylist) (booking : Booking) (paths : List DataPath) : Nat :=
  paths.countP fun path => path.booking denylist == booking

def talliesOf (denylist : Denylist) (paths : List DataPath) : Tallies where
  unsupportedOs := booked denylist .unsupportedOs paths
  unsupportedPath := booked denylist .unsupportedPath paths
  tooBroad := booked denylist .tooBroad paths

variable (denylist : Denylist)

theorem booked_cons (booking : Booking) (path : DataPath) (paths : List DataPath) :
    booked denylist booking (path :: paths) =
      booked denylist booking paths + if path.booking denylist = booking then 1 else 0 := by
  simp only [booked, List.countP_cons, beq_iff_eq]

/-- Each path is booked in exactly one place. -/
theorem length_eq_booked (paths : List DataPath) :
    paths.length =
      booked denylist .accepted paths + booked denylist .unsupportedOs paths +
        booked denylist .unsupportedPath paths + booked denylist .tooBroad paths +
        booked denylist .nowhere paths := by
  induction paths with
  | nil => rfl
  | cons path paths ih =>
    simp only [booked_cons, List.length_cons]
    cases path.booking denylist <;> simp <;> omega

theorem talliesOf_cons (path : DataPath) (paths : List DataPath) :
    talliesOf denylist (path :: paths) =
      (path.booking denylist).tallies.merge (talliesOf denylist paths) := by
  unfold talliesOf Tallies.merge
  simp only [booked_cons]
  cases path.booking denylist <;> simp [Booking.tallies, Nat.add_comm]

theorem tallies_settle (extraction : Extraction) (tag : Tag) (verdict : Verdict) :
    (extraction.settle tag verdict).tallies =
      extraction.tallies.merge verdict.booking.tallies := by
  cases verdict with
  | accepted resolved constraint => rfl
  | tooBroad => rfl
  | refused error =>
    simp only [settle, Verdict.booking]
    cases error.group <;> rfl

/-- The tallies after some steps count the bookings of the paths among them. -/
theorem tallies_foldl (steps : List Step) (extraction : Extraction) :
    (steps.foldl (take denylist) extraction).tallies =
      extraction.tallies.merge (talliesOf denylist (steps.filterMap Step.path?)) := by
  induction steps generalizing extraction with
  | nil => rfl
  | cons step steps ih =>
    rw [List.foldl_cons, ih]
    cases step with
    | steam id => rfl
    | data path =>
      have first : (Step.data path :: steps).filterMap Step.path? =
          path :: steps.filterMap Step.path? := rfl
      rw [first, talliesOf_cons, ← Tallies.merge_assoc, take, tallies_settle]
      rfl

/-- The tallies of a page count the bookings of its paths. -/
theorem tallies_ofNodes (nodes : List Node) :
    (ofNodes denylist nodes).tallies = talliesOf denylist (pathsOf nodes) := by
  rw [ofNodes_eq_foldl, tallies_foldl, filterMap_flatMap_steps, Tallies.empty_merge]

theorem carries_settle (extraction : Extraction) (tag : Tag) (resolved : Resolved)
    (constraint : Constraint) :
    (extraction.settle tag (.accepted resolved constraint)).record.Carries resolved tag := by
  unfold Record.Carries
  simp only [settle, Record.get?_update, and_self, if_true]
  refine ⟨_, rfl, ?_⟩
  rw [Entry.addTag]
  exact mem_adjoin.2 (Or.inr rfl)

/-- A step takes no tag from any path. -/
theorem carries_take {extraction : Extraction} {resolved : Resolved} {tag : Tag}
    (carries : extraction.record.Carries resolved tag) (step : Step) :
    (take denylist extraction step).record.Carries resolved tag := by
  cases step with
  | steam id =>
    obtain ⟨entry, found, tagged⟩ := carries
    refine ⟨entry, ?_, tagged⟩
    rw [← found]
    cases resolved.kind <;> rfl
  | data path =>
    rw [take]
    cases path.verdict denylist with
    | tooBroad => exact carries
    | refused error => exact carries
    | accepted other constraint =>
      apply carries.update
      intro entry tag old
      rw [Entry.addTag, Entry.tags_addConstraint]
      exact mem_adjoin.2 (Or.inl old)

theorem carries_foldl {extraction : Extraction} {resolved : Resolved} {tag : Tag}
    (carries : extraction.record.Carries resolved tag) (steps : List Step) :
    (steps.foldl (take denylist) extraction).record.Carries resolved tag := by
  induction steps generalizing extraction with
  | nil => exact carries
  | cons step steps ih =>
    rw [List.foldl_cons]
    exact ih (carries_take denylist carries step)

/-- An accepted path has an entry with its tag once all steps are taken. -/
theorem carries_of_accepted {steps : List Step} {path : DataPath} (member : .data path ∈ steps)
    {resolved : Resolved} {constraint : Constraint}
    (accepted : path.verdict denylist = .accepted resolved constraint) (extraction : Extraction) :
    (steps.foldl (take denylist) extraction).record.Carries resolved path.tag := by
  obtain ⟨front, back, rfl⟩ := List.append_of_mem member
  rw [List.foldl_append, List.foldl_cons]
  apply carries_foldl
  rw [take, accepted]
  exact carries_settle _ _ _ _

theorem carries_ofNodes {nodes : List Node} {path : DataPath} (member : path ∈ pathsOf nodes)
    {resolved : Resolved} {constraint : Constraint}
    (accepted : path.verdict denylist = .accepted resolved constraint) :
    (ofNodes denylist nodes).record.Carries resolved path.tag := by
  rw [← filterMap_flatMap_steps] at member
  obtain ⟨step, taken, judged⟩ := List.mem_filterMap.1 member
  cases step with
  | steam id => cases judged
  | data other =>
    cases judged
    rw [ofNodes_eq_foldl]
    exact carries_of_accepted denylist taken accepted {}

theorem exists_of_booking_accepted {verdict : Verdict} (accepted : verdict.booking = .accepted) :
    ∃ resolved constraint, verdict = .accepted resolved constraint := by
  cases verdict with
  | accepted resolved constraint => exact ⟨resolved, constraint, rfl⟩
  | tooBroad => cases accepted
  | refused error =>
    rw [Verdict.booking] at accepted
    cases group : error.group <;> rw [group] at accepted <;> cases accepted

theorem booking_judge {system raw : String} (balanced : isBalanced raw.toList = true) :
    (judge denylist system raw).booking ≠ .nowhere := by
  unfold judge
  cases outcome : resolve raw with
  | error error =>
    simp only [Verdict.booking, group_of_resolve balanced outcome]
    decide
  | ok resolved =>
    simp only
    split
    · decide
    · cases inferred : systemConstraint system raw with
      | error error =>
        simp only [Verdict.booking, group_of_systemConstraint inferred]
        decide
      | ok constraint =>
        cases resolved.kind with
        | file => exact Booking.noConfusion
        | registry => exact Booking.noConfusion

/-- All path parameters of a page have paired braces. -/
theorem isBalanced_of_mem_pathsOf {content : String} {path : DataPath}
    (member : path ∈ pathsOf (parse content)) : isBalanced path.raw.toList = true := by
  obtain ⟨node, read, inside⟩ := List.mem_flatMap.1 member
  unfold dataPaths at inside
  split at inside
  · next tag system values _ positions =>
    obtain ⟨value, kept, rfl⟩ := List.mem_map.1 inside
    apply isBalanced_collect _ node read
    rw [positions]
    exact List.mem_cons_of_mem _ (List.mem_filter.1 kept).1
  · cases inside

/-- Every path of a page leaves a trace. -/
theorem booking_of_mem_pathsOf {content : String} {path : DataPath}
    (member : path ∈ pathsOf (parse content)) : path.booking denylist ≠ .nowhere := by
  have balanced := isBalanced_trim (isBalanced_of_mem_pathsOf member)
  apply booking_judge
  rw [trimmed, toList_onString]
  exact balanced

/-- Each path of a page either has an entry that carries its tag or is in one of the tallies. -/
theorem ofContent_accounts (content : String) :
    (∀ node ∈ parse content, ∀ value ∈ node.positional,
      countPairs '{' value.toList = countPairs '}' value.toList ∧
        ∀ error, resolve value = .error error → error.group ≠ .malformed) ∧
    (∀ path ∈ pathsOf (parse content), path.booking denylist ≠ .nowhere) ∧
    (∀ path ∈ pathsOf (parse content), path.booking denylist = .accepted →
      ∃ resolved, resolve (trimmed path.raw) = .ok resolved ∧
        (ofContent denylist content).record.Carries resolved path.tag) ∧
    (ofContent denylist content).tallies = talliesOf denylist (pathsOf (parse content)) ∧
    (pathsOf (parse content)).length =
      booked denylist .accepted (pathsOf (parse content)) +
        (ofContent denylist content).tallies.unsupportedOs +
        (ofContent denylist content).tallies.unsupportedPath +
        (ofContent denylist content).tallies.tooBroad := by
  have counted : (ofContent denylist content).tallies =
      talliesOf denylist (pathsOf (parse content)) := tallies_ofNodes denylist (parse content)
  refine ⟨?_, fun _ member => booking_of_mem_pathsOf denylist member, ?_, counted, ?_⟩
  · intro node read value member
    have balanced := isBalanced_collect _ node read value member
    refine ⟨isBalanced_iff.1 balanced, ?_⟩
    intro error refused
    rw [group_of_resolve balanced refused]
    decide
  · intro path member booking
    obtain ⟨resolved, constraint, accepted⟩ := exists_of_booking_accepted booking
    refine ⟨resolved, (judge_eq_accepted accepted).1, ?_⟩
    exact carries_ofNodes denylist member accepted
  · have none : booked denylist .nowhere (pathsOf (parse content)) = 0 := by
      rw [booked, List.countP_eq_zero]
      intro path member
      rw [beq_iff_eq]
      exact booking_of_mem_pathsOf denylist member
    have sum := length_eq_booked denylist (pathsOf (parse content))
    rw [counted]
    simp only [talliesOf]
    omega

/-- The text of a page with both data templates, a path that is too broad, a blank one, and a system
that is not supported. -/
def bothTemplates : String :=
  "\x7b\x7bGame data/saves|Windows|\x7b\x7bP|game\x7d\x7d\\save.dat|\x7b\x7bP|game\x7d\x7d| \x7d\x7d" ++
    "\x7b\x7bgame Data/config|BeOS|\x7b\x7bP|game\x7d\x7d\\a.cfg\x7d\x7d" ++
    "\x7b\x7bGame data/config|Linux|\x7b\x7bP|xdgdatahome\x7d\x7d/b\x7d\x7d"

theorem ofContent_accounts_bothTemplates :
    let extraction := ofContent .standard bothTemplates
    (pathsOf (parse bothTemplates)).length = 4 ∧
      extraction.tallies = { unsupportedOs := 1, tooBroad := 1 } ∧
      extraction.record.Carries ⟨"<base>/save.dat", .file⟩ .save ∧
      extraction.record.Carries ⟨"<xdgData>/b", .file⟩ .config := by
  intro extraction
  obtain ⟨-, -, carried, counted, -⟩ := ofContent_accounts .standard bothTemplates
  let saved : DataPath := ⟨.save, "Windows", "\x7b\x7bP|game\x7d\x7d\\save.dat"⟩
  let broad : DataPath := ⟨.save, "Windows", "\x7b\x7bP|game\x7d\x7d"⟩
  let foreign : DataPath := ⟨.config, "BeOS", "\x7b\x7bP|game\x7d\x7d\\a.cfg"⟩
  let configured : DataPath := ⟨.config, "Linux", "\x7b\x7bP|xdgdatahome\x7d\x7d/b"⟩
  have paths : pathsOf (parse bothTemplates) = [saved, broad, foreign, configured] := by
    decide +kernel
  have bookings : saved.booking .standard = .accepted ∧ broad.booking .standard = .tooBroad ∧
      foreign.booking .standard = .unsupportedOs ∧ configured.booking .standard = .accepted := by
    decide +kernel
  obtain ⟨savedAccepted, tooBroad, unsupported, configuredAccepted⟩ := bookings
  rw [paths] at carried counted
  have carries {path : DataPath} {resolved : Resolved}
      (member : path ∈ [saved, broad, foreign, configured])
      (accepted : path.booking .standard = .accepted)
      (found : (resolve (trimmed path.raw)).toOption = some resolved) :
      extraction.record.Carries resolved path.tag := by
    obtain ⟨other, same, carries⟩ := carried path member accepted
    rw [same] at found
    cases found
    exact carries
  refine ⟨congrArg List.length paths, ?_, ?_, ?_⟩
  · rw [counted]
    simp [talliesOf, booked, savedAccepted, tooBroad, unsupported, configuredAccepted]
  · exact carries (by simp) savedAccepted (by decide +kernel)
  · exact carries (by simp) configuredAccepted (by decide +kernel)

end Extraction

end SaveManifest
