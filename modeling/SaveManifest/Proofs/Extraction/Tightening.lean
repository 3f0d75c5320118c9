import SaveManifest.Proofs.Extraction.Order
import SaveManifest.Proofs.Path.Denylist

/-!
# Extraction under a longer denylist

A longer denylist changes the verdict on a path parameter in one way: where the parameter leads to
a path that the longer list denies, it is too broad (`verdict_of_extends`). So an entry with a
denied path goes, and any other entry is made of the same additions as before. In the tallies, what
was accepted or refused for its system may move to the paths that are too broad
(`ofNodes_withExtra`).
-/

namespace SaveManifest

open SaveManifest.Path SaveManifest.Template SaveManifest.Text

namespace Path

/-- Every path that a denylist denies is denied by another. -/
def Denylist.Extends (longer denylist : Denylist) : Prop :=
  ∀ path, denylist.contains path = true → longer.contains path = true

theorem Denylist.extends_withExtra (denylist : Denylist) (texts : List String) :
    (denylist.withExtra texts).Extends denylist := by
  intro path denied
  exact (contains_withExtra denylist texts path).2 (Or.inl denied)

theorem isTooBroad_of_contains {denylist : Denylist} {path : String}
    (denied : denylist.contains path = true) : isTooBroad path denylist = true := by
  simp [isTooBroad, denied]

/-- What a longer denylist does not deny is as broad as before. -/
theorem isTooBroad_of_extends {denylist longer : Denylist} (grown : longer.Extends denylist)
    {path : String} (free : longer.contains path = false) :
    isTooBroad path longer = isTooBroad path denylist := by
  have before : denylist.contains path = false := by
    rw [Bool.eq_false_iff]
    intro denied
    rw [grown path denied] at free
    cases free
  rw [isTooBroad, isTooBroad, free, before]

end Path

namespace Extraction

def DataPath.isDenied (denylist : Denylist) (path : DataPath) : Bool :=
  match resolve (trimmed path.raw) with
  | .ok resolved => denylist.contains resolved.path
  | .error _ => false

/-- How many of the paths that are booked in one place under a denylist lead to a path that another
one denies. -/
def lost (denylist longer : Denylist) (booking : Booking) (paths : List DataPath) : Nat :=
  paths.countP fun path => path.booking denylist == booking && path.isDenied longer

variable {denylist longer : Denylist}

/-! ### One path -/

theorem verdict_of_isDenied {path : DataPath} (denied : path.isDenied denylist = true) :
    path.verdict denylist = .tooBroad := by
  unfold DataPath.isDenied at denied
  unfold DataPath.verdict judge
  cases outcome : resolve (trimmed path.raw) with
  | error error =>
    rw [outcome] at denied
    cases denied
  | ok resolved =>
    rw [outcome] at denied
    exact if_pos (isTooBroad_of_contains denied)

/-- A longer denylist changes no verdict but on the paths that it denies. -/
theorem verdict_of_extends (grown : longer.Extends denylist) {path : DataPath}
    (free : path.isDenied longer = false) : path.verdict longer = path.verdict denylist := by
  unfold DataPath.isDenied at free
  unfold DataPath.verdict judge
  cases outcome : resolve (trimmed path.raw) with
  | error error => rfl
  | ok resolved =>
    rw [outcome] at free
    dsimp only
    rw [isTooBroad_of_extends grown free]

theorem isDenied_of_accepted {path : DataPath} {resolved : Resolved} {constraint : Constraint}
    (accepted : path.verdict denylist = .accepted resolved constraint) :
    path.isDenied longer = longer.contains resolved.path := by
  rw [DataPath.isDenied, (judge_eq_accepted accepted).1]

/-- A path that leads somewhere is accepted, refused for its system or too broad. -/
theorem booking_of_isDenied {path : DataPath} (denied : path.isDenied longer = true) :
    path.booking denylist = .accepted ∨ path.booking denylist = .unsupportedOs ∨
      path.booking denylist = .tooBroad := by
  unfold DataPath.isDenied at denied
  unfold DataPath.booking DataPath.verdict judge
  cases outcome : resolve (trimmed path.raw) with
  | error error =>
    rw [outcome] at denied
    cases denied
  | ok resolved =>
    dsimp only
    split
    · exact Or.inr (Or.inr rfl)
    · cases inferred : systemConstraint path.system (trimmed path.raw) with
      | error error =>
        dsimp only
        rw [Verdict.booking, group_of_systemConstraint inferred]
        exact Or.inr (Or.inl rfl)
      | ok constraint => cases resolved.kind <;> exact Or.inl rfl

/-! ### The tallies -/

theorem lost_cons (booking : Booking) (path : DataPath) (paths : List DataPath) :
    lost denylist longer booking (path :: paths) = lost denylist longer booking paths +
      if path.booking denylist = booking ∧ path.isDenied longer = true then 1 else 0 := by
  simp only [lost, List.countP_cons, Bool.and_eq_true, beq_iff_eq]

/-- The paths that a longer denylist denies are booked as too broad under it; all others stay where
they are. -/
theorem booked_of_extends (grown : longer.Extends denylist) (paths : List DataPath) :
    booked longer .unsupportedPath paths = booked denylist .unsupportedPath paths ∧
      booked longer .tooBroad paths = booked denylist .tooBroad paths +
        lost denylist longer .accepted paths + lost denylist longer .unsupportedOs paths ∧
      booked denylist .unsupportedOs paths =
        booked longer .unsupportedOs paths + lost denylist longer .unsupportedOs paths := by
  induction paths with
  | nil => simp only [booked, lost, List.countP_nil, Nat.add_zero, and_self]
  | cons path paths ih =>
    obtain ⟨unsupported, broad, systems⟩ := ih
    simp only [booked_cons, lost_cons]
    cases denied : path.isDenied longer with
    | true =>
      have after : path.booking longer = .tooBroad := by
        rw [DataPath.booking, verdict_of_isDenied denied]
        rfl
      have before : path.booking denylist = .accepted ∨
          path.booking denylist = .unsupportedOs ∨ path.booking denylist = .tooBroad :=
        booking_of_isDenied denied
      rcases before with here | here | here
      · simp [here, after]
        omega
      · simp [here, after]
        omega
      · simp [here, after]
        omega
    | false =>
      have same : path.booking longer = path.booking denylist := by
        rw [DataPath.booking, verdict_of_extends grown denied, DataPath.booking]
      simp only [same, Bool.false_eq_true, and_false, if_false]
      omega

/-! ### The entries -/

/-- No step adds to the entry of a denied path. -/
theorem addition?_of_contains {path : String} (denied : denylist.contains path = true)
    (kind : PathKind) (step : Step) : addition? denylist kind path step = none := by
  cases step with
  | steam id => rfl
  | data data =>
    rw [addition?]
    cases verdict : data.verdict denylist with
    | tooBroad => rfl
    | refused error => rfl
    | accepted resolved constraint =>
      apply if_neg
      rintro ⟨-, rfl⟩
      have narrow := (judge_eq_accepted verdict).2.1
      rw [isTooBroad_of_contains denied] at narrow
      cases narrow

/-- What a step adds to the entry of a path stays the same under a longer denylist that does not
deny the path. -/
theorem addition?_of_extends (grown : longer.Extends denylist) {path : String}
    (free : longer.contains path = false) (kind : PathKind) (step : Step) :
    addition? longer kind path step = addition? denylist kind path step := by
  cases step with
  | steam id => rfl
  | data data =>
    rw [addition?, addition?]
    cases denied : data.isDenied longer with
    | false => rw [verdict_of_extends grown denied]
    | true =>
      rw [verdict_of_isDenied denied]
      cases verdict : data.verdict denylist with
      | tooBroad => rfl
      | refused error => rfl
      | accepted resolved constraint =>
        symm
        apply if_neg
        rintro ⟨-, rfl⟩
        rw [isDenied_of_accepted verdict, free] at denied
        cases denied

theorem additions_of_extends (grown : longer.Extends denylist) (kind : PathKind) (path : String)
    (steps : List Step) :
    additions longer kind path steps =
      if longer.contains path then [] else additions denylist kind path steps := by
  unfold additions
  split
  · next denied =>
    rw [List.filterMap_eq_nil_iff]
    exact fun step _ => addition?_of_contains denied kind step
  · next free =>
    have same := addition?_of_extends grown (Bool.eq_false_iff.2 free) kind
    rw [funext same]

/-- Extraction with more denied paths gives the same but for the entries of denied paths, which go.
Of the tallies, that of the unsupported paths stays; what is denied now and was accepted or refused
for its system before adds to the paths that are too broad. -/
theorem ofNodes_withExtra (denylist : Denylist) (extra : List String) (nodes : List Node) :
    let longer := denylist.withExtra extra
    let before := ofNodes denylist nodes
    let after := ofNodes longer nodes
    (∀ kind, after.record.paths kind =
        (before.record.paths kind).filterKeys fun path => !longer.contains path) ∧
      after.record.steam = before.record.steam ∧
      after.tallies.unsupportedPath = before.tallies.unsupportedPath ∧
      before.tallies.tooBroad ≤ after.tallies.tooBroad ∧
      after.tallies.unsupportedOs ≤ before.tallies.unsupportedOs ∧
      after.tallies.tooBroad + after.tallies.unsupportedOs =
        before.tallies.tooBroad + before.tallies.unsupportedOs +
          (pathsOf nodes).countP fun path =>
            path.booking denylist == .accepted && path.isDenied longer := by
  intro longer before after
  have grown : longer.Extends denylist := denylist.extends_withExtra extra
  obtain ⟨unsupported, broad, systems⟩ := booked_of_extends grown (pathsOf nodes)
  have counted : before.tallies = talliesOf denylist (pathsOf nodes) := tallies_ofNodes _ _
  have countedToo : after.tallies = talliesOf longer (pathsOf nodes) := tallies_ofNodes _ _
  have broader : after.tallies.tooBroad = before.tallies.tooBroad +
      lost denylist longer .accepted (pathsOf nodes) +
        lost denylist longer .unsupportedOs (pathsOf nodes) := by
    rw [counted, countedToo]
    exact broad
  have fewer : before.tallies.unsupportedOs =
      after.tallies.unsupportedOs + lost denylist longer .unsupportedOs (pathsOf nodes) := by
    rw [counted, countedToo]
    exact systems
  refine ⟨?_, ?_, ?_, ?_, ?_, ?_⟩
  · intro kind
    apply Catalog.ext_get?
    intro path
    rw [Catalog.get?_filterKeys, get?_ofNodes, get?_ofNodes, additions_of_extends grown]
    cases longer.contains path <;> rfl
  · rw [steam_ofNodes, steam_ofNodes]
  · rw [counted, countedToo]
    exact unsupported
  · omega
  · omega
  · change _ = _ + lost denylist longer .accepted (pathsOf nodes)
    omega

end Extraction

end SaveManifest
