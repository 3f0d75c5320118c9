import Mathlib.Data.List.Forall2
import SaveManifest.Wiki.Response

/-!
# What an answer says

An answer is described here by its JSON alone. A part of a value stands under its name in an
object, or at its place in a list that stands for one (`Json.part?`). A form tells what a value has
to be and which of its parts may be missing (`Json.Fits`). An answer of the right form lists the
items of `query.categorymembers`, and goes on with the text of `continue.cmcontinue`
(`Response.IsBatch`).

The readers accept just the values of their forms, which is proved once for the parts of a record
(`Json.fits_record_iff`, `Json.slots?_eq`) and then reader by reader. So an answer is read just if it
says something, and what is read is what it says (`Response.answer?_eq_some_iff`).
-/

namespace SaveManifest

namespace Json

/-- The part of an object under a name, or of a list at a place. -/
def part? (name : String) (place : Nat) : Json → Option Json
  | object members => members.lookup name
  | list items => items[place]?
  | _ => none

/-- An object, or a list that has no more items than this. -/
def isRecord (count : Nat) : Json → Bool
  | object _ => true
  | list items => items.length ≤ count
  | _ => false

/-- A part must be there, may be missing from an object, or may be missing from a list as well. -/
inductive Need where
  | required
  | optional
  | defaulted

inductive Form where
  | word
  | text
  | truth
  | nullable (form : Form)
  | items (form : Form)
  | record (parts : List (String × Need × Form))

def Need.spares : Need → Json → Bool
  | optional, object _ => true
  | defaulted, _ => true
  | _, _ => false

inductive Fits : Form → Json → Prop
  | word (value : UInt64) : Fits .word (.whole value.toNat)
  | text (value : String) : Fits .text (.text value)
  | truth (value : Bool) : Fits .truth (.truth value)
  | null (form : Form) : Fits (.nullable form) .null
  | given {form : Form} {value : Json} (fits : Fits form value) : Fits (.nullable form) value
  | items {form : Form} {items : List Json} (each : ∀ item ∈ items, Fits form item) :
      Fits (.items form) (.list items)
  | record {parts : List (String × Need × Form)} {value : Json}
      (shaped : value.isRecord parts.length = true)
      (given : ∀ name need form place part, ((name, need, form), place) ∈ parts.zipIdx →
        value.part? name place = some part → Fits form part)
      (spared : ∀ name need form place, ((name, need, form), place) ∈ parts.zipIdx →
        value.part? name place = none → need.spares value = true) :
      Fits (.record parts) value

/-- A reader accepts the values of a form and no others. -/
def Accepts {α : Type} (form : Form) (read : Json → Option α) : Prop :=
  ∀ value, (read value).isSome = true ↔ Fits form value

/-! ### Values without parts -/

theorem word?_eq_some_iff {value : Json} {word : UInt64} :
    word? value = some word ↔ value = .whole word.toNat := by
  constructor
  · intro read
    unfold word? at read
    split at read
    · next number =>
      split at read
      · next bound =>
        cases read
        exact congrArg (fun number : Nat => whole number) (UInt64.toNat_ofNat_of_lt' bound).symm
      · cases read
    · cases read
  · rintro rfl
    have bound : word.toNat < UInt64.size := word.toNat_lt
    simp [word?, bound]

theorem text?_eq_some_iff {value : Json} {text : String} :
    text? value = some text ↔ value = .text text := by
  cases value <;> simp [text?]

theorem accepts_word : Accepts .word word? := by
  intro value
  rw [Option.isSome_iff_exists]
  constructor
  · rintro ⟨word, read⟩
    rw [word?_eq_some_iff.1 read]
    exact .word word
  · rintro ⟨word⟩
    exact ⟨word, word?_eq_some_iff.2 rfl⟩

theorem accepts_text : Accepts .text text? := by
  intro value
  rw [Option.isSome_iff_exists]
  constructor
  · rintro ⟨text, read⟩
    rw [text?_eq_some_iff.1 read]
    exact .text text
  · rintro ⟨text⟩
    exact ⟨_, rfl⟩

theorem accepts_truth : Accepts .truth truth? := by
  intro value
  constructor
  · intro read
    cases value with
    | truth value => exact .truth value
    | _ => cases read
  · rintro ⟨value⟩
    rfl

variable {α : Type} {form : Form} {read : Json → Option α}

theorem Accepts.nullable? (accepts : Accepts form read) :
    Accepts (.nullable form) (nullable? read) := by
  intro value
  constructor
  · intro success
    cases value with
    | null => exact .null form
    | _ => exact .given ((accepts _).1 (Option.isSome_map ▸ success))
  · intro fits
    cases fits with
    | null => rfl
    | given fits =>
      cases value with
      | null => rfl
      | _ => exact Option.isSome_map.trans ((accepts _).2 fits)

theorem of_nullable? {value : Json} {result : Option α}
    (success : Json.nullable? read value = some result) :
    value = null ∧ result = none ∨ ∃ given, read value = some given ∧ result = some given := by
  cases value with
  | null =>
    cases success
    exact Or.inl ⟨rfl, rfl⟩
  | _ =>
    obtain ⟨given, found, rfl⟩ := Option.map_eq_some_iff.1 success
    exact Or.inr ⟨given, found, rfl⟩

theorem isSome_mapM {items : List Json} :
    (items.mapM read).isSome = true ↔ ∀ item ∈ items, (read item).isSome = true := by
  induction items with
  | nil => simp
  | cons item items ih =>
    rw [List.forall_mem_cons, ← ih, List.mapM_cons]
    cases read item with
    | none => simp
    | some first => cases items.mapM read <;> simp

theorem Accepts.list? (accepts : Accepts form read) : Accepts (.items form) (list? read) := by
  intro value
  cases value with
  | list items =>
    constructor
    · intro success
      exact .items fun item member => (accepts item).1 (isSome_mapM.1 success item member)
    · intro fits
      cases fits with
      | items each => exact isSome_mapM.2 fun item member => (accepts item).2 (each item member)
  | _ => exact iff_of_false nofun nofun

/-! ### Records -/

/-- What stands for a part that is missing. -/
def gap : Json → Slot
  | list _ => .cut
  | _ => .absent

def slot (value : Json) (name : String) (place : Nat) : Slot :=
  ((value.part? name place).map .given).getD value.gap

theorem slotsOfItems_eq (names : List String) (items : List Json) :
    slotsOfItems names items =
      if (list items).isRecord names.length then
        some (names.zipIdx.map fun part => (list items).slot part.1 part.2)
      else none := by
  induction names generalizing items with
  | nil => cases items <;> simp [slotsOfItems, isRecord]
  | cons name names ih =>
    rw [List.zipIdx_cons, Nat.zero_add, List.zipIdx_succ, List.map_cons, List.map_map]
    cases items with
    | nil =>
      rw [slotsOfItems, ih]
      simp [isRecord, slot, part?, gap, Function.comp_def]
    | cons item items =>
      rw [slotsOfItems, ih]
      by_cases short : items.length ≤ names.length
      · simp [isRecord, slot, part?, gap, Function.comp_def, short]
      · simp [isRecord, short]

/-- A record has a slot for each of its parts. -/
theorem slots?_eq (names : List String) (value : Json) :
    value.slots? names =
      if value.isRecord names.length then
        some (names.zipIdx.map fun part => value.slot part.1 part.2)
      else none := by
  cases value with
  | list items => exact slotsOfItems_eq names items
  | object members =>
    -- The slot of a name in an object does not depend on the place.
    let own (name : String) : Slot := ((members.lookup name).map .given).getD .absent
    have same : names.map own = names.zipIdx.map fun part => own part.1 := by
      conv_lhs => rw [← List.zipIdx_map_fst 0 names, List.map_map]
      rfl
    exact congrArg some same
  | _ => rfl

theorem required?_slot (value : Json) (name : String) (place : Nat) :
    (value.slot name place).required? read = (value.part? name place).bind read := by
  unfold slot
  cases value.part? name place with
  | some part => rfl
  | none => cases value <;> rfl

theorem of_defaulted?_slot {value : Json} {name : String} {place : Nat} {default result : α}
    (success : (value.slot name place).defaulted? default read = some result) :
    value.part? name place = none ∧ result = default ∨
      ∃ part, value.part? name place = some part ∧ read part = some result := by
  unfold slot at success
  cases found : value.part? name place with
  | some part =>
    rw [found] at success
    exact Or.inr ⟨part, rfl, success⟩
  | none =>
    rw [found] at success
    cases value <;> exact Or.inl ⟨rfl, (Option.some.inj success).symm⟩

theorem optional?_given (value : Json) :
    (Slot.given value).optional? read = value.nullable? read := by
  cases value <;> rfl

theorem of_optional?_slot {value : Json} {name : String} {place : Nat} {result : Option α}
    (success : (value.slot name place).optional? read = some result) :
    result = none ∧ (value.part? name place = none ∨ value.part? name place = some .null) ∨
      ∃ part given, value.part? name place = some part ∧ read part = some given ∧
        result = some given := by
  unfold slot at success
  cases found : value.part? name place with
  | none =>
    rw [found] at success
    cases value <;> cases success <;> exact Or.inl ⟨rfl, Or.inl rfl⟩
  | some part =>
    rw [found] at success
    rcases of_nullable? ((optional?_given part).symm.trans success) with ⟨rfl, rfl⟩ | ⟨given, isGiven, rfl⟩
    · exact Or.inl ⟨rfl, Or.inr rfl⟩
    · exact Or.inr ⟨part, given, rfl, isGiven, rfl⟩

namespace Slot

/-- What stands in a slot has a form, or it may be missing. -/
def Fits (need : Need) (form : Form) : Slot → Prop
  | given value => Json.Fits form value
  | absent => need ≠ .required
  | cut => need = .defaulted

theorem isSome_required?_iff (accepts : Accepts form read) (slot : Slot) :
    (slot.required? read).isSome = true ↔ slot.Fits .required form := by
  cases slot with
  | given value => exact accepts value
  | absent => simp [required?, Fits]
  | cut => simp [required?, Fits]

theorem isSome_optional?_iff (accepts : Accepts form read) (slot : Slot) :
    (slot.optional? read).isSome = true ↔ slot.Fits .optional (.nullable form) := by
  cases slot with
  | given value =>
    rw [optional?_given]
    exact accepts.nullable? value
  | absent => simp [optional?, Fits]
  | cut => simp [optional?, Fits]

theorem isSome_defaulted?_iff (accepts : Accepts form read) (default : α) (slot : Slot) :
    (slot.defaulted? default read).isSome = true ↔ slot.Fits .defaulted form := by
  cases slot with
  | given value => exact accepts value
  | absent => simp [defaulted?, Fits]
  | cut => simp [defaulted?, Fits]

end Slot

theorem fits_gap_iff {value : Json} {count : Nat} {need : Need} {form : Form}
    (shaped : value.isRecord count = true) :
    value.gap.Fits need form ↔ need.spares value = true := by
  cases value with
  | list items => cases need <;> simp [gap, Slot.Fits, Need.spares]
  | object members => cases need <;> simp [gap, Slot.Fits, Need.spares]
  | _ => cases shaped

/-- A record has a form if each of its slots has. -/
theorem fits_record_iff {parts : List (String × Need × Form)} {value : Json} :
    Fits (.record parts) value ↔ value.isRecord parts.length = true ∧
      ∀ part ∈ parts.zipIdx, (value.slot part.1.1 part.2).Fits part.1.2.1 part.1.2.2 := by
  constructor
  · intro fits
    cases fits with
    | record shaped given spared =>
      refine ⟨shaped, ?_⟩
      rintro ⟨⟨name, need, form⟩, place⟩ listed
      unfold slot
      cases found : value.part? name place with
      | some part => exact given name need form place part listed found
      | none => exact (fits_gap_iff shaped).2 (spared name need form place listed found)
  · rintro ⟨shaped, each⟩
    refine .record shaped ?_ ?_
    · intro name need form place part listed found
      have fits := each _ listed
      rw [slot, found] at fits
      exact fits
    · intro name need form place listed missing
      have fits := each _ listed
      rw [slot, missing] at fits
      exact (fits_gap_iff shaped).1 fits

/-- A reader of slots accepts a record if it makes something of just those slots that have the forms
of the parts. -/
theorem accepts_slots? {parts : List (String × Need × Form)} {next : List Slot → Option α}
    (reads : ∀ value : Json,
      (next (parts.zipIdx.map fun part => value.slot part.1.1 part.2)).isSome = true ↔
        ∀ part ∈ parts.zipIdx, (value.slot part.1.1 part.2).Fits part.1.2.1 part.1.2.2) :
    Accepts (.record parts) fun value => (value.slots? (parts.map (·.1))).bind next := by
  intro value
  dsimp only
  rw [fits_record_iff, slots?_eq, List.length_map, ← reads value, List.zipIdx_map, List.map_map]
  by_cases shaped : value.isRecord parts.length = true
  · rw [if_pos shaped]
    exact (and_iff_right shaped).symm
  · rw [if_neg shaped]
    exact iff_of_false nofun fun both => shaped both.1

theorem of_slots?_bind {names : List String} {value : Json} {next : List Slot → Option α}
    {result : α} (read : (value.slots? names).bind next = some result) :
    next (names.zipIdx.map fun part => value.slot part.1 part.2) = some result := by
  rw [slots?_eq] at read
  split at read
  · exact read
  · cases read

end Json

namespace Response

open Json

def memberForm : Form := .record [("pageid", .required, .word), ("title", .required, .text)]

def contentForm : Form := .record [("content", .required, .text)]

def slotsForm : Form := .record [("main", .optional, .nullable contentForm)]

def revisionForm : Form :=
  .record [("revid", .optional, .nullable .word), ("slots", .optional, .nullable slotsForm)]

def listingForm : Form :=
  .record [("pageid", .optional, .nullable .word), ("title", .required, .text),
    ("missing", .optional, .nullable .truth), ("invalid", .optional, .nullable .truth),
    ("revisions", .defaulted, .items revisionForm)]

def queryForm : Form :=
  .record [("categorymembers", .defaulted, .items memberForm),
    ("pages", .defaulted, .items listingForm)]

def continueForm : Form := .record [("cmcontinue", .optional, .nullable .text)]

def answerForm : Form :=
  .record [("query", .defaulted, queryForm), ("continue", .defaulted, .nullable continueForm)]

theorem accepts_member : Accepts memberForm member? := by
  refine accepts_slots? fun value => ?_
  simp [← Slot.isSome_required?_iff accepts_word, ← Slot.isSome_required?_iff accepts_text,
    Option.isSome_iff_exists, Option.bind_eq_some_iff]

theorem accepts_content : Accepts contentForm content? := by
  refine accepts_slots? fun value => ?_
  simp [← Slot.isSome_required?_iff accepts_text]

theorem accepts_mainContent : Accepts slotsForm mainContent? := by
  refine accepts_slots? fun value => ?_
  simp [← Slot.isSome_optional?_iff accepts_content]

theorem accepts_revision : Accepts revisionForm revision? := by
  refine accepts_slots? fun value => ?_
  simp [← Slot.isSome_optional?_iff accepts_word, ← Slot.isSome_optional?_iff accepts_mainContent,
    Option.isSome_iff_exists, Option.bind_eq_some_iff]

theorem accepts_listing : Accepts listingForm listing? := by
  refine accepts_slots? fun value => ?_
  simp [← Slot.isSome_optional?_iff accepts_word, ← Slot.isSome_required?_iff accepts_text,
    ← Slot.isSome_optional?_iff accepts_truth,
    ← Slot.isSome_defaulted?_iff accepts_revision.list? [],
    Option.isSome_iff_exists, Option.bind_eq_some_iff]

theorem accepts_query : Accepts queryForm query? := by
  refine accepts_slots? fun value => ?_
  simp [← Slot.isSome_defaulted?_iff accepts_member.list? [],
    ← Slot.isSome_defaulted?_iff accepts_listing.list? [],
    Option.isSome_iff_exists, Option.bind_eq_some_iff]

theorem accepts_token : Accepts continueForm token? := by
  refine accepts_slots? fun value => ?_
  simp [← Slot.isSome_optional?_iff accepts_text]

theorem accepts_answer : Accepts answerForm answer? := by
  refine accepts_slots? fun value => ?_
  simp [← Slot.isSome_defaulted?_iff accepts_query ([], []),
    ← Slot.isSome_defaulted?_iff accepts_token.nullable? none,
    Option.isSome_iff_exists, Option.bind_eq_some_iff]

/-! ### What is read -/

structure IsMember (item : Json) (member : Member) : Prop where
  pageId : item.part? "pageid" 0 = some (.whole member.pageId.toNat)
  title : item.part? "title" 1 = some (.text member.title)

/-- What stands under `query.categorymembers`. -/
def membersPart? (payload : Json) : Option Json :=
  (payload.part? "query" 0).bind (·.part? "categorymembers" 0)

/-- What stands under `continue.cmcontinue`. -/
def tokenPart? (payload : Json) : Option Json :=
  (payload.part? "continue" 1).bind (·.part? "cmcontinue" 0)

/-- An answer lists these members in this order, and goes on with this token. -/
structure IsBatch (payload : Json) (members : List Member) (next : Option String) : Prop where
  fits : Fits answerForm payload
  members : ∃ items, List.Forall₂ IsMember items members ∧
    (membersPart? payload = some (.list items) ∨ membersPart? payload = none ∧ items = [])
  next : ∀ token, next = some token ↔ tokenPart? payload = some (.text token)

theorem IsMember.unique {item : Json} {member other : Member} (first : IsMember item member)
    (second : IsMember item other) : member = other := by
  have pageId := first.pageId.symm.trans second.pageId
  have title := first.title.symm.trans second.title
  simp only [Option.some.injEq, Json.whole.injEq, Json.text.injEq, Int.natCast_inj,
    UInt64.toNat_inj] at pageId title
  cases member
  cases other
  cases pageId
  cases title
  rfl

theorem IsBatch.unique {payload : Json} {members others : List Member} {next other : Option String}
    (first : IsBatch payload members next) (second : IsBatch payload others other) :
    members = others ∧ next = other := by
  obtain ⟨items, these, place⟩ := first.members
  obtain ⟨more, those, again⟩ := second.members
  have same : items = more := by
    rcases place with found | ⟨missing, rfl⟩
    · rcases again with still | ⟨none, -⟩
      · cases found.symm.trans still
        rfl
      · cases found.symm.trans none
    · rcases again with found | ⟨-, rfl⟩
      · cases missing.symm.trans found
      · rfl
  subst same
  constructor
  · have functional : Relator.RightUnique IsMember := fun _ _ _ => IsMember.unique
    exact functional.forall₂ these those
  · apply Option.ext
    intro token
    rw [first.next, second.next]

theorem isMember_of_member? {item : Json} {member : Member} (read : member? item = some member) :
    IsMember item member := by
  have slots := of_slots?_bind read
  simp only [List.zipIdx_cons, List.zipIdx_nil, List.map_cons, List.map_nil, Option.bind_eq_bind,
    required?_slot, Option.bind_eq_some_iff] at slots
  obtain ⟨number, ⟨pageId, foundId, isWord⟩, name, ⟨title, foundTitle, isText⟩, ⟨⟩⟩ := slots
  rw [word?_eq_some_iff.1 isWord] at foundId
  rw [text?_eq_some_iff.1 isText] at foundTitle
  exact ⟨foundId, foundTitle⟩

theorem forall₂_of_mapM {α : Type} {read : Json → Option α} {items : List Json} {values : List α}
    (success : items.mapM read = some values) :
    List.Forall₂ (fun item value => read item = some value) items values := by
  induction items generalizing values with
  | nil =>
    cases success
    exact .nil
  | cons item items ih =>
    simp only [List.mapM_cons, Option.bind_eq_bind, Option.bind_eq_some_iff] at success
    obtain ⟨value, first, others, rest, ⟨⟩⟩ := success
    exact .cons first (ih rest)

/-- The members of a query are named by the items that it lists, or it has no list. -/
theorem members_of_query? {query : Json} {members : List Member} {pages : List Listing}
    (read : query? query = some (members, pages)) :
    ∃ items, List.Forall₂ IsMember items members ∧
      (query.part? "categorymembers" 0 = some (.list items) ∨
        query.part? "categorymembers" 0 = none ∧ items = []) := by
  have slots := of_slots?_bind read
  simp only [List.zipIdx_cons, List.zipIdx_nil, List.map_cons, List.map_nil, Option.bind_eq_bind,
    Option.bind_eq_some_iff] at slots
  obtain ⟨these, found, -, -, ⟨⟩⟩ := slots
  rcases of_defaulted?_slot found with ⟨missing, rfl⟩ | ⟨part, there, listed⟩
  · exact ⟨[], .nil, Or.inr ⟨missing, rfl⟩⟩
  · obtain ⟨items, isList, each⟩ := Option.bind_eq_some_iff.1 listed
    cases part with
    | list values =>
      cases isList
      exact ⟨_, (forall₂_of_mapM each).imp fun _ _ => isMember_of_member?, Or.inl there⟩
    | _ => cases isList

/-- The token of a continuation is the text that stands there. -/
theorem text_of_token? {continuation : Json} {next : Option String}
    (read : token? continuation = some next) (token : String) :
    next = some token ↔ continuation.part? "cmcontinue" 0 = some (.text token) := by
  have slots := of_slots?_bind read
  simp only [List.zipIdx_cons, List.zipIdx_nil, List.map_cons, List.map_nil] at slots
  rcases of_optional?_slot slots with ⟨rfl, missing | null⟩ | ⟨part, text, there, isText, rfl⟩
  · rw [missing]
    exact iff_of_false nofun nofun
  · rw [null]
    exact iff_of_false nofun nofun
  · rw [there, text?_eq_some_iff.1 isText]
    simp

/-- What is read of an answer is what the answer says. -/
theorem isBatch_of_answer? {payload : Json} {answer : Answer} (read : answer? payload = some answer) :
    IsBatch payload answer.members answer.token := by
  have slots := of_slots?_bind read
  simp only [List.zipIdx_cons, List.zipIdx_nil, List.map_cons, List.map_nil, Option.bind_eq_bind,
    Option.bind_eq_some_iff] at slots
  obtain ⟨⟨members, pages⟩, query, token, continuation, ⟨⟩⟩ := slots
  refine ⟨(accepts_answer payload).1 (Option.isSome_of_eq_some read), ?_, ?_⟩
  · unfold membersPart?
    rcases of_defaulted?_slot query with ⟨missing, same⟩ | ⟨part, there, asked⟩
    · cases same
      rw [missing]
      exact ⟨[], .nil, Or.inr ⟨rfl, rfl⟩⟩
    · rw [there]
      exact members_of_query? asked
  · intro next
    unfold tokenPart?
    rcases of_defaulted?_slot continuation with ⟨missing, rfl⟩ | ⟨part, there, goesOn⟩
    · rw [missing]
      exact iff_of_false nofun nofun
    · rw [there]
      rcases of_nullable? goesOn with ⟨rfl, rfl⟩ | ⟨text, found, rfl⟩
      · exact iff_of_false nofun nofun
      · exact text_of_token? found next

/-- An answer can be read just if it has the right form, and then what is read is what it says. -/
theorem answer?_eq_some_iff {payload : Json} {members : List Member} {next : Option String} :
    (∃ pages, answer? payload = some ⟨members, pages, next⟩) ↔ IsBatch payload members next := by
  constructor
  · rintro ⟨pages, read⟩
    exact isBatch_of_answer? read
  · intro batch
    obtain ⟨⟨others, pages, other⟩, read⟩ :=
      Option.isSome_iff_exists.1 ((accepts_answer payload).2 batch.fits)
    obtain ⟨rfl, rfl⟩ := batch.unique (isBatch_of_answer? read)
    exact ⟨pages, read⟩

theorem answer?_eq_none_iff {payload : Json} :
    answer? payload = none ↔ ∀ members next, ¬IsBatch payload members next := by
  constructor
  · intro unread members next batch
    obtain ⟨pages, read⟩ := answer?_eq_some_iff.2 batch
    cases unread.symm.trans read
  · intro silent
    cases read : answer? payload with
    | none => rfl
    | some answer => exact absurd (isBatch_of_answer? read) (silent _ _)

end Response

end SaveManifest
