import Mathlib.Data.List.Nodup
import Mathlib.Logic.Relation
import SaveManifest.Wiki.Client

/-!
# Members of answers that nothing reads

Each part of an answer is read under the names it is known to have. A shape lists these names, and
below each the shape of its value. One value is wider than another where it has one more member
under a name outside of its shape, at whatever depth (`Widened`), and two values are alike if they
come from each other by adding and removing such members (`Alike`). A reader keeps to a shape if no
such member changes what it reads (`KeepsTo`). A wider object or list has the same slots, each wider
in its own shape at most (`slots?_widened`), so a reader of a part keeps to its shape if the readers
of its values do (`keepsTo_slots?`). Hence alike answers hold the same batch of members and the same
page (`readings_eq_of_alike`).
-/

namespace SaveManifest

namespace Json

/-- What a reader looks at: a whole value, the items of a list, or the values under some names. -/
inductive Shape where
  | leaf
  | items (shape : Shape)
  | record (fields : List (String × Shape))

/-- The second value is the first one with one more member that a reader of the shape does not look
at. It is added to the object here, or inside of the value of a known member, of a value of a list
that stands for an object, or of an item. -/
inductive Widened : Shape → Json → Json → Prop
  | here {fields : List (String × Shape)} {name : String} (front back : List (String × Json))
      (value : Json) (unused : name ∉ fields.map (·.1)) :
      Widened (.record fields) (.object (front ++ back)) (.object (front ++ (name, value) :: back))
  | member {fields : List (String × Shape)} {name : String} {shape : Shape} {narrow wide : Json}
      (front back : List (String × Json)) (used : (name, shape) ∈ fields)
      (inside : Widened shape narrow wide) :
      Widened (.record fields) (.object (front ++ (name, narrow) :: back))
        (.object (front ++ (name, wide) :: back))
  | value {fields : List (String × Shape)} {shape : Shape} {narrow wide : Json}
      (front back : List Json) (used : (fields.map (·.2))[front.length]? = some shape)
      (inside : Widened shape narrow wide) :
      Widened (.record fields) (.list (front ++ narrow :: back)) (.list (front ++ wide :: back))
  | item {shape : Shape} {narrow wide : Json} (front back : List Json)
      (inside : Widened shape narrow wide) :
      Widened (.items shape) (.list (front ++ narrow :: back)) (.list (front ++ wide :: back))

/-- Two values come from each other by adding and removing members that a reader of the shape does
not look at. -/
def Alike (shape : Shape) : Json → Json → Prop := Relation.EqvGen (Widened shape)

/-- Members outside of the shape do not change what is read. -/
def KeepsTo {α : Type} (shape : Shape) (read : Json → Option α) : Prop :=
  ∀ narrow wide, Widened shape narrow wide → read narrow = read wide

variable {α : Type} {shape : Shape} {read : Json → Option α} {narrow wide : Json}

theorem KeepsTo.alike (keeps : KeepsTo shape read) (alike : Alike shape narrow wide) :
    read narrow = read wide := by
  induction alike with
  | rel narrow wide widened => exact keeps narrow wide widened
  | refl => rfl
  | symm _ _ _ ih => exact ih.symm
  | trans _ _ _ _ _ first second => exact first.trans second

/-- A value without parts is not widened. -/
theorem keepsTo_leaf (read : Json → Option α) : KeepsTo .leaf read := nofun

theorem KeepsTo.list? (keeps : KeepsTo shape read) : KeepsTo (.items shape) (list? read) := by
  rintro _ _ (_ | _ | _ | ⟨front, back, inside⟩)
  simp only [Json.list?, items?, Option.bind_some, List.mapM_append, List.mapM_cons,
    keeps _ _ inside]

theorem Widened.ne_null (widened : Widened shape narrow wide) : narrow ≠ null ∧ wide ≠ null := by
  cases widened <;> exact ⟨nofun, nofun⟩

theorem nullable?_of_ne_null {value : Json} (given : value ≠ null) :
    nullable? read value = (read value).map some := by
  cases value with
  | null => exact absurd rfl given
  | _ => rfl

theorem KeepsTo.nullable? (keeps : KeepsTo shape read) : KeepsTo shape (nullable? read) := by
  intro narrow wide widened
  rw [nullable?_of_ne_null widened.ne_null.1, nullable?_of_ne_null widened.ne_null.2,
    keeps narrow wide widened]

namespace Slot

/-- What stands under a name in a value and in a wider one. -/
inductive Widened (shape : Shape) : Slot → Slot → Prop
  | same (slot : Slot) : Widened shape slot slot
  | inside {narrow wide : Json} (inside : Json.Widened shape narrow wide) :
      Widened shape (.given narrow) (.given wide)

variable {first second : Slot}

theorem Widened.required? (keeps : KeepsTo shape read) (widened : Widened shape first second) :
    first.required? read = second.required? read := by
  cases widened with
  | same => rfl
  | inside inside => exact keeps _ _ inside

theorem optional?_given (value : Json) : (given value).optional? read = value.nullable? read := by
  cases value <;> rfl

theorem Widened.optional? (keeps : KeepsTo shape read) (widened : Widened shape first second) :
    first.optional? read = second.optional? read := by
  cases widened with
  | same => rfl
  | inside inside =>
    rw [optional?_given, optional?_given]
    exact keeps.nullable? _ _ inside

theorem Widened.defaulted? (keeps : KeepsTo shape read) (default : α)
    (widened : Widened shape first second) :
    first.defaulted? default read = second.defaulted? default read := by
  cases widened with
  | same => rfl
  | inside inside => exact keeps _ _ inside

end Slot

/-- The slots of a value and of a wider one, field by field. -/
inductive Aligned : List (String × Shape) → List Slot → List Slot → Prop
  | nil : Aligned [] [] []
  | cons {name : String} {shape : Shape} {fields : List (String × Shape)} {first second : Slot}
      {others rest : List Slot} (head : Slot.Widened shape first second)
      (tail : Aligned fields others rest) :
      Aligned ((name, shape) :: fields) (first :: others) (second :: rest)

variable {fields : List (String × Shape)}

theorem aligned_map {first second : String → Slot}
    (each : ∀ field ∈ fields, Slot.Widened field.2 (first field.1) (second field.1)) :
    Aligned fields ((fields.map (·.1)).map first) ((fields.map (·.1)).map second) := by
  induction fields with
  | nil => exact .nil
  | cons field fields ih =>
    obtain ⟨here, later⟩ := List.forall_mem_cons.1 each
    exact .cons here (ih later)

theorem aligned_slotsOfItems {items : List Json} {slots : List Slot}
    (read : slotsOfItems (fields.map (·.1)) items = some slots) : Aligned fields slots slots := by
  induction fields generalizing items slots with
  | nil =>
    cases items with
    | nil =>
      cases read
      exact .nil
    | cons => cases read
  | cons field fields ih =>
    cases items with
    | nil | cons =>
      obtain ⟨others, found, rfl⟩ := Option.map_eq_some_iff.1 read
      exact .cons (.same _) (ih found)

theorem rel_map_cons {first second : Option (List Slot)} (slot : Slot) (field : String × Shape)
    (aligned : Option.Rel (Aligned fields) first second) :
    Option.Rel (Aligned (field :: fields)) (first.map (slot :: ·)) (second.map (slot :: ·)) := by
  cases aligned with
  | none => exact .none
  | some aligned => exact .some (.cons (.same slot) aligned)

theorem slotsOfItems_widened {front back : List Json}
    (used : (fields.map (·.2))[front.length]? = some shape) (inside : Widened shape narrow wide) :
    Option.Rel (Aligned fields) (slotsOfItems (fields.map (·.1)) (front ++ narrow :: back))
      (slotsOfItems (fields.map (·.1)) (front ++ wide :: back)) := by
  induction front generalizing fields with
  | nil =>
    cases fields with
    | nil => cases used
    | cons field fields =>
      obtain ⟨name, other⟩ := field
      cases used
      rw [List.nil_append, List.nil_append, List.map_cons, slotsOfItems, slotsOfItems]
      cases found : slotsOfItems (fields.map (·.1)) back with
      | none => exact .none
      | some slots => exact .some (.cons (.inside inside) (aligned_slotsOfItems found))
  | cons item front ih =>
    cases fields with
    | nil => cases used
    | cons field fields =>
      rw [List.cons_append, List.cons_append, List.map_cons, slotsOfItems, slotsOfItems]
      exact rel_map_cons (.given item) field (ih used)

theorem lookup_append_cons_of_ne {name other : String} (different : other ≠ name)
    (front back : List (String × Json)) (value : Json) :
    (front ++ (name, value) :: back).lookup other = (front ++ back).lookup other := by
  rw [List.lookup_append, List.lookup_append, List.lookup_cons, beq_false_of_ne different]

/-- Members outside of the shape do not change which slots there are, and change the value of a slot
only inside of its own shape. -/
theorem slots?_widened (distinct : (fields.map (·.1)).Nodup)
    (widened : Widened (.record fields) narrow wide) :
    Option.Rel (Aligned fields) (slots? (fields.map (·.1)) narrow)
      (slots? (fields.map (·.1)) wide) := by
  cases widened with
  | here front back value unused =>
    refine .some (aligned_map fun field listed => ?_)
    rw [lookup_append_cons_of_ne]
    · exact .same _
    · rintro rfl
      exact unused (List.mem_map_of_mem listed)
  | @member _ name shape narrow wide front back used inside =>
    refine .some (aligned_map fun field listed => ?_)
    by_cases same : field.1 = name
    · cases List.inj_on_of_nodup_map distinct listed used same
      rw [List.lookup_append, List.lookup_append, List.lookup_cons_self, List.lookup_cons_self]
      cases front.lookup name with
      | some earlier => exact .same _
      | none => exact .inside inside
    · rw [lookup_append_cons_of_ne same, lookup_append_cons_of_ne same]
      exact .same _
  | value front back used inside => exact slotsOfItems_widened used inside

/-- A reader of the values under some names keeps to their shapes if it makes the same of slots that
differ inside of these. -/
theorem keepsTo_slots? (distinct : (fields.map (·.1)).Nodup) {next : List Slot → Option α}
    (same : ∀ first second, Aligned fields first second → next first = next second) :
    KeepsTo (.record fields) fun value => (value.slots? (fields.map (·.1))).bind next := by
  intro narrow wide widened
  show (narrow.slots? (fields.map (·.1))).bind next = (wide.slots? (fields.map (·.1))).bind next
  generalize narrow.slots? (fields.map (·.1)) = first, wide.slots? (fields.map (·.1)) = second,
    slots?_widened distinct widened = related
  cases related with
  | none => rfl
  | some aligned => exact same _ _ aligned

end Json

namespace Response

open Json

def memberShape : Shape := .record [("pageid", .leaf), ("title", .leaf)]

def contentShape : Shape := .record [("content", .leaf)]

def slotsShape : Shape := .record [("main", contentShape)]

def revisionShape : Shape := .record [("revid", .leaf), ("slots", slotsShape)]

def listingShape : Shape :=
  .record [("pageid", .leaf), ("title", .leaf), ("missing", .leaf), ("invalid", .leaf),
    ("revisions", .items revisionShape)]

/-- What is looked at in the part of an answer that was asked for. -/
def queryShape : Shape :=
  .record [("categorymembers", .items memberShape), ("pages", .items listingShape)]

/-- What is looked at in the part of an answer that says how it goes on. -/
def continueShape : Shape := .record [("cmcontinue", .leaf)]

def answerShape : Shape := .record [("query", queryShape), ("continue", continueShape)]

theorem keepsTo_member : KeepsTo memberShape member? := by
  refine keepsTo_slots? (by decide) fun first second aligned => ?_
  obtain _ | ⟨pageId, _ | ⟨title, _ | _⟩⟩ := aligned
  simp only [pageId.required? (keepsTo_leaf word?), title.required? (keepsTo_leaf text?)]

theorem keepsTo_content : KeepsTo contentShape content? := by
  refine keepsTo_slots? (by decide) fun first second aligned => ?_
  obtain _ | ⟨content, _ | _⟩ := aligned
  simp only [content.required? (keepsTo_leaf text?)]

theorem keepsTo_mainContent : KeepsTo slotsShape mainContent? := by
  refine keepsTo_slots? (by decide) fun first second aligned => ?_
  obtain _ | ⟨main, _ | _⟩ := aligned
  simp only [main.optional? keepsTo_content]

theorem keepsTo_revision : KeepsTo revisionShape revision? := by
  refine keepsTo_slots? (by decide) fun first second aligned => ?_
  obtain _ | ⟨number, _ | ⟨slots, _ | _⟩⟩ := aligned
  simp only [number.optional? (keepsTo_leaf word?), slots.optional? keepsTo_mainContent]

theorem keepsTo_listing : KeepsTo listingShape listing? := by
  refine keepsTo_slots? (by decide) fun first second aligned => ?_
  obtain _ | ⟨pageId, _ | ⟨title, _ | ⟨missing, _ | ⟨invalid, _ | ⟨revisions, _ | _⟩⟩⟩⟩⟩ := aligned
  simp only [pageId.optional? (keepsTo_leaf word?), title.required? (keepsTo_leaf text?),
    missing.optional? (keepsTo_leaf truth?), invalid.optional? (keepsTo_leaf truth?),
    revisions.defaulted? keepsTo_revision.list? []]

theorem keepsTo_query : KeepsTo queryShape query? := by
  refine keepsTo_slots? (by decide) fun first second aligned => ?_
  obtain _ | ⟨members, _ | ⟨pages, _ | _⟩⟩ := aligned
  simp only [members.defaulted? keepsTo_member.list? [], pages.defaulted? keepsTo_listing.list? []]

theorem keepsTo_token : KeepsTo continueShape token? := by
  refine keepsTo_slots? (by decide) fun first second aligned => ?_
  obtain _ | ⟨token, _ | _⟩ := aligned
  simp only [token.optional? (keepsTo_leaf text?)]

theorem keepsTo_answer : KeepsTo answerShape answer? := by
  refine keepsTo_slots? (by decide) fun first second aligned => ?_
  obtain _ | ⟨query, _ | ⟨continuation, _ | _⟩⟩ := aligned
  simp only [query.defaulted? keepsTo_query ([], []),
    continuation.defaulted? keepsTo_token.nullable? none]

/-- The members in an answer and the token with which their listing goes on. -/
def batchOf? (answer : Json) : Option (List Member × Option String) :=
  (answer? answer).map fun answer => (answer.members, answer.token)

/-- The page in an answer, or none where it is missing. -/
def pageOf? (answer : Json) : Option (Option Page) :=
  (answer? answer).map fun answer => answer.pages.head?.bind (·.page?)

end Response

namespace Client

open Http Response

/-- What the client takes for the page of an answer. -/
theorem page_eq (options : ClientOptions) (title : String) (session : Session) :
    page options title session =
      match ask options (pageQuestion title) session with
      | (.error failure, session) => (.error failure, session)
      | (.ok payload, session) =>
        match pageOf? payload with
        | none => (.error (.badPage title), session)
        | some page => (.ok page, session) := by
  rw [page]
  rcases ask options (pageQuestion title) session with ⟨failure | payload, after⟩
  · rfl
  · simp only [pageOf?]
    cases answer? payload <;> rfl

/-- What the client takes for the batch of an answer. -/
theorem membersFrom_eq (options : ClientOptions) (category : String) (token : Option String)
    (session : Session) :
    membersFrom options category token session =
      match ask options (membersQuestion category token) session with
      | (.error failure, session) => (.error failure, session)
      | (.ok payload, session) =>
        match batchOf? payload with
        | none => (.error .badMembers, session)
        | some (members, none) => (.ok members, session)
        | some (members, some token) =>
          let (others, session) := membersFrom options category (some token) session
          (others.map (members ++ ·), session) := by
  rw [membersFrom]
  rcases ask options (membersQuestion category token) session with ⟨failure | payload, after⟩
  · rfl
  · simp only [batchOf?]
    rcases answer? payload with _ | ⟨members, pages, _ | next⟩
    · rfl
    · rfl
    · simp only [Option.map_some]
      rcases membersFrom options category (some next) after with ⟨failure | others, last⟩ <;> rfl

end Client

namespace Response

open Json

/-- Answers that differ in members which nothing reads, at whatever depth, hold the same batch and
the same page, or both cannot be read. -/
theorem readings_eq_of_alike {left right : Json} (alike : Alike answerShape left right) :
    batchOf? left = batchOf? right ∧ pageOf? left = pageOf? right := by
  have same : answer? left = answer? right := keepsTo_answer.alike alike
  constructor
  · rw [batchOf?, batchOf?, same]
  · rw [pageOf?, pageOf?, same]

/-- An answer with one page, and with some more members of the page and of its main slot. -/
def sampleAnswer (ofPage ofSlot : List (String × Json)) : Json :=
  .object [("query", .object [("pages", .list [.object
    (ofPage ++ [("pageid", .whole 42), ("title", .text "Alpha"),
      ("revisions", .list [.object [("slots", .object [("main", .object
        (ofSlot ++ [("content", .text "x")]))])]])])])])]

/-- A member of the page taken away, and one added to the slot that holds its content. -/
theorem readings_eq_of_alike_sample :
    Alike answerShape (sampleAnswer [("ns", .whole 0)] [])
        (sampleAnswer [] [("contentmodel", .text "wikitext")]) ∧
      pageOf? (sampleAnswer [] [("contentmodel", .text "wikitext")]) =
        some (some { title := "Alpha", pageId := 42, revision := none, content := "x" }) := by
  have fewer : Alike answerShape (sampleAnswer [("ns", .whole 0)] []) (sampleAnswer [] []) := by
    refine .symm _ _ (.rel _ _ ?_)
    refine .member [] [] (List.Mem.head _) ?_
    refine .member [] [] (List.Mem.tail _ (List.Mem.head _)) ?_
    exact .item [] [] (.here [] _ (.whole 0) (by decide))
  have more : Alike answerShape (sampleAnswer [] [])
      (sampleAnswer [] [("contentmodel", .text "wikitext")]) := by
    refine .rel _ _ ?_
    refine .member [] [] (List.Mem.head _) ?_
    refine .member [] [] (List.Mem.tail _ (List.Mem.head _)) ?_
    refine .item [] [] (.member [("pageid", .whole 42), ("title", .text "Alpha")] []
      (List.mem_of_getElem? (i := 4) rfl) ?_)
    refine .item [] [] (.member [] [] (List.Mem.tail _ (List.Mem.head _)) ?_)
    exact .member [] [] (List.Mem.head _) (.here [] _ (.text "wikitext") (by decide))
  have alike := fewer.trans _ _ _ more
  have read := (readings_eq_of_alike alike).2
  refine ⟨alike, read.symm.trans ?_⟩
  decide +kernel

end Response

end SaveManifest
