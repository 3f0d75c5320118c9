import SaveManifest.Proofs.Catalog
import SaveManifest.Proofs.Yaml.Nodes
import SaveManifest.Yaml.Decode

/-!
# Values read back

Each way of reading a node undoes the way of writing that goes with it: texts, numbers, names,
lists, catalogs, and the fields of records that are left out where they are empty. The nodes of a
value have no alias, so it does not matter of which document they are read.
-/

namespace SaveManifest.Yaml

variable {document : Document} {α : Type}

theorem Value.itemNodes_eq (items : List Value) : itemNodes items = items.map node := by
  induction items with
  | nil => rfl
  | cons item items ih => rw [itemNodes, ih, List.map_cons]

theorem Value.fieldNodes_eq (fields : List (String × Value)) :
    fieldNodes fields = fields.map fun (key, value) =>
      (.scalar (styleOf key.toList) none key, value.node) := by
  induction fields with
  | nil => rfl
  | cons field fields ih => rw [fieldNodes, ih, List.map_cons]

/-- The digits of a number below a bound are read as the number. -/
theorem readUnsigned?_toString {bound value : Nat} (small : value < bound) :
    readUnsigned? bound (toString value).toList = some value := by
  rcases Nat.eq_zero_or_pos value with rfl | positive
  · change (some 0).filter (· < bound) = some 0
    simp [small]
  · have read := Text.readDigits?_toString value
    have first := Text.head?_toString positive
    obtain ⟨c, others, split⟩ := List.exists_cons_of_ne_nil (Text.toList_toString_ne_nil value)
    have digit : Text.isDigit c = true :=
      @Text.isDigit_of_mem_toString c value (by rw [split]; exact List.mem_cons_self)
    rw [split] at read first ⊢
    have zero : c ≠ '0' := fun same => first (congrArg some same)
    have plus : c ≠ '+' := by
      rintro rfl
      cases digit
    have minus : c ≠ '-' := by
      rintro rfl
      cases digit
    have padded : isPaddedNumber (c :: others) = false := by
      simp [isPaddedNumber, zero, plus, minus]
    have magnitude : readMagnitude? (c :: others) = some value := by
      rw [← read]
      simp [readMagnitude?, zero]
    rw [readUnsigned?, padded, magnitude]
    · simp [small]
    · exact fun others same => plus (List.cons.inj same).1

namespace Document

theorem readPairs?_node (fields : List (String × Value)) :
    document.readPairs? (Value.map fields).node =
      some (fields.map fun (key, value) => (key, value.node)) := by
  change (Value.fieldNodes fields).mapM (fun field =>
    (document.readText? field.1).map (·, field.2)) = _
  rw [Value.fieldNodes_eq]
  induction fields with
  | nil => rfl
  | cons field fields ih =>
    obtain ⟨key, value⟩ := field
    rw [List.map_cons, List.mapM_cons, ih]
    rfl

theorem readList?_node {read : Node → Option α} {write : α → Value}
    (inverts : ∀ item, read (write item).node = some item) (items : List α) :
    document.readList? read (Value.list (items.map write)).node = some items := by
  change (Value.itemNodes (items.map write)).mapM read = some items
  rw [Value.itemNodes_eq, List.map_map]
  induction items with
  | nil => rfl
  | cons item items ih =>
    rw [List.map_cons, List.mapM_cons, ih, Function.comp_apply, inverts]
    rfl

/-- A catalog is read as it was written. -/
theorem readCatalog?_node {read : Node → Option α} {write : α → Value}
    (inverts : ∀ item, read (write item).node = some item) (catalog : Catalog α) :
    document.readCatalog? read
        (Value.map (catalog.entries.map fun ((key, item) : String × α) => (key, write item))).node =
      some catalog := by
  have entries : ∀ entries : List (String × α),
      (entries.map fun entry => (entry.1, (write entry.2).node)).mapM
        (fun pair : String × Node => (read pair.2).map (pair.1, ·)) = some entries := by
    intro entries
    induction entries with
    | nil => rfl
    | cons entry entries ih =>
      obtain ⟨key, item⟩ := entry
      rw [List.map_cons, List.mapM_cons, ih]
      simp only [inverts]
      rfl
  rw [readCatalog?, readPairs?_node, List.map_map]
  simp only [Option.bind_eq_bind, Option.bind_some]
  change ((catalog.entries.map fun entry => (entry.1, (write entry.2).node)).mapM
    (fun pair : String × Node => (read pair.2).map (pair.1, ·))).bind _ = _
  rw [entries, Option.bind_some, Catalog.ofList_entries]

theorem readNumber?_node {bound value : Nat} (small : value < bound) :
    document.readNumber? bound (Value.number value).node = some value :=
  readUnsigned?_toString small

theorem readName?_node (name : String) :
    document.readName? (Value.text name).node = some name := rfl

theorem readBool?_node (value : Bool) :
    document.readBool? (Value.bool value).node = some value := by
  cases value <;> rfl

/-- A text is never taken for a null: it would have been quoted. -/
theorem readOptional?_text (read : Node → Option α) (text : String) :
    document.readOptional? read (Value.text text).node =
      (read (Value.text text).node).map some := by
  have node : (Value.text text).node = .scalar (styleOf text.toList) none text := rfl
  rw [node]
  rcases styleOf_cases text.toList with ⟨style, -, bare⟩ | ⟨style, -⟩ | style | ⟨style, -⟩
  · have null : (text.isEmpty || isNull text.toList) = false := by
      simp only [needsQuotes, Bool.or_eq_false_iff] at bare
      have empty : text.isEmpty = text.toList.isEmpty := by
        rw [Bool.eq_iff_iff, String.isEmpty_iff, List.isEmpty_iff, String.toList_eq_nil_iff]
      rw [empty, bare.1.1.1.1.1, bare.1.1.1.1.2]
      rfl
    rw [style]
    change (if text.isEmpty || isNull text.toList then some none else _) = _
    rw [null]
    rfl
  all_goals
    rw [style]
    rfl

theorem readOptional?_map (read : Node → Option α) (fields : List (String × Value)) :
    document.readOptional? read (Value.map fields).node =
      (read (Value.map fields).node).map some := rfl

theorem readOptional?_null (read : Node → Option α) :
    document.readOptional? read Value.null.node = some none := rfl

/-- A number is never taken for a null: it begins with a digit. -/
theorem readOptional?_number (read : Node → Option α) (value : Nat) :
    document.readOptional? read (Value.number value).node =
      (read (Value.number value).node).map some := by
  obtain ⟨c, others, split⟩ := List.exists_cons_of_ne_nil (Text.toList_toString_ne_nil value)
  have digit : Text.isDigit c = true :=
    @Text.isDigit_of_mem_toString c value (by rw [split]; exact List.mem_cons_self)
  have apart : c ≠ '~' ∧ c ≠ 'n' ∧ c ≠ 'N' := by
    refine ⟨?_, ?_, ?_⟩ <;> (rintro rfl; cases digit)
  have null : isNull (toString value).toList = false := by
    rw [split]
    simp [isNull, apart]
  have visible : (toString value).isEmpty = false := by
    rw [Bool.eq_false_iff, ne_eq, String.isEmpty_iff, ← String.toList_eq_nil_iff]
    exact Text.toList_toString_ne_nil value
  change (if (toString value).isEmpty || isNull (toString value).toList then some none else _) = _
  rw [visible, null]
  rfl

/-! ### Fields of records -/

variable {name : String} {absent : Option α} {read : Node → Option α} {value : Value}
  {isEmpty : Bool} {slots : List (String × Bool × Value)}

/-- The fields of a record: for each slot its name, whether it is left out, and its value. -/
def fieldsOf (slots : List (String × Bool × Value)) : List (String × Value) :=
  slots.flatMap fun (name, isEmpty, value) => Value.field name isEmpty value

/-- The fields of a record that have a name. -/
def named (name : String) (slots : List (String × Bool × Value)) : List (String × Node) :=
  ((fieldsOf slots).map fun (key, value) => (key, value.node)).filter fun pair => pair.1 == name

theorem named_cons_self :
    named name ((name, isEmpty, value) :: slots) =
      (if isEmpty then [] else [(name, value.node)]) ++ named name slots := by
  cases isEmpty <;> simp [named, fieldsOf, Value.field]

theorem named_cons_of_ne {other : String} (different : other ≠ name) :
    named name ((other, isEmpty, value) :: slots) = named name slots := by
  cases isEmpty <;> simp [named, fieldsOf, Value.field, different]

theorem named_of_not_mem (fresh : name ∉ slots.map (·.1)) : named name slots = [] := by
  induction slots with
  | nil => rfl
  | cons slot slots ih =>
    obtain ⟨other, isEmpty, value⟩ := slot
    rw [List.map_cons, List.mem_cons, not_or] at fresh
    rw [named_cons_of_ne (Ne.symm fresh.1), ih fresh.2]

/-- A field is found if it was written, and it is written unless it is empty. -/
theorem readField?_fieldsOf (distinct : (slots.map (·.1)).Nodup)
    (member : (name, isEmpty, value) ∈ slots) :
    readField? ((fieldsOf slots).map fun (key, value) => (key, value.node)) name absent read =
      if isEmpty then absent else read value.node := by
  have only : named name slots = if isEmpty then [] else [(name, value.node)] := by
    induction slots with
    | nil => cases member
    | cons slot slots ih =>
      obtain ⟨fresh, later⟩ := List.nodup_cons.1 distinct
      rcases List.mem_cons.1 member with rfl | behind
      · rw [named_cons_self, named_of_not_mem fresh, List.append_nil]
      · obtain ⟨other, empty, found⟩ := slot
        have different : other ≠ name := by
          rintro rfl
          exact fresh (List.mem_map.2 ⟨_, behind, rfl⟩)
        rw [named_cons_of_ne different, ih later behind]
  rw [named] at only
  rw [readField?, only]
  cases isEmpty <;> rfl

end Document

end SaveManifest.Yaml
