import SaveManifest.Proofs.Storage

/-!
# The cache in its file

An entry is read as it was written: a revision that is absent is a null, and one that is zero is the
number zero, so a pending page stays pending and a processed one stays processed. A flag that is
left out is read as not set. So the text of a cache is that of a document which holds the cache
(`Cache.ofText?_toText`), and the file that was saved is loaded again (`Cache.load_saved`).
-/

namespace SaveManifest

open SaveManifest.Yaml

variable {document : Document}

/-- A word of 64 bits is read from its digits. -/
theorem readWord?_node (word : UInt64) :
    (document.readNumber? UInt64.size (Value.number word.toNat).node).map UInt64.ofNat =
      some word := by
  rw [Document.readNumber?_node word.toNat_lt_size, Option.map_some, UInt64.ofNat_toNat]

namespace CacheEntry

/-- The revision as it is written: a null where there is none. -/
def revisionYaml (revision : Option UInt64) : Value :=
  (revision.map fun revision => Value.number revision.toNat).getD .null

theorem readRevision?_node (revision : Option UInt64) :
    document.readOptional?
        (fun node => (document.readNumber? UInt64.size node).map UInt64.ofNat)
        (revisionYaml revision).node = some revision := by
  cases revision with
  | none => exact Document.readOptional?_null _
  | some word =>
    change document.readOptional? _ (Value.number word.toNat).node = _
    rw [Document.readOptional?_number, readWord?_node]
    rfl

/-- A flag is read as it was, whether it was written or left out. -/
theorem readFlag?_node (flag : Bool) :
    (if (!flag) = true then some false else document.readBool? (Value.bool true).node) =
      some flag := by
  cases flag with
  | false => rfl
  | true => exact Document.readBool?_node true

/-- The fields of an entry: two that always stand, and three flags that may be left out. -/
def slots (entry : CacheEntry) : List (String × Bool × Value) := [
  ("pageId", false, .number entry.pageId.toNat),
  ("revId", false, revisionYaml entry.revision),
  ("unsupportedOs", !entry.unsupportedOs, .bool true),
  ("unsupportedPath", !entry.unsupportedPath, .bool true),
  ("tooBroad", !entry.tooBroad, .bool true)]

theorem toYaml_eq (entry : CacheEntry) : entry.toYaml = .map (Document.fieldsOf entry.slots) := by
  simp [toYaml, flagField, Document.fieldsOf, slots, Value.field, revisionYaml]

theorem ofYaml?_toYaml (entry : CacheEntry) :
    ofYaml? document entry.toYaml.node = some entry := by
  have distinct : (entry.slots.map (·.1)).Nodup := by simp [slots]
  have pageId : ("pageId", false, Value.number entry.pageId.toNat) ∈ entry.slots := by
    simp [slots]
  have revision : ("revId", false, revisionYaml entry.revision) ∈ entry.slots := by
    simp [slots]
  have os : ("unsupportedOs", !entry.unsupportedOs, Value.bool true) ∈ entry.slots := by
    simp [slots]
  have path : ("unsupportedPath", !entry.unsupportedPath, Value.bool true) ∈ entry.slots := by
    simp [slots]
  have broad : ("tooBroad", !entry.tooBroad, Value.bool true) ∈ entry.slots := by
    simp [slots]
  rw [ofYaml?, toYaml_eq, Document.readPairs?_node]
  simp only [Option.bind_eq_bind, Option.bind_some]
  rw [Document.readField?_fieldsOf distinct pageId, Document.readField?_fieldsOf distinct revision,
    Document.readField?_fieldsOf distinct os, Document.readField?_fieldsOf distinct path,
    Document.readField?_fieldsOf distinct broad, readFlag?_node, readFlag?_node, readFlag?_node,
    if_neg Bool.false_ne_true, if_neg Bool.false_ne_true, readWord?_node, readRevision?_node]
  rfl

end CacheEntry

namespace Cache

/-- The text of a cache is read as the cache. -/
theorem ofText?_toText (cache : Cache) : ofText? cache.toText = some cache := by
  rw [ofText?, toText, isBlankText_print, if_neg Bool.false_ne_true, Document.ofText?_print]
  exact Document.readCatalog?_node (@CacheEntry.ofYaml?_toYaml _) cache

/-- A cache that was saved is loaded again, whatever its titles and entries are. -/
theorem load_saved (cache : Cache) (directory path : String) (files after : FileSystem)
    (saved : cache.save directory path files = (.ok (), after)) :
    Cache.load after path = .ok cache :=
  Storage.load_of_save cache.ofText?_toText saved

/-- Titles that look like a truth value, a number and an entry of their own: one page is pending, one
was processed at revision zero, and one has the greatest id and revision and all flags. -/
def oddPages : Cache :=
  Catalog.ofList [
    ("true", { pageId := 5 }),
    ("0x1F", { pageId := 0, revision := some 0 }),
    ("a: b\n- c", {
      pageId := 18446744073709551615, revision := some 18446744073709551615,
      unsupportedOs := true, unsupportedPath := true, tooBroad := true })]

theorem load_saved_oddPages :
    (oddPages.save "/data" "/data/cache.yaml" { nodes := {}, current := [] }).1 = .ok () ∧
      Cache.load (oddPages.save "/data" "/data/cache.yaml" { nodes := {}, current := [] }).2
        "/data/cache.yaml" = .ok oddPages := by
  have saved : (oddPages.save "/data" "/data/cache.yaml" { nodes := {}, current := [] }).1 =
      .ok () := rfl
  exact ⟨saved, load_saved oddPages "/data" "/data/cache.yaml" { nodes := {}, current := [] } _
    (Prod.ext saved rfl)⟩

end Cache

end SaveManifest
