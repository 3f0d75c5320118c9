import SaveManifest.Proofs.Storage

/-!
# The manifest in its file

Constraints, entries and records are read as they were written, whatever was left out because it
is empty, and so is the manifest: its text is that of a document (`Manifest.ofText?_toText`), and
the file that was saved is loaded again (`Manifest.load_save`).
-/

namespace SaveManifest

open SaveManifest.Yaml

variable {document : Document}

theorem readConstraint?_toYaml (constraint : Constraint) :
    Constraint.ofYaml? document constraint.toYaml.node = some constraint := by
  obtain ⟨os, store⟩ := constraint
  rw [Constraint.ofYaml?, Constraint.toYaml, Document.readPairs?_node]
  cases os <;> cases store <;>
    simp [Document.readField?, Document.readOptional?_text, Document.readName?_node]

theorem ofYaml?_toYaml_entry (entry : Entry) :
    Entry.ofYaml? document entry.toYaml.node = some entry := by
  obtain ⟨constraints, tags⟩ := entry
  have constraintsRead := @Document.readList?_node document _ _ _
    (@readConstraint?_toYaml document) constraints
  have tagsRead := @Document.readList?_node document _
    (fun node => (document.readName? node).bind Tag.ofName?) (fun tag : Tag => .text tag.name)
    (fun tag => by simp [Document.readName?_node]) tags
  have fields : Entry.toYaml ⟨constraints, tags⟩ = .map (Document.fieldsOf [
      ("when", constraints.isEmpty, .list (constraints.map (·.toYaml))),
      ("tags", tags.isEmpty, .list (tags.map fun tag => .text tag.name))]) := by
    simp [Entry.toYaml, Document.fieldsOf]
  rw [Entry.ofYaml?, fields, Document.readPairs?_node]
  simp only [Option.bind_eq_bind, Option.bind_some]
  rw [Document.readField?_fieldsOf (by simp) (List.mem_cons_self), constraintsRead,
    Document.readField?_fieldsOf (by simp) (List.mem_cons_of_mem _ List.mem_cons_self), tagsRead]
  cases constraints <;> cases tags <;> rfl

theorem steamOfYaml?_steamYaml (id : UInt32) :
    Record.steamOfYaml? document (Record.steamYaml id).node = some id := by
  rw [Record.steamOfYaml?, Record.steamYaml, Document.readPairs?_node]
  simp [Document.readField?, Document.readNumber?_node id.toNat_lt_size]

theorem ofYaml?_toYaml_record (record : Record) :
    Record.ofYaml? document record.toYaml.node = some record := by
  obtain ⟨steam, files, registry⟩ := record
  have pathsRead : ∀ catalog : Catalog Entry,
      (if catalog.isEmpty then some {} else
        document.readCatalog? (Entry.ofYaml? document) (Record.pathsYaml catalog).node) =
          some catalog := by
    intro catalog
    split
    · next none => exact congrArg some (Catalog.entries_injective (List.isEmpty_iff.1 none).symm)
    · exact Document.readCatalog?_node (@ofYaml?_toYaml_entry document) catalog
  have steamRead : ∀ id, document.readOptional? (Record.steamOfYaml? document)
      (Record.steamYaml id).node = some (some id) := by
    intro id
    rw [Record.steamYaml, Document.readOptional?_map, ← Record.steamYaml, steamOfYaml?_steamYaml]
    rfl
  have fields : Record.toYaml ⟨steam, files, registry⟩ = .map (Document.fieldsOf [
      ("steam", steam.isNone, Record.steamYaml (steam.getD 0)),
      ("files", files.isEmpty, Record.pathsYaml files),
      ("registry", registry.isEmpty, Record.pathsYaml registry)]) := by
    cases steam <;> simp [Record.toYaml, Document.fieldsOf, Value.field]
  rw [Record.ofYaml?, fields, Document.readPairs?_node]
  simp only [Option.bind_eq_bind, Option.bind_some]
  rw [Document.readField?_fieldsOf (by simp) List.mem_cons_self, steamRead,
    Document.readField?_fieldsOf (by simp) (List.mem_cons_of_mem _ List.mem_cons_self),
    Document.readField?_fieldsOf (by simp)
      (List.mem_cons_of_mem _ (List.mem_cons_of_mem _ List.mem_cons_self)), pathsRead, pathsRead]
  cases steam <;> rfl

namespace Manifest

/-- The text of a manifest is read as the manifest. -/
theorem ofText?_toText (manifest : Manifest) : ofText? manifest.toText = some manifest := by
  rw [ofText?, toText, isBlankText_print, if_neg Bool.false_ne_true, Document.ofText?_print]
  exact Document.readCatalog?_node (@ofYaml?_toYaml_record _) manifest

/-- A manifest that was saved is loaded again, whatever its titles, paths and records are. -/
theorem load_save (manifest : Manifest) (directory path : String) (files after : FileSystem)
    (saved : manifest.save directory path files = (.ok (), after)) :
    Manifest.load after path = .ok manifest :=
  Storage.load_of_save manifest.ofText?_toText saved

/-- Titles that look like a number, a null and a comment of two lines; an empty record, and an entry
with a constraint that binds nothing. -/
def oddTitles : Manifest :=
  Catalog.ofList [
    ("007", { steam := some 7 }),
    ("~", {}),
    ("# one\ntwo", { files := Catalog.ofList [(" C:/saves ", { constraints := [{}] })] })]

theorem load_save_oddTitles :
    (oddTitles.save "/data" "/data/manifest.yaml" { nodes := {}, current := [] }).1 = .ok () ∧
      Manifest.load (oddTitles.save "/data" "/data/manifest.yaml" { nodes := {}, current := [] }).2
        "/data/manifest.yaml" = .ok oddTitles := by
  have saved : (oddTitles.save "/data" "/data/manifest.yaml" { nodes := {}, current := [] }).1 =
      .ok () := rfl
  exact ⟨saved, load_save oddTitles "/data" "/data/manifest.yaml" { nodes := {}, current := [] } _
    (Prod.ext saved rfl)⟩

end Manifest

end SaveManifest
