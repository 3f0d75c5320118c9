import SaveManifest.Manifest
import SaveManifest.Text.Blank
import SaveManifest.Yaml.Decode
import SaveManifest.Yaml.Printer

/-!
# The file of the manifest

The manifest as a YAML document: a map from titles to records. Whatever is empty or absent in a
record is left out. A file of white space holds no game.
-/

namespace SaveManifest

open SaveManifest.Yaml

def Constraint.toYaml (constraint : Constraint) : Value :=
  .map ((constraint.os.map fun os => ("os", Value.text os.name)).toList ++
    (constraint.store.map fun store => ("store", Value.text store.name)).toList)

def Constraint.ofYaml? (document : Document) (node : Node) : Option Constraint := do
  let fields ← document.readPairs? node
  some {
    os := ← Document.readField? fields "os" (some none)
      (document.readOptional? fun node => (document.readName? node).bind Os.ofName?)
    store := ← Document.readField? fields "store" (some none)
      (document.readOptional? fun node => (document.readName? node).bind Store.ofName?) }

def Entry.toYaml (entry : Entry) : Value :=
  .map (Value.field "when" entry.constraints.isEmpty (.list (entry.constraints.map (·.toYaml))) ++
    Value.field "tags" entry.tags.isEmpty (.list (entry.tags.map fun tag => .text tag.name)))

def Entry.ofYaml? (document : Document) (node : Node) : Option Entry := do
  let fields ← document.readPairs? node
  some {
    constraints := ← Document.readField? fields "when" (some [])
      (document.readList? (Constraint.ofYaml? document))
    tags := ← Document.readField? fields "tags" (some [])
      (document.readList? fun node => (document.readName? node).bind Tag.ofName?) }

namespace Record

def steamYaml (id : UInt32) : Value := .map [("id", .number id.toNat)]

def steamOfYaml? (document : Document) (node : Node) : Option UInt32 := do
  let fields ← document.readPairs? node
  Document.readField? fields "id" none fun node =>
    (document.readNumber? UInt32.size node).map UInt32.ofNat

def pathsYaml (paths : Catalog Entry) : Value :=
  .map (paths.entries.map fun (path, entry) => (path, entry.toYaml))

def toYaml (record : Record) : Value :=
  .map ((record.steam.map fun id => ("steam", steamYaml id)).toList ++
    Value.field "files" record.files.isEmpty (pathsYaml record.files) ++
    Value.field "registry" record.registry.isEmpty (pathsYaml record.registry))

def ofYaml? (document : Document) (node : Node) : Option Record := do
  let fields ← document.readPairs? node
  let paths := document.readCatalog? (Entry.ofYaml? document)
  some {
    steam := ← Document.readField? fields "steam" (some none)
      (document.readOptional? (steamOfYaml? document))
    files := ← Document.readField? fields "files" (some {}) paths
    registry := ← Document.readField? fields "registry" (some {}) paths }

end Record

namespace Manifest

def toText (manifest : Manifest) : String :=
  Yaml.print (.map (manifest.entries.map fun (title, record) => (title, record.toYaml)))

def ofText? (text : String) : Option Manifest :=
  if Text.isBlankText text then some {}
  else do
    let document ← Document.ofText? text
    document.readCatalog? (Record.ofYaml? document) document.root

end Manifest

end SaveManifest
