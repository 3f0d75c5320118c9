import SaveManifest.Cache
import SaveManifest.Yaml.Decode
import SaveManifest.Yaml.Printer

/-!
# The file of the cache

The cache as a YAML document: a map from titles to entries. The revision is always written, as a
null for a pending page; a flag only where it is set. A file of white space holds no page.
-/

namespace SaveManifest

open SaveManifest.Yaml

/-- A flag as a field of an entry, left out where it is not set. -/
def CacheEntry.flagField (name : String) (flag : Bool) : List (String × Value) :=
  Value.field name (!flag) (.bool true)

def CacheEntry.toYaml (entry : CacheEntry) : Value :=
  .map ([("pageId", .number entry.pageId.toNat),
      ("revId", (entry.revision.map fun revision => Value.number revision.toNat).getD .null)] ++
    flagField "unsupportedOs" entry.unsupportedOs ++
    flagField "unsupportedPath" entry.unsupportedPath ++ flagField "tooBroad" entry.tooBroad)

/-- An entry as it is read. Fields it does not know are passed over. -/
def CacheEntry.ofYaml? (document : Document) (node : Node) : Option CacheEntry := do
  let fields ← document.readPairs? node
  let word (node : Node) : Option UInt64 :=
    (document.readNumber? UInt64.size node).map UInt64.ofNat
  some {
    pageId := ← Document.readField? fields "pageId" none word
    revision := ← Document.readField? fields "revId" (some none) (document.readOptional? word)
    unsupportedOs :=
      ← Document.readField? fields "unsupportedOs" (some false) document.readBool?
    unsupportedPath :=
      ← Document.readField? fields "unsupportedPath" (some false) document.readBool?
    tooBroad := ← Document.readField? fields "tooBroad" (some false) document.readBool? }

namespace Cache

def toText (cache : Cache) : String :=
  Yaml.print (.map (cache.entries.map fun (title, entry) => (title, entry.toYaml)))

def ofText? (text : String) : Option Cache :=
  if Text.isBlankText text then some {}
  else do
    let document ← Document.ofText? text
    document.readCatalog? (CacheEntry.ofYaml? document) document.root

end Cache

end SaveManifest
