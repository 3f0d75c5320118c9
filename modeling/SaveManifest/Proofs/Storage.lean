import SaveManifest.Proofs.FileSystem
import SaveManifest.Proofs.Yaml.Decoding
import SaveManifest.Storage

/-!
# Saved and loaded again

What the files of the cache and of the manifest have in common. A map is never written as white
space alone (`isBlankText_print`), so the text of a file is always read as a document; and
loading reads the text that was saved (`Storage.load_of_save`).
-/

namespace SaveManifest

namespace Yaml

theorem colon_mem_mapLines (indent : Nat) (field : String × Value)
    (fields : List (String × Value)) : ':' ∈ mapLines indent (field :: fields) := by
  obtain ⟨key, value⟩ := field
  have inside : ':' ∈ (if isSimpleKey key.toList then
      scalarLines (indent + 2) key.toList ++ ':' :: valueLines indent value
      else endLine ('?' :: ' ' :: scalarLines (indent + 2) key.toList) ++ pad indent ++
        ':' :: itemLines indent value) := by
    split <;> simp
  rw [mapLines]
  split
  · exact inside
  · exact List.mem_append_left _ (List.mem_append_left _ (mem_endLine inside))

/-- A map is never written as white space alone: there is a brace or a colon in it. -/
theorem isBlankText_print (fields : List (String × Value)) :
    Text.isBlankText (print (.map fields)) = false := by
  obtain ⟨c, member, visible⟩ : ∃ c ∈ (Value.map fields).content 0 2, Text.isBlank c = false := by
    cases fields with
    | nil => exact ⟨'{', List.mem_cons_self, by decide⟩
    | cons field fields => exact ⟨':', colon_mem_mapLines 0 field fields, by decide⟩
  rw [Text.isBlankText, Value.print_eq, String.toList_ofList, List.all_eq_false]
  exact ⟨c, mem_endLine member, by rw [visible]; exact Bool.false_ne_true⟩

end Yaml

/-- Loading reads the text that was saved. -/
theorem Storage.load_of_save {α : Type} {read? : String → Option α} {absent value : α}
    {text directory path : String} {files after : FileSystem} (reads : read? text = some value)
    (saved : Storage.save text directory path files = (.ok (), after)) :
    Storage.load read? absent after path = .ok value := by
  unfold Storage.save at saved
  split at saved
  · cases saved
  · split at saved
    · cases saved
    · next created written =>
      cases saved
      rw [Storage.load, FileSystem.fileExists_write written, FileSystem.read?_write written]
      simp [reads]

end SaveManifest
