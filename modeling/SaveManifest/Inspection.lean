import SaveManifest.Path.Applicability
import SaveManifest.Path.Denylist
import SaveManifest.Path.Resolution

/-!
# Inspection of one path

What becomes of a single path of a page, step by step: where it leads, whether that is too broad,
where it applies, and which of its placeholders are unknown. It goes through the same judgements
as extraction, but tells of all of them.
-/

namespace SaveManifest

structure Inspection where
  raw : String
  resolved : Option Path.Resolved := none
  constraint : Option Constraint := none
  tooBroad : Bool := false
  unknownTokens : List String := []
  error : Option PathError := none
deriving DecidableEq, Repr

namespace Inspection

/-- Where a path applies: as its system column says, or as its own placeholders say where there
is no system column. -/
def constraintOf (system : Option String) (raw : String) : Except PathError Constraint :=
  match system with
  | some system => Path.systemConstraint system raw
  | none => .ok (Path.markerConstraint raw)

def ofPath (denylist : Path.Denylist) (system : Option String) (raw : String) : Inspection :=
  let unknownTokens := Path.unknownTokens raw
  match Path.resolve raw with
  | .error error => { raw, unknownTokens, error := some error }
  | .ok resolved =>
    let inspection : Inspection := {
      raw
      resolved := some resolved
      tooBroad := Path.isTooBroad resolved.path denylist
      unknownTokens }
    match constraintOf system raw with
    | .ok constraint => { inspection with constraint := some constraint }
    | .error error => { inspection with error := some error }

end Inspection

end SaveManifest
