/-!
# Ranges of case pairs

Unicode lists its case mappings character by character, but they come in runs: neighbouring
characters, or every second one, are moved by the same distance. A `CaseRange` is such a run,
and a table of runs is a function on characters.
-/

namespace SaveManifest.Text

/-- The characters `first`, `first + stride`, … up to `last`, each mapped `shift` further. -/
structure CaseRange where
  first : Nat
  last : Nat
  stride : Nat
  shift : Int
deriving DecidableEq, Repr

def CaseRange.covers (range : CaseRange) (point : Nat) : Bool :=
  range.first ≤ point && point ≤ range.last && (point - range.first) % range.stride == 0

/-- The image of a character under the first run that covers it, if one does. -/
def mapped? (table : List CaseRange) (c : Char) : Option Char :=
  (table.find? (·.covers c.toNat)).map fun range => Char.ofNat ((c.toNat : Int) + range.shift).toNat

end SaveManifest.Text
