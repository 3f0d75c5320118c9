/-!
# Constraints

Where a path applies: on one operating system, in one store, on both axes, or anywhere.
-/

namespace SaveManifest

inductive Os where
  | windows
  | mac
  | linux
  | dos
deriving DecidableEq, Repr

inductive Store where
  | steam
  | gog
  | epic
  | uplay
  | microsoft
deriving DecidableEq, Repr

def Os.name : Os → String
  | windows => "windows"
  | mac => "mac"
  | linux => "linux"
  | dos => "dos"

def Os.all : List Os := [.windows, .mac, .linux, .dos]

def Os.ofName? (name : String) : Option Os := Os.all.find? (·.name == name)

def Store.name : Store → String
  | steam => "steam"
  | gog => "gog"
  | epic => "epic"
  | uplay => "uplay"
  | microsoft => "microsoft"

def Store.all : List Store := [.steam, .gog, .epic, .uplay, .microsoft]

def Store.ofName? (name : String) : Option Store := Store.all.find? (·.name == name)

@[simp] theorem Os.ofName?_name (os : Os) : Os.ofName? os.name = some os := by
  cases os <;> decide

@[simp] theorem Store.ofName?_name (store : Store) : Store.ofName? store.name = some store := by
  cases store <;> decide

/-- Where a path applies; an absent axis means anywhere. -/
structure Constraint where
  os : Option Os := none
  store : Option Store := none
deriving DecidableEq, Repr

namespace Constraint

def isUnconstrained (constraint : Constraint) : Bool :=
  constraint.os.isNone && constraint.store.isNone

/-- The constraint in words: `windows+steam`, one name, or `any`. -/
def describe : Constraint → String
  | ⟨some os, some store⟩ => os.name ++ "+" ++ store.name
  | ⟨some os, none⟩ => os.name
  | ⟨none, some store⟩ => store.name
  | ⟨none, none⟩ => "any"

end Constraint

end SaveManifest
