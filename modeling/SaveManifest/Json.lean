/-!
# JSON values

The values of JSON. Numbers without a fraction and an exponent that fit in 64 bits are kept; of
all other numbers only that they are numbers. An object lists its members with distinct names.
-/

namespace SaveManifest

inductive Json where
  | null
  | truth (value : Bool)
  | whole (value : Int)
  | fraction
  | text (value : String)
  | list (items : List Json)
  | object (members : List (String × Json))

namespace Json

/-- The members with one put under a name, in place of an older one. -/
def setMember (name : String) (value : Json) : List (String × Json) → List (String × Json)
  | [] => [(name, value)]
  | (other, old) :: members =>
    if other = name then (name, value) :: members
    else (other, old) :: setMember name value members

def member? (name : String) : Json → Option Json
  | object members => members.lookup name
  | _ => none

def text? : Json → Option String
  | text value => some value
  | _ => none

/-- A number from zero up to the bound of 64 bits. -/
def word? : Json → Option UInt64
  | whole (.ofNat value) => if value < UInt64.size then some (UInt64.ofNat value) else none
  | _ => none

def truth? : Json → Option Bool
  | truth value => some value
  | _ => none

def items? : Json → Option (List Json)
  | list items => some items
  | _ => none

def natural (value : Nat) : Json := whole value

/-- A value that may be absent, which is written as null. -/
def orNull {α : Type} (encode : α → Json) : Option α → Json
  | some value => encode value
  | none => null

end Json

end SaveManifest
