/-!
# Letters and digits of ASCII

Comparison that ignores the case of ASCII letters alone, and the decimal, octal, binary and
hexadecimal digits. Other letters are compared as they are: `É` and `é` differ here.

`sameIgnoringCase` is an equivalence, since it compares the images under `lower`.
-/

namespace SaveManifest.Text

/-- The lower-case form of an ASCII capital; every other character stays. -/
def lower (c : Char) : Char := if 'A' ≤ c ∧ c ≤ 'Z' then Char.ofNat (c.toNat + 32) else c

def lowered (text : List Char) : List Char := text.map lower

def sameIgnoringCase (left right : String) : Bool := lowered left.toList == lowered right.toList

theorem sameIgnoringCase_iff (left right : String) :
    sameIgnoringCase left right = true ↔ lowered left.toList = lowered right.toList := by
  simp [sameIgnoringCase]

def isDigit (c : Char) : Bool := '0' ≤ c && c ≤ '9'

def isLetter (c : Char) : Bool := ('a' ≤ c && c ≤ 'z') || ('A' ≤ c && c ≤ 'Z')

/-- The value of a digit in a base of at most sixteen, letters in either case. -/
def digitValue? (base : Nat) (c : Char) : Option Nat :=
  let value :=
    if isDigit c then some (c.toNat - 48)
    else if 'a' ≤ c ∧ c ≤ 'f' then some (c.toNat - 87)
    else if 'A' ≤ c ∧ c ≤ 'F' then some (c.toNat - 55)
    else none
  value.filter (· < base)

end SaveManifest.Text
