import SaveManifest.Text.Ascii

/-!
# Reading whole numbers

Unsigned numbers below a bound, written in digits of a base with an optional plus sign in
front. Nothing else is accepted: no blanks, no separators, no minus sign, no empty digits.
-/

namespace SaveManifest.Text

/-- The number a non-empty row of digits denotes, most significant digit first. -/
def readDigits? (base : Nat) : List Char → Option Nat
  | [] => none
  | digits => digits.foldlM (fun value c => (digitValue? base c).map (value * base + ·)) 0

/-- How many numbers have at most some number of bits. -/
def wordBound (bits : Nat) : Nat := Nat.pow 2 bits

/-- An unsigned number below `bound`: digits of `base`, with one plus sign allowed in front. -/
def readUnsigned? (base bound : Nat) (text : List Char) : Option Nat :=
  let digits := match text with
    | '+' :: rest => rest
    | _ => text
  (readDigits? base digits).filter (· < bound)

def readWord32? (text : List Char) : Option UInt32 :=
  (readUnsigned? 10 UInt32.size text).map UInt32.ofNat

def readWord64? (text : List Char) : Option UInt64 :=
  (readUnsigned? 10 UInt64.size text).map UInt64.ofNat

end SaveManifest.Text
