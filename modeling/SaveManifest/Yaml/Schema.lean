import SaveManifest.Text.Decimal

/-!
# What a plain scalar stands for

The core schema of YAML: a scalar written without quotes is a null, a truth value, a whole
number, a floating-point number or else a text. Whole numbers come in bases 2, 8, 10 and 16; a
row of decimal digits with a zero in front is a text, and so is a number too large for a double.
-/

namespace SaveManifest.Yaml

open SaveManifest.Text

def isNull (text : List Char) : Bool :=
  text == ['~'] || text == ['n', 'u', 'l', 'l'] || text == ['N', 'u', 'l', 'l'] ||
    text == ['N', 'U', 'L', 'L']

def readBool? (text : List Char) : Option Bool :=
  if text = ['t', 'r', 'u', 'e'] ∨ text = ['T', 'r', 'u', 'e'] ∨ text = ['T', 'R', 'U', 'E'] then
    some true
  else if text = ['f', 'a', 'l', 's', 'e'] ∨ text = ['F', 'a', 'l', 's', 'e'] ∨
      text = ['F', 'A', 'L', 'S', 'E'] then some false
  else none

/-- A row of at least two decimal digits that begins with a zero, a sign in front allowed. -/
def isPaddedNumber (text : List Char) : Bool :=
  let digits := match text with
    | '-' :: rest => rest
    | '+' :: rest => rest
    | _ => text
  1 < digits.length && digits.head? == some '0' && digits.all isDigit

/-- The number a row of digits denotes, the base told by what stands in front. -/
def readMagnitude? : List Char → Option Nat
  | '0' :: 'x' :: digits => readDigits? 16 digits
  | '0' :: 'o' :: digits => readDigits? 8 digits
  | '0' :: 'b' :: digits => readDigits? 2 digits
  | digits => readDigits? 10 digits

/-- A whole number from zero up to a bound, a plus sign in front allowed. -/
def readUnsigned? (bound : Nat) (text : List Char) : Option Nat :=
  let magnitude := match text with
    | '+' :: rest => rest
    | _ => text
  if isPaddedNumber text then none else (readMagnitude? magnitude).filter (· < bound)

/-- The magnitude of a negative number, at most `bound`. -/
def readNegative? (bound : Nat) : List Char → Option Nat
  | '-' :: magnitude =>
    if isPaddedNumber magnitude then none else (readMagnitude? magnitude).filter (· ≤ bound)
  | _ => none

/-- Whether a text spells a double: an infinity, the value that is no number, or a decimal
fraction within the range of doubles. -/
def isFloat (text : List Char) : Bool :=
  let special : List String := [".inf", ".Inf", ".INF", "-.inf", "-.Inf", "-.INF", "+.inf",
    "+.Inf", "+.INF", ".nan", ".NaN", ".NAN"]
  special.any (fun spelling => spelling.toList == text) ||
    let unsigned := match text with
      | '+' :: rest => rest
      | '-' :: rest => rest
      | _ => text
    match readFraction? unsigned with
    | some fraction => fraction.isFinite
    | none => false

/-- Whether a text spells a whole number of at most 128 bits. -/
def isInteger (text : List Char) : Bool :=
  (readUnsigned? (wordBound 128) text).isSome || (readNegative? (wordBound 127) text).isSome

/-- Whether a plain scalar with this text would be read as something else than the text, or
would look like a number. -/
def needsQuotes (text : List Char) : Bool :=
  text.isEmpty || isNull text || (readBool? text).isSome || isInteger text ||
    isPaddedNumber text || isFloat text

end SaveManifest.Yaml
