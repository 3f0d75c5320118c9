import SaveManifest.Text.Number

/-!
# Decimal fractions

Numbers with a decimal point and an exponent, and whether one lies in the range of doubles. The
number itself is never rounded: only whether it rounds past the largest double is decided, in
whole-number arithmetic.
-/

namespace SaveManifest.Text

/-- The digits at the front of a text and what follows them. -/
def spanDigits (text : List Char) : List Char × List Char := text.span isDigit

/-- A decimal fraction with an exponent: the digits, how many of them stand before the point,
and the exponent of ten. -/
structure DecimalFraction where
  digits : List Char
  whole : Nat
  exponent : Int
deriving DecidableEq, Repr

/-- An exponent behind its letter: digits with an optional sign. -/
def readExponent? (text : List Char) : Option Int :=
  match text with
  | '-' :: digits => if digits.all isDigit then (readDigits? 10 digits).map fun n => -(n : Int)
    else none
  | '+' :: digits => if digits.all isDigit then (readDigits? 10 digits).map Int.ofNat else none
  | digits => if digits.all isDigit then (readDigits? 10 digits).map Int.ofNat else none

/-- A decimal fraction without a sign: digits around an optional point, at least one of them,
and an optional exponent. -/
def readFraction? (text : List Char) : Option DecimalFraction := do
  let (whole, behind) := spanDigits text
  let (part, behind) := match behind with
    | '.' :: rest => spanDigits rest
    | _ => ([], behind)
  if whole.isEmpty && part.isEmpty then none
  let exponent ← match behind with
    | [] => some 0
    | 'e' :: rest => readExponent? rest
    | 'E' :: rest => readExponent? rest
    | _ => none
  some { digits := whole ++ part, whole := whole.length, exponent }

/-- The least number that rounds past the largest double. -/
def doubleLimit : Nat := wordBound 1024 - wordBound 970

/-- Whether a decimal fraction rounds to a double and not past the largest one. -/
def DecimalFraction.isFinite (fraction : DecimalFraction) : Bool :=
  let significant := fraction.digits.dropWhile (· == '0')
  let zeros := fraction.digits.length - significant.length
  let top : Int := (fraction.whole : Int) - zeros + fraction.exponent
  match readDigits? 10 significant with
  | none => true
  | some value =>
    if top < 309 then true
    else if 309 < top then false
    else if significant.length ≤ 309 then
      value * Nat.pow 10 (309 - significant.length) < doubleLimit
    else value < doubleLimit * Nat.pow 10 (significant.length - 309)

end SaveManifest.Text
