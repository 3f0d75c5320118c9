import SaveManifest.Text.Number
import SaveManifest.Url.Encoding

/-!
# Hosts

The names and numbers of machines. A host of the web is a domain name in lower case, a number of
32 bits written in up to four parts, or eight groups of 16 bits in brackets. Hosts of other
schemes are taken as they are.
-/

namespace SaveManifest.Url

open SaveManifest.Text

def isForbidden (c : Char) : Bool :=
  c.toNat == 0 || ['\t', '\n', '\r', ' ', '#', '/', ':', '<', '>', '?', '@', '[', '\\', ']', '^',
    '|'].contains c

def isForbiddenInDomain (c : Char) : Bool := isForbidden c || isControl c || c == '%'

/-! ## Four bytes -/

/-- One part of an address of four bytes: decimal, octal behind a zero or hexadecimal behind
`0x`. The inner `none` stands for a number of more than 32 bits. -/
def readPart? (text : List Char) : Option (Option Nat) :=
  let read (base : Nat) (digits : List Char) : Option (Option Nat) :=
    if digits.isEmpty then some (some 0)
    else (readDigits? base digits).map fun value =>
      if value < wordBound 32 then some value else none
  match text with
  | [] => none
  | '0' :: 'x' :: digits => read 16 digits
  | '0' :: 'X' :: digits => read 16 digits
  | '0' :: c :: digits => read 8 (c :: digits)
  | digits => read 10 digits

/-- The parts of a host between its dots; a dot at the end does not count. -/
def dottedParts (text : List Char) : List (List Char) :=
  let parts := (text.foldr (fun c pieces =>
    if c = '.' then [] :: pieces
    else match pieces with
      | [] => [[c]]
      | piece :: pieces => (c :: piece) :: pieces) [[]])
  if 1 < parts.length ∧ parts.getLast? = some [] then parts.dropLast else parts

/-- Whether a host ends in a number, so that it has to be an address of four bytes. -/
def endsInNumber (text : List Char) : Bool :=
  match (dottedParts text).getLast? with
  | none => false
  | some last => (!last.isEmpty && last.all isDigit) || (readPart? last).isSome

/-- An address of four bytes: the last part fills all bytes that are left. -/
def readFourBytes? (text : List Char) : Option Nat := do
  let parts := dottedParts text
  if 4 < parts.length then none
  let numbers ← parts.mapM fun part => (readPart? part).bind id
  let last ← numbers.getLast?
  let leading := numbers.dropLast
  let room := Nat.pow 256 (4 - leading.length)
  if leading.any (255 < ·) ∨ room ≤ last then none
  some (leading.foldl (fun front number => front * 256 + number) 0 * room + last)

/-- An address of four bytes, as it is written. -/
def fourBytesText (address : Nat) : List Char :=
  ['.'].intercalate ([3, 2, 1, 0].map fun index =>
    (toString (address / Nat.pow 256 index % 256)).toList)

/-! ## Eight groups -/

/-- The last two groups, written as four bytes: exactly four decimal parts. -/
def readEmbedded? (text : List Char) : Option (List Nat) := do
  let parts := dottedParts text
  if parts.length ≠ 4 ∨ text.getLast? = some '.' then none
  let bytes ← parts.mapM fun part =>
    if part.head? = some '0' ∧ 1 < part.length then none
    else (readDigits? 10 part).filter (· < 256)
  match bytes with
  | [a, b, c, d] => some [a * 256 + b, c * 256 + d]
  | _ => none

/-- Groups with colons between them; the last one may be written as four bytes. -/
def readGroups : Nat → List Char → Option (List Nat)
  | 0, _ => none
  | fuel + 1, text =>
    let digits := text.takeWhile fun c => (digitValue? 16 c).isSome
    let behind := text.drop digits.length
    if behind.head? = some '.' then readEmbedded? text
    else do
      if digits.isEmpty ∨ 4 < digits.length then none
      let group ← readDigits? 16 digits
      match behind with
      | [] => some [group]
      | ':' :: rest => (readGroups fuel rest).map (group :: ·)
      | _ => none

/-- The text in front of the first double colon and the text behind it. -/
def splitDouble? : List Char → Option (List Char × List Char)
  | ':' :: ':' :: rest => some ([], rest)
  | c :: rest => (splitDouble? rest).map fun (front, behind) => (c :: front, behind)
  | [] => none

/-- An address of eight groups, where a double colon stands for as many zeros as are missing. -/
def readEightGroups? (text : List Char) : Option (List Nat) :=
  let groups (text : List Char) : Option (List Nat) :=
    if text.isEmpty then some [] else readGroups (text.length + 1) text
  match splitDouble? text with
  | none => (groups text).filter (·.length = 8)
  | some (front, behind) => do
    let front ← if front.contains '.' then none else groups front
    let behind ← groups behind
    let count := front.length + behind.length
    if 7 < count then none else some (front ++ List.replicate (8 - count) 0 ++ behind)

def hexText (value : Nat) : List Char := Nat.toDigits 16 value

/-- The first longest run of zeros, as its start and its length. -/
def longestZeros (groups : List Nat) : Nat × Nat :=
  (List.range groups.length).foldl (fun best start =>
    let length := ((groups.drop start).takeWhile (· == 0)).length
    if best.2 < length then (start, length) else best) (0, 0)

/-- An address of eight groups, as it is written: the first longest run of at least two zeros
becomes a double colon. -/
def eightGroupsText (groups : List Nat) : List Char :=
  let join (groups : List Nat) : List Char := [':'].intercalate (groups.map hexText)
  let (start, length) := longestZeros groups
  if length < 2 then join groups
  else join (groups.take start) ++ [':', ':'] ++ join (groups.drop (start + length))

/-! ## Hosts -/

/-- A host of the web, as it is written. -/
def readWebHost? (text : List Char) : Option String :=
  match text with
  | '[' :: rest => do
    if rest.getLast? ≠ some ']' then none
    let groups ← readEightGroups? rest.dropLast
    some (String.ofList ('[' :: eightGroupsText groups ++ [']']))
  | _ => do
    let decoded ← String.fromUTF8? (percentDecode text).toByteArray
    let domain := lowered decoded.toList
    if domain.isEmpty ∨ domain.any isForbiddenInDomain then none
    if endsInNumber domain then (readFourBytes? domain).map (String.ofList ∘ fourBytesText)
    else some (String.ofList domain)

/-- A host of another scheme, as it is written. -/
def readOtherHost? (text : List Char) : Option String :=
  match text with
  | '[' :: _ => readWebHost? text
  | _ =>
    if text.any isForbidden then none
    else some (String.ofList (percentEncode isControl text))

end SaveManifest.Url
