import SaveManifest.Text.Ascii

/-!
# Percent encoding

Characters that a part of an address cannot hold are written as the bytes of their UTF-8 form, each
as a percent sign and two hexadecimal digits. Forms write a space as a plus sign and encode all
but letters, digits and four signs, so that the names and values of a query can be told apart
again.
-/

namespace SaveManifest.Url

open SaveManifest.Text

def hexDigit (value : Nat) : Char :=
  if value < 10 then Char.ofNat (48 + value) else Char.ofNat (55 + value)

/-- A byte as a percent sign and two digits. -/
def encodeByte (byte : UInt8) : List Char :=
  ['%', hexDigit (byte.toNat / 16), hexDigit (byte.toNat % 16)]

def encodeChar (c : Char) : List Char := (String.utf8EncodeChar c).flatMap encodeByte

/-- A text in which the characters that satisfy `special`, and all beyond ASCII, are encoded. -/
def percentEncode (special : Char → Bool) (text : List Char) : List Char :=
  text.flatMap fun c => if special c || 0x80 ≤ c.toNat then encodeChar c else [c]

def isControl (c : Char) : Bool := c.toNat < 0x20 || c.toNat == 0x7F

/-- What is encoded in a fragment. -/
def inFragment (c : Char) : Bool := isControl c || [' ', '"', '<', '>', '\x60'].contains c

/-- What is encoded in a path. -/
def inPath (c : Char) : Bool := inFragment c || ['#', '?', '{', '}'].contains c

/-- What is encoded in a query; a single quote only in the schemes of the web. -/
def inQuery (web : Bool) (c : Char) : Bool :=
  isControl c || [' ', '"', '#', '<', '>'].contains c || (web && c == '\'')

/-- What is kept as it is in a form. -/
def keptInForm (c : Char) : Bool :=
  isLetter c || isDigit c || ['*', '-', '.', '_'].contains c

/-- A name or a value of a form. -/
def formEncode (text : List Char) : List Char :=
  text.flatMap fun c => if c = ' ' then ['+'] else if keptInForm c then [c] else encodeChar c

/-- The names and values of a form, each name joined to its value. -/
def formText (pairs : List (String × String)) : List Char :=
  ['&'].intercalate
    (pairs.map fun (name, value) => formEncode name.toList ++ '=' :: formEncode value.toList)

/-- The bytes of a text in which percent signs with two digits stand for bytes. -/
def percentDecode : List Char → List UInt8
  | '%' :: high :: low :: rest =>
    match digitValue? 16 high, digitValue? 16 low with
    | some high, some low => UInt8.ofNat (high * 16 + low) :: percentDecode rest
    | _, _ => UInt8.ofNat 0x25 :: percentDecode (high :: low :: rest)
  | c :: rest => String.utf8EncodeChar c ++ percentDecode rest
  | [] => []

end SaveManifest.Url
