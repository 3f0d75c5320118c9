/-!
# Characters of YAML

The classes of characters that the grammar of YAML is written in. Five characters break a line;
two of them, the line and paragraph separators, keep their identity when a text is read, the
others become line feeds.
-/

namespace SaveManifest.Yaml

def isBreak (c : Char) : Bool :=
  c == '\n' || c == '\r' || c == '\u0085' || c == '\u2028' || c == '\u2029'

def isGap (c : Char) : Bool := c == ' ' || c == '\t'

/-- Whether a text ends here or goes on with a line break. -/
def atLineEnd : List Char → Bool
  | [] => true
  | c :: _ => isBreak c

/-- Whether a text ends here or goes on with a space, a tab or a line break. -/
def atGap : List Char → Bool
  | [] => true
  | c :: _ => isGap c || isBreak c

/-- A character that may stand in a stream at all. -/
def isAllowed (c : Char) : Bool :=
  let point := c.toNat
  point == 0x09 || point == 0x0A || point == 0x0D || (0x20 ≤ point && point ≤ 0x7E) ||
    point == 0x85 || (0xA0 ≤ point && point ≤ 0xD7FF) || (0xE000 ≤ point && point ≤ 0xFFFD) ||
    0x10000 ≤ point

/-- A character that can be written without an escape. The byte order mark cannot, and of the
line breaks only the line feed and the two separators can. -/
def isPrintable (c : Char) : Bool :=
  let point := c.toNat
  point == 0x0A || (0x20 ≤ point && point ≤ 0x7E) || (0xA0 ≤ point && point ≤ 0xD7FF) ||
    (0xE000 ≤ point && point ≤ 0xFFFD && point != 0xFEFF) || 0x10000 ≤ point

def isNameChar (c : Char) : Bool :=
  ('0' ≤ c && c ≤ '9') || ('A' ≤ c && c ≤ 'Z') || ('a' ≤ c && c ≤ 'z') || c == '_' || c == '-'

end SaveManifest.Yaml
