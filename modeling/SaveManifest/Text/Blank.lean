/-!
# White space

The characters of the Unicode property `White_Space`, and what rests on them: trimming both
ends of a text and collapsing it to its words. Texts are lists of characters here; `onString`
carries a rule on characters over to strings.

`trim` only ever takes characters from the two ends, and `trim_eq_nil_iff` tells when nothing is
left.
-/

namespace SaveManifest.Text

def onString (rule : List Char → List Char) (text : String) : String :=
  String.ofList (rule text.toList)

@[simp] theorem toList_onString (rule : List Char → List Char) (text : String) :
    (onString rule text).toList = rule text.toList := by
  simp [onString]

/-- Membership in the Unicode property `White_Space`. -/
def isBlank (c : Char) : Bool :=
  let point := c.toNat
  (9 ≤ point && point ≤ 13) || point == 0x20 || point == 0x85 || point == 0xA0 ||
    point == 0x1680 || (0x2000 ≤ point && point ≤ 0x200A) || point == 0x2028 ||
    point == 0x2029 || point == 0x202F || point == 0x205F || point == 0x3000

def trimLeft (text : List Char) : List Char := text.dropWhile isBlank

def trimRight (text : List Char) : List Char := (text.reverse.dropWhile isBlank).reverse

def trim (text : List Char) : List Char := trimRight (trimLeft text)

def trimmed (text : String) : String := onString trim text

def isBlankText (text : String) : Bool := text.toList.all isBlank

/-- The pieces of a text between the characters that satisfy `cut`; always at least one. -/
def splitOn (cut : Char → Bool) : List Char → List (List Char)
  | [] => [[]]
  | c :: rest =>
    if cut c then [] :: splitOn cut rest
    else match splitOn cut rest with
      | [] => [[c]]
      | piece :: pieces => (c :: piece) :: pieces

/-- The maximal runs of characters that are not white space, in order. -/
def words (text : List Char) : List (List Char) :=
  (splitOn isBlank text).filter (fun piece => !piece.isEmpty)

/-- The words of a text with one space between neighbours. -/
def collapse (text : List Char) : List Char := [' '].intercalate (words text)

theorem splitOn_ne_nil (cut : Char → Bool) (text : List Char) : splitOn cut text ≠ [] := by
  cases text with
  | nil => simp [splitOn]
  | cons c rest =>
    simp only [splitOn]
    split
    · simp
    · split <;> simp

theorem dropBlank_eq_nil_iff (text : List Char) :
    text.dropWhile isBlank = [] ↔ ∀ c ∈ text, isBlank c = true := by
  induction text with
  | nil => simp
  | cons c rest ih =>
    cases blank : isBlank c with
    | true => simp only [List.dropWhile_cons, blank, if_true, ih, List.mem_cons, forall_eq_or_imp,
        true_and]
    | false =>
      constructor
      · intro nothing
        simp [blank] at nothing
      · intro all
        simp [all c List.mem_cons_self] at blank

/-- Nothing is left of a text exactly when all of it is white space. -/
theorem trim_eq_nil_iff (text : List Char) : trim text = [] ↔ ∀ c ∈ text, isBlank c = true := by
  rw [trim, trimRight, List.reverse_eq_nil_iff, dropBlank_eq_nil_iff]
  constructor
  · intro all
    refine (dropBlank_eq_nil_iff text).1 ?_
    cases left : text.dropWhile isBlank with
    | nil => rfl
    | cons c rest =>
      have first : isBlank c = true := all c (by simp [trimLeft, left])
      have kept : isBlank c = false := by
        have := List.head?_dropWhile_not isBlank text
        simpa [left] using this
      simp [kept] at first
  · intro all c member
    have inside : c ∈ trimLeft text := by simpa using member
    exact all c ((List.dropWhile_sublist _).subset inside)

end SaveManifest.Text
