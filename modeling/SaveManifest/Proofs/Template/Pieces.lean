import SaveManifest.Proofs.Template.Balance
import SaveManifest.Proofs.Template.Comments
import SaveManifest.Proofs.Template.RoundTrip

/-!
# Reading a page in pieces

A page can be cut between its templates and read piece by piece. The search for the end of a template
does not look behind that end (`splitClosing_extend`), so a template that is closed stays what it is,
whatever is written after it, and what follows is read from its own beginning
(`collect_append_of_isComplete`). The one thing that two pieces can form together is a `{{`, of a
brace at the end of one and a brace at the beginning of the other.
-/

namespace SaveManifest.Template

/-- Whether every `{{` that is met between templates is closed within the text. -/
def isComplete : List Char → Bool
  | [] => true
  | '{' :: '{' :: rest =>
    match _closed : splitClosing 0 rest with
    | none => false
    | some (_, behind) => isComplete behind
  | _ :: rest => isComplete rest
termination_by text => text.length
decreasing_by
  · have := splitClosing_length _closed
    simp only [List.length_cons]
    omega
  · simp

/-- The brace at the end of a text, if it ends in one. -/
def lastBrace (text : List Char) : List Char := if text.getLast? = some '{' then ['{'] else []

variable {front back : List Char}

theorem splitClosing_of_lone {c : Char} {rest : List Char} (lone : IsLone c rest) (depth : Nat) :
    splitClosing depth (c :: rest) = before [c] (splitClosing depth rest) := by
  rw [splitClosing]
  · rfl
  · rintro tail rfl rfl
    exact lone (Or.inl rfl) rfl
  · rintro tail rfl rfl
    exact lone (Or.inr rfl) rfl

/-- What is written behind the end of a template is not looked at to find that end. -/
theorem splitClosing_extend {depth : Nat} {text inner behind : List Char}
    (closed : splitClosing depth text = some (inner, behind)) (more : List Char) :
    splitClosing depth (text ++ more) = some (inner, behind ++ more) := by
  fun_induction splitClosing depth text generalizing inner behind with
  | case1 => cases closed
  | case2 depth rest ih =>
    obtain ⟨⟨tail, after⟩, found, shape⟩ := Option.map_eq_some_iff.1 closed
    cases shape
    rw [List.cons_append, List.cons_append, splitClosing_open, ih found, before_some]
    rfl
  | case3 rest =>
    cases closed
    exact splitClosing_end
  | case4 rest depth ih =>
    obtain ⟨⟨tail, after⟩, found, shape⟩ := Option.map_eq_some_iff.1 closed
    cases shape
    rw [List.cons_append, List.cons_append, splitClosing_close, ih found, before_some]
    rfl
  | case5 depth c rest noOpening noClosing ih =>
    obtain ⟨⟨tail, after⟩, found, shape⟩ := Option.map_eq_some_iff.1 closed
    cases shape
    -- The text goes on behind `c`, since a closing is found there, so `c` stays on its own.
    have lone : IsLone c (rest ++ more) := by
      have alone := IsLone.of_cases noOpening noClosing
      cases rest with
      | nil => cases found
      | cons d rest => exact alone
    rw [List.cons_append, splitClosing_of_lone lone, ih found, before_some]
    rfl

theorem lastBrace_append_cons (front : List Char) (c : Char) (back : List Char) :
    lastBrace (front ++ c :: back) = lastBrace (c :: back) := by
  rw [lastBrace, lastBrace, List.getLast?_append, List.getLast?_cons, Option.some_or]

theorem lastBrace_cons {c : Char} (noBrace : c ≠ '{') (text : List Char) :
    lastBrace (c :: text) = lastBrace text := by
  cases text with
  | nil => simp [lastBrace, noBrace]
  | cons d text => exact lastBrace_append_cons [c] d text

/-- A complete text is read as it would be alone, and what follows it as it would be alone, but for
a brace that it may begin with. -/
theorem collect_append_of_isComplete (complete : isComplete front = true) (back : List Char) :
    collect (front ++ back) = collect front ++ collect (lastBrace front ++ back) := by
  fun_induction isComplete front with
  | case1 =>
    rw [collect]
    rfl
  | case2 rest unclosed => cases complete
  | case3 rest inner behind closed ih =>
    have last : lastBrace ('{' :: '{' :: rest) = lastBrace behind := by
      have split : '{' :: '{' :: rest = ('{' :: '{' :: (inner ++ ['}'])) ++ '}' :: behind := by
        rw [splitClosing_append closed]
        simp
      rw [split, lastBrace_append_cons, lastBrace_cons (by decide)]
    rw [List.cons_append, List.cons_append, collect_braces (splitClosing_extend closed back),
      collect_braces closed, ih complete, last]
    simp only [List.append_assoc]
  | case4 c rest noOpening ih =>
    cases rest with
    | nil =>
      have nothing : collect [c] = [] := by
        rw [collect_cons_of_head (by simp), collect]
      by_cases brace : c = '{'
      · subst brace
        rw [nothing]
        rfl
      · rw [nothing, List.singleton_append, collect_cons brace]
        simp [lastBrace, brace]
    | cons d rest =>
      have lone (tail : List Char) : c = '{' → (d :: tail).head? ≠ some '{' := by
        intro same first
        cases first
        exact noOpening rest same rfl
      rw [List.cons_append, List.cons_append, collect_cons_of_head (lone _), ← List.cons_append,
        ih complete, collect_cons_of_head (lone _)]
      rfl

/-- A page that is cut where no template is open is read piece by piece. Templates that are complete
come first and stay what they are, whatever follows them, and text without an opening brace, such as
stray closings, bars and brackets, changes nothing in what follows it. -/
theorem parse_append {front back : String}
    (clear : ¬ commentOpening <:+: (front ++ back).toList)
    (complete : isComplete front.toList = true) :
    (¬ (front.toList.getLast? = some '{' ∧ back.toList.head? = some '{') →
        parse (front ++ back) = parse front ++ parse back) ∧
      parse front <+: parse (front ++ back) ∧
      ('{' ∉ front.toList → parse (front ++ back) = parse back) := by
  rw [String.toList_append] at clear
  have frontClear : ¬ commentOpening <:+: front.toList := fun inside =>
    clear (inside.trans (List.prefix_append _ _).isInfix)
  have backClear : ¬ commentOpening <:+: back.toList := fun inside =>
    clear (inside.trans (List.suffix_append _ _).isInfix)
  have whole : parse (front ++ back) =
      collect front.toList ++ collect (lastBrace front.toList ++ back.toList) := by
    rw [parse, String.toList_append, stripComments_of_clear clear,
      collect_append_of_isComplete complete]
  have first : parse front = collect front.toList := by
    rw [parse, stripComments_of_clear frontClear]
  have second : parse back = collect back.toList := by
    rw [parse, stripComments_of_clear backClear]
  refine ⟨fun apart => ?_, ?_, fun noBrace => ?_⟩
  · rw [whole, first, second, lastBrace]
    split
    · next ends =>
      rw [List.singleton_append, collect_cons_of_head fun _ begins => apart ⟨ends, begins⟩]
    · rfl
  · rw [whole, first]
    exact List.prefix_append _ _
  · rw [second, parse, String.toList_append, stripComments_of_clear clear, collect_append noBrace]

/-- Two complete templates behind stray closings, with a single brace at the end. -/
def strayFront : String := "\x7d\x7d[[|{{a|{{b}}}}\x7d\x7b"

/-- A complete template behind a stray closing, and one that is not closed. -/
def strayBack : String := "\x7d\x7d|{{c}}\x7b\x7bd|]]"

theorem parse_append_strays :
    (¬ commentOpening <:+: (strayFront ++ strayBack).toList ∧
      isComplete strayFront.toList = true) ∧
    parse (strayFront ++ strayBack) =
      [{ name := "A", positional := ["{{b}}"] }, { name := "B" }, { name := "C" }] := by
  have clear : ¬ commentOpening <:+: (strayFront ++ strayBack).toList := by decide +kernel
  have complete : isComplete strayFront.toList = true := by decide +kernel
  refine ⟨⟨clear, complete⟩, ?_⟩
  rw [(parse_append clear complete).1 (by decide +kernel)]
  decide +kernel

end SaveManifest.Template
