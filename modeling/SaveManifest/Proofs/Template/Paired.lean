import SaveManifest.Template.Scanner

/-!
# Paired text

Text whose double braces and double brackets pair up, one pair inside or behind another. Each scan
of wikitext steps over a paired text as a whole and is then where it was
(`Paired.splitClosing_append`, `Paired.splitBars_append`, `Paired.splitEquals_append`). For bars and
equals signs this needs that the text shows none outside its pairs, or that the scan is inside a
pair anyway.
-/

namespace SaveManifest.Template

def isLoose (c : Char) : Bool := c != '{' && c != '}' && c != '[' && c != ']'

theorem isLoose_iff {c : Char} :
    isLoose c = true ↔ c ≠ '{' ∧ c ≠ '}' ∧ c ≠ '[' ∧ c ≠ ']' := by
  simp [isLoose, and_assoc]

/-- Text whose double braces and brackets pair up, without single ones. Outside of the pairs all
characters satisfy `outside`. -/
inductive Paired : (Char → Bool) → List Char → Prop
  | nil {outside : Char → Bool} : Paired outside []
  | char {outside : Char → Bool} {c : Char} {rest : List Char} (loose : isLoose c = true)
      (allowed : outside c = true) (tail : Paired outside rest) : Paired outside (c :: rest)
  | braces {outside : Char → Bool} {inner rest : List Char} (within : Paired (fun _ => true) inner)
      (tail : Paired outside rest) : Paired outside ('{' :: '{' :: (inner ++ '}' :: '}' :: rest))
  | brackets {outside : Char → Bool} {inner rest : List Char}
      (within : Paired (fun _ => true) inner) (tail : Paired outside rest) :
      Paired outside ('[' :: '[' :: (inner ++ ']' :: ']' :: rest))

namespace Paired

variable {outside : Char → Bool} {text : List Char}

theorem of_all (all : ∀ c ∈ text, isLoose c = true ∧ outside c = true) : Paired outside text := by
  induction text with
  | nil => exact .nil
  | cons c rest ih =>
    have first := all c List.mem_cons_self
    exact .char first.1 first.2 (ih fun d member => all d (List.mem_cons_of_mem _ member))

theorem append {front back : List Char} (left : Paired outside front)
    (right : Paired outside back) : Paired outside (front ++ back) := by
  induction left with
  | nil => exact right
  | char loose allowed _ ih => exact .char loose allowed (ih right)
  | braces within _ _ ih =>
    simp only [List.cons_append, List.append_assoc]
    exact .braces within (ih right)
  | brackets within _ _ ih =>
    simp only [List.cons_append, List.append_assoc]
    exact .brackets within (ih right)

theorem mono (paired : Paired outside text) (wider : Char → Bool)
    (widen : ∀ c, outside c = true → wider c = true) : Paired wider text := by
  induction paired with
  | nil => exact .nil
  | char loose allowed _ ih => exact .char loose (widen _ allowed) (ih widen)
  | braces within _ _ ih => exact .braces within (ih widen)
  | brackets within _ _ ih => exact .brackets within (ih widen)

end Paired

/-- A text put in front of the first part of a cut, if there is a cut. -/
def before (text : List Char) (cut : Option (List Char × List Char)) :
    Option (List Char × List Char) :=
  cut.map fun (first, second) => (text ++ first, second)

@[simp] theorem before_none (text : List Char) : before text none = none := rfl

@[simp] theorem before_some (text first second : List Char) :
    before text (some (first, second)) = some (text ++ first, second) := rfl

theorem before_nil (cut : Option (List Char × List Char)) : before [] cut = cut := by
  cases cut <;> rfl

theorem before_before (front back : List Char) (cut : Option (List Char × List Char)) :
    before front (before back cut) = before (front ++ back) cut := by
  cases cut with
  | none => rfl
  | some parts => simp [before]

def prependAll (text : List Char) (pieces : List (List Char)) : List (List Char) :=
  text.foldr prepend pieces

@[simp] theorem prependAll_nil (pieces : List (List Char)) : prependAll [] pieces = pieces := rfl

@[simp] theorem prependAll_cons_text (c : Char) (text : List Char) (pieces : List (List Char)) :
    prependAll (c :: text) pieces = prepend c (prependAll text pieces) := rfl

theorem prependAll_append (front back : List Char) (pieces : List (List Char)) :
    prependAll (front ++ back) pieces = prependAll front (prependAll back pieces) :=
  List.foldr_append

theorem prependAll_cons (text piece : List Char) (pieces : List (List Char)) :
    prependAll text (piece :: pieces) = (text ++ piece) :: pieces := by
  induction text with
  | nil => rfl
  | cons c rest ih => rw [prependAll_cons_text, ih]; rfl

section Steps

/-! One step of each scan. -/

variable {c : Char} {depth braces brackets : Nat} {rest : List Char}

theorem splitClosing_open :
    splitClosing depth ('{' :: '{' :: rest) =
      before ['{', '{'] (splitClosing (depth + 1) rest) := by
  rw [splitClosing]
  rfl

theorem splitClosing_close :
    splitClosing (depth + 1) ('}' :: '}' :: rest) =
      before ['}', '}'] (splitClosing depth rest) := by
  rw [splitClosing]
  rfl

theorem splitClosing_end : splitClosing 0 ('}' :: '}' :: rest) = some ([], rest) := by
  rw [splitClosing]

theorem splitClosing_cons (noOpening : c ≠ '{') (noClosing : c ≠ '}') :
    splitClosing depth (c :: rest) = before [c] (splitClosing depth rest) := by
  rw [splitClosing]
  · rfl
  · intro _ same; exact absurd same noOpening
  · intro _ same; exact absurd same noClosing

theorem splitBars_braces : splitBars braces brackets ('{' :: '{' :: rest) =
    prependAll ['{', '{'] (splitBars (braces + 1) brackets rest) := by
  rw [splitBars]
  rfl

theorem splitBars_bracesEnd : splitBars braces brackets ('}' :: '}' :: rest) =
    prependAll ['}', '}'] (splitBars (braces - 1) brackets rest) := by
  rw [splitBars]
  rfl

theorem splitBars_brackets : splitBars braces brackets ('[' :: '[' :: rest) =
    prependAll ['[', '['] (splitBars braces (brackets + 1) rest) := by
  rw [splitBars]
  rfl

theorem splitBars_bracketsEnd : splitBars braces brackets (']' :: ']' :: rest) =
    prependAll [']', ']'] (splitBars braces (brackets - 1) rest) := by
  rw [splitBars]
  rfl

theorem splitBars_loose (loose : isLoose c = true) : splitBars braces brackets (c :: rest) =
    if c = '|' ∧ braces = 0 ∧ brackets = 0 then [] :: splitBars braces brackets rest
    else prepend c (splitBars braces brackets rest) := by
  rw [isLoose_iff] at loose
  rw [splitBars]
  · intro _ same; exact absurd same loose.1
  · intro _ same; exact absurd same loose.2.1
  · intro _ same; exact absurd same loose.2.2.1
  · intro _ same; exact absurd same loose.2.2.2

theorem splitEquals_braces :
    splitEquals depth ('{' :: '{' :: rest) = before ['{', '{'] (splitEquals (depth + 1) rest) := by
  rw [splitEquals]
  rfl

theorem splitEquals_bracesEnd :
    splitEquals depth ('}' :: '}' :: rest) = before ['}', '}'] (splitEquals (depth - 1) rest) := by
  rw [splitEquals]
  rfl

theorem splitEquals_brackets :
    splitEquals depth ('[' :: '[' :: rest) = before ['[', '['] (splitEquals (depth + 1) rest) := by
  rw [splitEquals]
  rfl

theorem splitEquals_bracketsEnd :
    splitEquals depth (']' :: ']' :: rest) = before [']', ']'] (splitEquals (depth - 1) rest) := by
  rw [splitEquals]
  rfl

theorem splitEquals_loose (loose : isLoose c = true) : splitEquals depth (c :: rest) =
    if c = '=' ∧ depth = 0 then some ([], rest) else before [c] (splitEquals depth rest) := by
  rw [isLoose_iff] at loose
  rw [splitEquals]
  · rfl
  · intro _ same; exact absurd same loose.1
  · intro _ same; exact absurd same loose.2.2.1
  · intro _ same; exact absurd same loose.2.1
  · intro _ same; exact absurd same loose.2.2.2

end Steps

namespace Paired

variable {outside : Char → Bool} {text : List Char}

/-- The search for the end of a template steps over paired text. -/
theorem splitClosing_append (paired : Paired outside text) (depth : Nat) (rest : List Char) :
    splitClosing depth (text ++ rest) = before text (splitClosing depth rest) := by
  induction paired generalizing depth rest with
  | nil => rw [List.nil_append, before_nil]
  | @char _ c tail loose _ _ ih =>
    have apart := isLoose_iff.1 loose
    rw [List.cons_append, splitClosing_cons apart.1 apart.2.1, ih, before_before]
    rfl
  | braces _ _ within ih =>
    simp only [List.cons_append, List.append_assoc]
    rw [splitClosing_open, within, splitClosing_close, ih, before_before, before_before,
      before_before]
    simp
  | brackets _ _ within ih =>
    have opening (depth : Nat) (rest : List Char) : splitClosing depth ('[' :: rest) =
        before ['['] (splitClosing depth rest) := splitClosing_cons (by decide) (by decide)
    have closing (depth : Nat) (rest : List Char) : splitClosing depth (']' :: rest) =
        before [']'] (splitClosing depth rest) := splitClosing_cons (by decide) (by decide)
    simp only [List.cons_append, List.append_assoc]
    rw [opening, opening, within, closing, closing, ih]
    simp only [before_before]
    simp

/-- The search for bars steps over paired text that shows none, or inside of a pair. -/
theorem splitBars_append (paired : Paired outside text) (braces brackets : Nat)
    (hidden : outside '|' = true → braces ≠ 0 ∨ brackets ≠ 0) (rest : List Char) :
    splitBars braces brackets (text ++ rest) =
      prependAll text (splitBars braces brackets rest) := by
  induction paired generalizing braces brackets rest with
  | nil => rfl
  | @char _ c tail loose allowed _ ih =>
    have keep : ¬ (c = '|' ∧ braces = 0 ∧ brackets = 0) := by
      rintro ⟨rfl, noBraces, noBrackets⟩
      rcases hidden allowed with inBraces | inBrackets
      · exact inBraces noBraces
      · exact inBrackets noBrackets
    rw [List.cons_append, splitBars_loose loose, if_neg keep, ih _ _ hidden]
    rfl
  | braces _ _ within ih =>
    simp only [List.cons_append, List.append_assoc]
    rw [splitBars_braces, within _ _ (fun _ => Or.inl (Nat.add_one_ne_zero _)), splitBars_bracesEnd,
      Nat.add_sub_cancel, ih _ _ hidden]
    simp [prependAll_append]
  | brackets _ _ within ih =>
    simp only [List.cons_append, List.append_assoc]
    rw [splitBars_brackets, within _ _ (fun _ => Or.inr (Nat.add_one_ne_zero _)),
      splitBars_bracketsEnd, Nat.add_sub_cancel, ih _ _ hidden]
    simp [prependAll_append]

/-- The search for an equals sign steps over paired text that shows none, or inside of a pair. -/
theorem splitEquals_append (paired : Paired outside text) (depth : Nat)
    (hidden : outside '=' = true → depth ≠ 0) (rest : List Char) :
    splitEquals depth (text ++ rest) = before text (splitEquals depth rest) := by
  induction paired generalizing depth rest with
  | nil => rw [List.nil_append, before_nil]
  | @char _ c tail loose allowed _ ih =>
    have keep : ¬ (c = '=' ∧ depth = 0) := by
      rintro ⟨rfl, top⟩
      exact hidden allowed top
    rw [List.cons_append, splitEquals_loose loose, if_neg keep, ih _ hidden, before_before]
    rfl
  | braces _ _ within ih =>
    simp only [List.cons_append, List.append_assoc]
    rw [splitEquals_braces, within _ (fun _ => Nat.add_one_ne_zero _), splitEquals_bracesEnd,
      Nat.add_sub_cancel, ih _ hidden]
    simp only [before_before]
    simp
  | brackets _ _ within ih =>
    simp only [List.cons_append, List.append_assoc]
    rw [splitEquals_brackets, within _ (fun _ => Nat.add_one_ne_zero _), splitEquals_bracketsEnd,
      Nat.add_sub_cancel, ih _ hidden]
    simp only [before_before]
    simp

/-- Paired texts behind bars are cut apart at these bars. -/
theorem splitBars_bars {texts : List (List Char)} (paired : Paired (fun c => c != '|') text)
    (others : ∀ other ∈ texts, Paired (fun c => c != '|') other) :
    splitBars 0 0 (text ++ texts.flatMap ('|' :: ·)) = text :: texts := by
  have bar (rest : List Char) : splitBars 0 0 ('|' :: rest) = [] :: splitBars 0 0 rest := by
    rw [splitBars_loose (by decide), if_pos ⟨rfl, rfl, rfl⟩]
  induction texts generalizing text with
  | nil =>
    rw [paired.splitBars_append 0 0 (fun shown => by simp at shown), List.flatMap_nil, splitBars,
      prependAll_cons, List.append_nil]
  | cons other texts ih =>
    obtain ⟨here, later⟩ := List.forall_mem_cons.1 others
    rw [paired.splitBars_append 0 0 (fun shown => by simp at shown), List.flatMap_cons,
      List.cons_append, bar, prependAll_cons, List.append_nil, ih here later]

/-- Paired text that shows no equals sign is not cut. -/
theorem splitEquals_eq_none (paired : Paired outside text) (hidden : outside '=' = false) :
    splitEquals 0 text = none := by
  have whole := paired.splitEquals_append 0 (fun shown => by simp [hidden] at shown) []
  rw [List.append_nil, splitEquals, before_none] at whole
  exact whole

end Paired

end SaveManifest.Template
