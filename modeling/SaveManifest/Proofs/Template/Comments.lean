import SaveManifest.Extraction
import SaveManifest.Proofs.Path.Separators

/-!
# Comments

A page is read as if its comments were not there. What a comment holds is never seen: the search for
its end begins behind its opening, so an opening inside of it counts for nothing, and no dashes that
it ends with can hide its end (`dropComment_append`). What stands around a comment is never taken
for a part of one, since the opening of a comment cannot begin in front of another opening and end
within it (`stripComments_append`). The text that is left may form an opening of its own; it is not
looked at again.
-/

namespace SaveManifest.Template

def commentOpening : List Char := ['<', '!', '-', '-']

def commentEnding : List Char := ['-', '-', '>']

/-- A comment, and the text of the page behind it. -/
structure Aside where
  comment : List Char
  text : List Char

/-- A text with comments, each followed by more text. -/
def withAsides (first : List Char) (asides : List Aside) : List Char :=
  first ++ asides.flatMap fun aside =>
    commentOpening ++ aside.comment ++ commentEnding ++ aside.text

def withoutComments (first : List Char) (asides : List Aside) : List Char :=
  first ++ asides.flatMap (·.text)

section Steps

variable {c : Char} {rest : List Char}

theorem stripComments_opening (rest : List Char) :
    stripComments (commentOpening ++ rest) = stripComments (dropComment rest) := by
  rw [commentOpening, List.cons_append, List.cons_append, List.cons_append, List.cons_append,
    List.nil_append, stripComments]

theorem stripComments_cons (noOpening : ¬ commentOpening <+: c :: rest) :
    stripComments (c :: rest) = c :: stripComments rest := by
  rw [stripComments]
  rintro tail rfl rfl
  exact noOpening (List.prefix_append commentOpening tail)

theorem dropComment_cons (noEnding : ¬ commentEnding <+: c :: rest) :
    dropComment (c :: rest) = dropComment rest := by
  rw [dropComment]
  rintro tail rfl rfl
  exact noEnding (List.prefix_append commentEnding tail)

end Steps

section Strip

variable {front behind text comment : List Char}

/-- No opening begins in a text and ends behind it, where the text stops or another opening stands:
behind its first character an opening does not hold that character again. -/
theorem not_opening_before {c : Char} (clear : ¬ commentOpening <:+: c :: front)
    (edge : behind = [] ∨ commentOpening <+: behind) :
    ¬ commentOpening <+: c :: (front ++ behind) := by
  intro early
  rcases edge with rfl | ⟨rest, rfl⟩
  · rw [List.append_nil] at early
    exact clear early.isInfix
  · match front, clear, early with
    | [], _, early => simp [commentOpening] at early
    | [_], _, early => simp [commentOpening] at early
    | [_, _], _, early => simp [commentOpening] at early
    | second :: third :: fourth :: front, clear, early =>
      simp only [commentOpening, List.cons_append, List.cons_prefix_cons, List.nil_prefix] at early
      obtain ⟨rfl, rfl, rfl, rfl, -⟩ := early
      exact clear (List.prefix_append commentOpening front).isInfix

/-- Text in front of a comment, or at the end of a page, stays as it is. -/
theorem stripComments_append (clear : ¬ commentOpening <:+: front)
    (edge : behind = [] ∨ commentOpening <+: behind) :
    stripComments (front ++ behind) = front ++ stripComments behind := by
  induction front with
  | nil => rfl
  | cons c front ih =>
    rw [List.cons_append, stripComments_cons (not_opening_before clear edge),
      ih fun inside => clear (List.infix_cons inside), List.cons_append]

theorem clear_of_not_mem (absent : '<' ∉ text) : ¬ commentOpening <:+: text :=
  fun inside => absent (inside.subset (by decide))

/-- An opening does not reach over another character. -/
theorem clear_append_cons {c : Char} (other : c ∉ commentOpening)
    (first : ¬ commentOpening <:+: front) (second : ¬ commentOpening <:+: behind) :
    ¬ commentOpening <:+: front ++ c :: behind := by
  rw [Path.infix_append_cons other, not_or]
  exact ⟨first, second⟩

theorem stripComments_of_clear (clear : ¬ commentOpening <:+: text) :
    stripComments text = text := by
  have whole := stripComments_append clear (Or.inl rfl : [] = [] ∨ _)
  rw [stripComments, List.append_nil] at whole
  exact whole

/-- No ending begins in a comment and reaches into the ending of the comment: only the last
character of an ending closes it. -/
theorem not_ending_before {c : Char} (clear : ¬ commentEnding <:+: c :: comment)
    (rest : List Char) : ¬ commentEnding <+: c :: (comment ++ (commentEnding ++ rest)) := by
  intro early
  match comment, clear, early with
  | [], _, early => simp [commentEnding] at early
  | [_], _, early => simp [commentEnding] at early
  | second :: third :: comment, clear, early =>
    simp only [commentEnding, List.cons_append, List.cons_prefix_cons, List.nil_prefix] at early
    obtain ⟨rfl, rfl, rfl, -⟩ := early
    exact clear (List.prefix_append commentEnding comment).isInfix

/-- A comment ends at its own ending. -/
theorem dropComment_append (clear : ¬ commentEnding <:+: comment) (rest : List Char) :
    dropComment (comment ++ (commentEnding ++ rest)) = rest := by
  induction comment with
  | nil => rfl
  | cons c comment ih =>
    rw [List.cons_append, dropComment_cons (not_ending_before clear rest),
      ih fun inside => clear (List.infix_cons inside)]

/-- A comment without an ending reaches to the end of the text. -/
theorem dropComment_of_clear (clear : ¬ commentEnding <:+: comment) : dropComment comment = [] := by
  induction comment with
  | nil => rfl
  | cons c comment ih =>
    rw [dropComment_cons fun early => clear early.isInfix,
      ih fun inside => clear (List.infix_cons inside)]

end Strip

variable {first behind : List Char} {asides : List Aside}

/-- Stripping takes out the comments and leaves the text around them, up to where the page stops or
one more comment begins. -/
theorem stripComments_withAsides (clear : ¬ commentOpening <:+: first)
    (texts : ∀ aside ∈ asides, ¬ commentOpening <:+: aside.text)
    (comments : ∀ aside ∈ asides, ¬ commentEnding <:+: aside.comment)
    (edge : behind = [] ∨ commentOpening <+: behind) :
    stripComments (withAsides first asides ++ behind) =
      withoutComments first asides ++ stripComments behind := by
  induction asides generalizing first with
  | nil => simpa [withAsides, withoutComments] using stripComments_append clear edge
  | cons aside asides ih =>
    obtain ⟨here, later⟩ := List.forall_mem_cons.1 texts
    obtain ⟨comment, further⟩ := List.forall_mem_cons.1 comments
    have shape : withAsides first (aside :: asides) ++ behind =
        first ++ (commentOpening ++ (aside.comment ++ (commentEnding ++
          (withAsides aside.text asides ++ behind)))) := by
      simp [withAsides]
    rw [shape, stripComments_append clear (Or.inr (List.prefix_append _ _)),
      stripComments_opening, dropComment_append comment, ih here later further]
    simp [withoutComments]

/-- The text that is left depends on the texts between the comments alone. -/
theorem withoutComments_congr {others : List Aside}
    (same : others.map (·.text) = asides.map (·.text)) :
    withoutComments first others = withoutComments first asides := by
  rw [withoutComments, withoutComments, List.flatMap_def, List.flatMap_def, same]

theorem clear_of_same {others : List Aside}
    (texts : ∀ aside ∈ asides, ¬ commentOpening <:+: aside.text)
    (same : others.map (·.text) = asides.map (·.text)) :
    ∀ aside ∈ others, ¬ commentOpening <:+: aside.text := by
  intro aside member
  have listed : aside.text ∈ others.map (·.text) := List.mem_map_of_mem member
  rw [same] at listed
  obtain ⟨other, found, equal⟩ := List.mem_map.1 listed
  rw [← equal]
  exact texts other found

/-- A page is read as the text that is left when its comments are cut out, whatever they hold and
whether or not the last one ends, and so is what is extracted from it. -/
theorem parse_withAsides (clear : ¬ commentOpening <:+: first)
    (texts : ∀ aside ∈ asides, ¬ commentOpening <:+: aside.text)
    (comments : ∀ aside ∈ asides, ¬ commentEnding <:+: aside.comment) :
    parse (String.ofList (withAsides first asides)) = collect (withoutComments first asides) ∧
      (∀ comment, ¬ commentEnding <:+: comment →
        parse (String.ofList (withAsides first asides ++ (commentOpening ++ comment))) =
            parse (String.ofList (withAsides first asides)) ∧
          ∀ denylist,
            Extraction.ofContent denylist
                (String.ofList (withAsides first asides ++ (commentOpening ++ comment))) =
              Extraction.ofContent denylist (String.ofList (withAsides first asides))) ∧
      ∀ others : List Aside, others.map (·.text) = asides.map (·.text) →
        (∀ aside ∈ others, ¬ commentEnding <:+: aside.comment) →
        parse (String.ofList (withAsides first others)) =
            parse (String.ofList (withAsides first asides)) ∧
          ∀ denylist, Extraction.ofContent denylist (String.ofList (withAsides first others)) =
            Extraction.ofContent denylist (String.ofList (withAsides first asides)) := by
  have read (asides : List Aside) (texts : ∀ aside ∈ asides, ¬ commentOpening <:+: aside.text)
      (comments : ∀ aside ∈ asides, ¬ commentEnding <:+: aside.comment) :
      parse (String.ofList (withAsides first asides)) = collect (withoutComments first asides) := by
    have stripped := stripComments_withAsides clear texts comments (Or.inl rfl : [] = [] ∨ _)
    rw [List.append_nil, stripComments, List.append_nil] at stripped
    rw [parse, String.toList_ofList, stripped]
  have extracted {page other : String} (equal : parse page = parse other) (denylist : Path.Denylist) :
      Extraction.ofContent denylist page = Extraction.ofContent denylist other := by
    rw [Extraction.ofContent, Extraction.ofContent, equal]
  refine ⟨read asides texts comments, fun comment endless => ?_, fun others same bodies => ?_⟩
  · have stripped := stripComments_withAsides clear texts comments
      (Or.inr (List.prefix_append commentOpening comment))
    rw [stripComments_opening, dropComment_of_clear endless, stripComments, List.append_nil]
      at stripped
    have equal : parse (String.ofList (withAsides first asides ++ (commentOpening ++ comment))) =
        parse (String.ofList (withAsides first asides)) := by
      rw [read asides texts comments, parse, String.toList_ofList, stripped]
    exact ⟨equal, extracted equal⟩
  · have equal : parse (String.ofList (withAsides first others)) =
        parse (String.ofList (withAsides first asides)) := by
      rw [read others (clear_of_same texts same) bodies, read asides texts comments,
        withoutComments_congr same]
    exact ⟨equal, extracted equal⟩

/-- A template cut apart by two comments. Both end in dashes, one holds an opening and a template,
and the text around them begins like a comment once they are gone. -/
def cutApart : List Aside :=
  [⟨" {{x}} <!-- --".toList, "--\x7b\x7ba|".toList⟩, ⟨"|b--".toList, "c\x7d\x7d".toList⟩]

theorem parse_withAsides_cutApart :
    (¬ commentOpening <:+: "<!".toList ∧
      (∀ aside ∈ cutApart, ¬ commentOpening <:+: aside.text) ∧
      ∀ aside ∈ cutApart, ¬ commentEnding <:+: aside.comment) ∧
    withoutComments "<!".toList cutApart = "<!--\x7b\x7ba|c\x7d\x7d".toList ∧
    parse (String.ofList (withAsides "<!".toList cutApart ++
      (commentOpening ++ " {{d}}".toList))) = [{ name := "A", positional := ["c"] }] := by
  have clear : ¬ commentOpening <:+: "<!".toList := by decide +kernel
  have texts : ∀ aside ∈ cutApart, ¬ commentOpening <:+: aside.text := by decide +kernel
  have comments : ∀ aside ∈ cutApart, ¬ commentEnding <:+: aside.comment := by decide +kernel
  obtain ⟨plain, unended, -⟩ := parse_withAsides clear texts comments
  refine ⟨⟨clear, texts, comments⟩, by decide +kernel, ?_⟩
  rw [(unended _ (by decide +kernel)).1, plain]
  decide +kernel

end SaveManifest.Template
