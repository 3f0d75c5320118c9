import SaveManifest.Proofs.Yaml.Literal
import SaveManifest.Proofs.Yaml.Quoted

/-!
# Texts as they are written

What a text looks like in the style chosen for it (`Written`), with what the style asks of the
text. Whatever is written consists of characters that a stream may hold. A text that can be a key
in front of its colon stays on one line, and is short enough to be found to be a key.
-/

namespace SaveManifest.Yaml

variable {single : Bool} {width : Nat} {text inside written : List Char} {style : Style} {c : Char}

/-- What is written for a text in some style, later lines indented by `width`. -/
inductive Written (width : Nat) (text : List Char) : Style → List Char → Prop
  | plain (allowed : plainAllowed text = true) (visible : text ≠ []) :
    Written width text .plain text
  | quoted {inside : List Char} (single : Bool) (quoted : Quoted single width text inside)
      (printable : ∀ c ∈ inside, isPrintable c = true) :
    Written width text (quotedStyleOf single) (closing single :: (inside ++ [closing single]))
  | literal (visible : text ≠ []) (printable : ∀ c ∈ text, isSpecial c = false)
      (several : '\n' ∈ text) :
    Written width text .literal (literalHeader text ++ '\n' :: indentLines width true text)

theorem printable_escaped (c : Char) : ∀ d ∈ escaped c, isPrintable d = true := by
  rcases escaped_eq c with ⟨itself, -, printable, -⟩ | escape
  · rw [itself]
    exact List.forall_mem_singleton.2 printable
  · exact fun d member => (escape.flat d member).2

theorem isPrintable_of_mem_pad (member : c ∈ pad width) : isPrintable c = true := by
  rw [eq_space_of_mem_pad member]
  decide

theorem printable_singleQuotedInside (printable : ∀ c ∈ text, isPrintable c = true)
    (fresh : Bool) : ∀ c ∈ singleQuotedInside width fresh text, isPrintable c = true := by
  have start : ∀ fresh : Bool, ∀ c ∈ (if fresh then pad width else []), isPrintable c = true := by
    rintro (_ | _) c member
    · cases member
    · exact isPrintable_of_mem_pad member
  induction text generalizing fresh with
  | nil => exact start fresh
  | cons d text ih =>
    obtain ⟨here, behind⟩ := List.forall_mem_cons.1 printable
    rw [singleQuotedInside]
    split
    · exact List.forall_mem_cons.2 ⟨here, ih behind fresh⟩
    · split
      · exact List.forall_mem_cons.2 ⟨here, ih behind true⟩
      · have itself : ∀ c ∈ (if d = '\'' then [d, d] else [d]), isPrintable c = true := by
          split <;> simp [here]
        exact List.forall_mem_append.2
          ⟨List.forall_mem_append.2 ⟨start fresh, itself⟩, ih behind false⟩

/-- When a text gets which style. -/
theorem styleOf_cases (text : List Char) :
    (styleOf text = .plain ∧ plainAllowed text = true ∧ needsQuotes text = false) ∨
      (styleOf text = .singleQuoted ∧ singleQuotedAllowed text = true ∧ '\n' ∉ text) ∨
      styleOf text = .doubleQuoted ∨
      (styleOf text = .literal ∧ literalAllowed text = true ∧ '\n' ∈ text) := by
  have member : text.contains '\n' = true ↔ '\n' ∈ text := List.contains_iff_mem
  unfold styleOf
  rw [quotedStyle]
  split
  · next several =>
    split
    · next allowed => exact Or.inr (Or.inr (Or.inr ⟨rfl, allowed, member.1 several⟩))
    · exact Or.inr (Or.inr (Or.inl rfl))
  · next several =>
    have flat : '\n' ∉ text := fun inside => several (member.2 inside)
    have quotes : ∀ style,
        (if singleQuotedAllowed text then Style.singleQuoted else .doubleQuoted) = style →
          (style = .singleQuoted ∧ singleQuotedAllowed text = true ∧ '\n' ∉ text) ∨
            style = .doubleQuoted := by
      rintro _ rfl
      split
      · next allowed => exact Or.inl ⟨rfl, allowed, flat⟩
      · exact Or.inr rfl
    split
    · exact Or.inr ((quotes _ rfl).imp_right Or.inl)
    · next bare =>
      split
      · next allowed => exact Or.inl ⟨rfl, allowed, by simpa using bare⟩
      · exact Or.inr ((quotes _ rfl).imp_right Or.inl)

/-- Every text is written in the style chosen for it. -/
theorem written_scalarLines (width : Nat) (text : List Char) :
    Written width text (styleOf text) (scalarLines width text) := by
  rcases styleOf_cases text with ⟨style, allowed, bare⟩ | ⟨style, allowed, flat⟩ | style |
      ⟨style, allowed, several⟩
  · rw [scalarLines, style]
    refine .plain allowed ?_
    rintro rfl
    cases bare
  · rw [scalarLines, style]
    have plain := isSingleText_of_allowed allowed flat
    refine .quoted true (quoted_singleQuotedInside width plain)
      (printable_singleQuotedInside ?_ false)
    intro c member
    have special := (plain.printable c member).1
    rwa [isSpecial, Bool.not_eq_false'] at special
  · rw [scalarLines, style]
    refine .quoted false (quoted_flatMap_escaped width text) ?_
    intro c member
    obtain ⟨d, -, part⟩ := List.mem_flatMap.1 member
    exact printable_escaped d c part
  · rw [scalarLines, style]
    simp only [literalAllowed, Bool.and_eq_true, Bool.not_eq_true', List.any_eq_false] at allowed
    refine .literal ?_ ?_ several
    · exact List.isEmpty_eq_false_iff.1 allowed.1.1.1
    · intro c member
      simpa using allowed.2 c member

/-! ### Characters of a stream -/

theorem isAllowed_of_isPrintable (printable : isPrintable c = true) : isAllowed c = true := by
  simp only [isPrintable, isAllowed, Bool.or_eq_true, Bool.and_eq_true, beq_iff_eq,
    decide_eq_true_eq] at printable ⊢
  omega

theorem printable_indentLines (printable : ∀ c ∈ text, isPrintable c = true) (fresh : Bool) :
    ∀ c ∈ indentLines width fresh text, isPrintable c = true := by
  induction text generalizing fresh with
  | nil => simp [indentLines]
  | cons d text ih =>
    obtain ⟨here, behind⟩ := List.forall_mem_cons.1 printable
    rw [indentLines]
    split
    · exact List.forall_mem_cons.2 ⟨here, ih behind true⟩
    · split
      · exact List.forall_mem_append.2 ⟨fun c member => isPrintable_of_mem_pad member,
          List.forall_mem_cons.2 ⟨here, ih behind false⟩⟩
      · exact List.forall_mem_cons.2 ⟨here, ih behind false⟩

theorem printable_literalHeader (text : List Char) :
    ∀ c ∈ literalHeader text, isPrintable c = true := by
  rw [literalHeader_eq]
  cases givesIndent text <;> cases chompingOf text <;> exact List.all_eq_true.1 (by decide)

/-- Whatever is written can be written without an escape. -/
theorem Written.printable (lines : Written width text style written) :
    ∀ c ∈ written, isPrintable c = true := by
  cases lines with
  | plain allowed visible =>
    simp only [plainAllowed, Bool.and_eq_true, Bool.not_eq_true', List.any_eq_false] at allowed
    intro c member
    simpa [isSpecial] using allowed.2 c member
  | quoted single quoted printable =>
    have quote : isPrintable (closing single) = true := by cases single <;> decide
    exact List.forall_mem_cons.2 ⟨quote, List.forall_mem_append.2
      ⟨printable, List.forall_mem_singleton.2 quote⟩⟩
  | literal visible printable several =>
    have plain : ∀ c ∈ text, isPrintable c = true := by simpa [isSpecial] using printable
    exact List.forall_mem_append.2 ⟨printable_literalHeader text, List.forall_mem_cons.2
      ⟨by decide, printable_indentLines plain true⟩⟩

theorem Written.visible (lines : Written width text style written) : written ≠ [] := by
  cases lines with
  | plain allowed visible => exact visible
  | quoted single quoted printable => exact List.cons_ne_nil _ _
  | literal visible printable several =>
    exact List.append_ne_nil_of_right_ne_nil _ (List.cons_ne_nil _ _)

theorem atToken_closing (single : Bool) (behind : List Char) :
    atToken (closing single :: behind) = true := by
  cases single <;> rfl

theorem atToken_of_plainAllowed {text : List Char} (allowed : plainAllowed (c :: text) = true)
    (behind : List Char) : atToken (c :: behind) = true := by
  have shape := isPlainTail_of_plainAllowed allowed (List.cons_ne_nil c text)
  have word := shape.atWord []
  have special : isSpecial c = false := by
    simp only [plainAllowed, Bool.and_eq_true, Bool.not_eq_true', List.any_eq_false] at allowed
    simpa using allowed.2 c List.mem_cons_self
  have comment : c ≠ '#' := by simpa using shape.comment
  have mark : c ≠ '\ufeff' := by
    rintro rfl
    cases special
  simp only [atWord, List.cons_append, List.head?_cons, Option.all_some] at word
  simp only [atToken, List.head?_cons, Option.all_some]
  simp [comment, mark] at word ⊢
  exact word

/-- What is written for a text begins a token. -/
theorem Written.token (lines : Written width text style written) (behind : List Char) :
    atToken (written ++ behind) = true := by
  cases lines with
  | plain allowed visible =>
    obtain ⟨c, text, rfl⟩ := List.exists_cons_of_ne_nil visible
    exact atToken_of_plainAllowed allowed _
  | quoted single quoted printable => exact atToken_closing single _
  | literal visible printable several =>
    rw [literalHeader_eq]
    rfl

/-! ### Keys on one line -/

theorem byteLength_append (front behind : List Char) :
    byteLength (front ++ behind) = byteLength front + byteLength behind := by
  simp [byteLength, String.utf8ByteSize]

theorem byteLength_cons (c : Char) (text : List Char) :
    byteLength (c :: text) = c.utf8Size + byteLength text := by
  rw [← List.singleton_append, byteLength_append]
  simp [byteLength, String.utf8ByteSize, List.utf8Encode_singleton]

theorem length_le_byteLength (text : List Char) : text.length ≤ byteLength text := by
  induction text with
  | nil => exact Nat.zero_le _
  | cons c text ih =>
    have visible := Char.utf8Size_pos c
    rw [byteLength_cons, List.length_cons]
    omega

theorem length_quotedChar_le (single : Bool) (c : Char) :
    (quotedChar single c).length ≤ 4 * c.utf8Size := by
  have visible := Char.utf8Size_pos c
  cases single with
  | true =>
    rw [quotedChar, if_pos rfl]
    split <;> simp only [List.length_cons, List.length_nil] <;> omega
  | false =>
    rw [quotedChar, if_neg Bool.false_ne_true]
    rcases escaped_eq c with ⟨itself, -⟩ | escape
    · rw [itself, List.length_singleton]
      omega
    · exact escape.short

theorem length_quotedWord_le (single : Bool) (word : List Char) :
    (quotedWord single word).length ≤ 4 * byteLength word := by
  induction word with
  | nil => exact Nat.zero_le _
  | cons c word ih =>
    have here := length_quotedChar_le single c
    rw [byteLength_cons, show quotedWord single (c :: word) =
      quotedChar single c ++ quotedWord single word from rfl, List.length_append]
    omega

/-- A text of one line stays on one line inside quotes, and every byte grows to four characters at
most. -/
theorem Quoted.of_flat (quoted : Quoted single width text inside)
    (flat : ∀ c ∈ text, isBreak c = false) :
    (∀ c ∈ inside, isBreak c = false) ∧ inside.length ≤ 4 * byteLength text := by
  induction quoted with
  | word solid => exact ⟨flat_quotedWord solid, length_quotedWord_le _ _⟩
  | @spaces word text written solid count front _ ih =>
    rw [List.forall_mem_append, List.forall_mem_append] at flat
    obtain ⟨plain, short⟩ := ih flat.2.2
    have words := length_quotedWord_le single word
    have spaces := length_le_byteLength (pad (count + 1))
    refine ⟨List.forall_mem_append.2 ⟨flat_quotedWord solid,
      List.forall_mem_append.2 ⟨flat.2.1, plain⟩⟩, ?_⟩
    rw [byteLength_append, byteLength_append, List.length_append, List.length_append]
    omega
  | @breaks word gap text written kind solid visible kept front _ ih =>
    obtain ⟨c, others, rfl⟩ := List.exists_cons_of_ne_nil visible
    have here := flat c (by simp)
    rw [(keptBreak_spec (kept c List.mem_cons_self)).2.1] at here
    cases here

/-- A text that is a key on one line is found to be one. -/
theorem Written.of_isSimpleKey (lines : Written width text style written)
    (simple : isSimpleKey text = true) :
    (∀ c ∈ written, isBreak c = false) ∧ written.length ≤ 4 * maxSimpleKey + 2 := by
  simp only [isSimpleKey, Bool.and_eq_true, Bool.not_eq_true', List.any_eq_false,
    Bool.not_eq_true, decide_eq_true_eq] at simple
  obtain ⟨flat, few⟩ := simple
  cases lines with
  | plain allowed visible =>
    have short := length_le_byteLength text
    exact ⟨flat, by omega⟩
  | quoted single quoted printable =>
    have quote : isBreak (closing single) = false := by cases single <;> decide
    obtain ⟨plain, short⟩ := quoted.of_flat flat
    refine ⟨List.forall_mem_cons.2 ⟨quote, List.forall_mem_append.2
      ⟨plain, List.forall_mem_singleton.2 quote⟩⟩, ?_⟩
    simp only [List.length_cons, List.length_append, List.length_nil]
    omega
  | literal visible printable several =>
    have here := flat _ several
    rw [isBreak_newline] at here
    cases here

end SaveManifest.Yaml
