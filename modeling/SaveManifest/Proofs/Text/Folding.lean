import SaveManifest.Text.Ascii
import SaveManifest.Text.Blank
import SaveManifest.Text.Folding

/-!
# The two foldings of letters

Simple case folding and the lower-case forms of ASCII agree on ASCII. Beyond it they part at two
characters only, the long s and the Kelvin sign, whose representatives are the letters `s` and `k`
(`fold_of_outside`). So an ASCII character that is no letter is matched by itself alone
(`eq_of_fold_eq`), and folding does not see the case of ASCII letters (`fold_lower`).
-/

namespace SaveManifest.Text

theorem fold_of_ascii {c : Char} (ascii : c.toNat < 128) : fold c = lower c := by
  unfold fold
  rw [if_pos ascii]
  rfl

/-- The characters outside ASCII that fold into it. -/
def isLookalike (c : Char) : Bool := c == '\u017F' || c == '\u212A'

/-- A run of the folding table maps its characters to characters outside ASCII, unless it is the
run of a lookalike alone. -/
def CaseRange.StaysOutside (range : CaseRange) : Prop :=
  (range.first = range.last ∧ isLookalike (Char.ofNat range.first) = true) ∨
    (128 ≤ range.first + range.shift ∧
      (range.last + range.shift < 0xD800 ∨
        (0xE000 ≤ range.first + range.shift ∧ range.last + range.shift < 0x110000)))

instance (range : CaseRange) : Decidable range.StaysOutside :=
  inferInstanceAs (Decidable (_ ∨ _))

theorem staysOutside_foldingRanges : ∀ range ∈ foldingRanges, range.StaysOutside := by
  decide +kernel

theorem toNat_ofNat {point : Nat} (valid : point.isValidChar) : (Char.ofNat point).toNat = point := by
  rw [Char.ofNat, dif_pos valid]
  rfl

/-- Outside ASCII, folding stays outside but for the lookalikes. -/
theorem fold_of_outside {c : Char} (outside : 128 ≤ c.toNat) (plain : isLookalike c = false) :
    128 ≤ (fold c).toNat := by
  unfold fold
  rw [if_neg (Nat.not_lt.2 outside), mapped?]
  cases found : foldingRanges.find? (·.covers c.toNat) with
  | none => exact outside
  | some range =>
    have covers := List.find?_some found
    simp only [CaseRange.covers, Bool.and_eq_true, decide_eq_true_eq] at covers
    obtain ⟨⟨first, last⟩, -⟩ := covers
    rw [Option.map_some, Option.getD_some]
    rcases staysOutside_foldingRanges range (List.mem_of_find?_eq_some found) with
      ⟨single, lookalike⟩ | ⟨above, valid⟩
    · have same : range.first = c.toNat := by omega
      rw [same, Char.ofNat_toNat, plain] at lookalike
      cases lookalike
    · rw [toNat_ofNat]
      · omega
      · unfold Nat.isValidChar
        omega

theorem lower_of_not_letter {c : Char} (other : isLetter c = false) : lower c = c := by
  unfold lower
  rw [if_neg]
  intro capital
  simp [isLetter, capital] at other

/-- What holds of the first 128 characters holds of every character of ASCII. -/
theorem ascii_induction {P : Char → Prop} (listed : ∀ point < 128, P (Char.ofNat point)) {c : Char}
    (ascii : c.toNat < 128) : P c := by
  have holds := listed c.toNat ascii
  rwa [Char.ofNat_toNat] at holds

theorem isLetter_lower {c : Char} (ascii : c.toNat < 128) : isLetter (lower c) = isLetter c :=
  ascii_induction (P := fun c => isLetter (lower c) = isLetter c) (by decide +kernel) ascii

/-- A character that is no letter is matched by itself alone. -/
theorem eq_of_fold_eq {c mark : Char} (ascii : mark.toNat < 128) (other : isLetter mark = false)
    (same : fold c = fold mark) : c = mark := by
  rw [fold_of_ascii ascii, lower_of_not_letter other] at same
  by_cases inside : c.toNat < 128
  · rw [fold_of_ascii inside] at same
    have notLetter : isLetter c = false := by rw [← isLetter_lower inside, same, other]
    rwa [lower_of_not_letter notLetter] at same
  · cases lookalike : isLookalike c with
    | false =>
      have stays := fold_of_outside (Nat.not_lt.1 inside) lookalike
      rw [same] at stays
      omega
    | true =>
      have letters : isLetter (fold '\u017F') = true ∧ isLetter (fold '\u212A') = true := by
        decide +kernel
      simp only [isLookalike, Bool.or_eq_true, beq_iff_eq] at lookalike
      rcases lookalike with rfl | rfl
      · rw [same, other] at letters
        cases letters.1
      · rw [same, other] at letters
        cases letters.2

theorem fold_lower (c : Char) : fold (lower c) = fold c := by
  by_cases ascii : c.toNat < 128
  · exact ascii_induction (P := fun c => fold (lower c) = fold c) (by decide +kernel) ascii
  · have notCapital : ¬('A' ≤ c ∧ c ≤ 'Z') := by
      rintro ⟨-, last⟩
      have bound : c.toNat ≤ 'Z'.toNat := last
      exact ascii (Nat.lt_of_le_of_lt bound (by decide))
    unfold lower
    rw [if_neg notCapital]

theorem isBlank_lower {c : Char} (ascii : c.toNat < 128) : isBlank (lower c) = isBlank c :=
  ascii_induction (P := fun c => isBlank (lower c) = isBlank c) (by decide +kernel) ascii

/-- What folds to a visible character of ASCII is visible. -/
theorem isBlank_of_fold {c : Char} (ascii : (fold c).toNat < 128)
    (visible : isBlank (fold c) = false) : isBlank c = false := by
  by_cases inside : c.toNat < 128
  · rwa [fold_of_ascii inside, isBlank_lower inside] at visible
  · cases lookalike : isLookalike c with
    | false =>
      have stays := fold_of_outside (Nat.not_lt.1 inside) lookalike
      omega
    | true =>
      simp only [isLookalike, Bool.or_eq_true, beq_iff_eq] at lookalike
      rcases lookalike with rfl | rfl
      · decide
      · decide

end SaveManifest.Text
