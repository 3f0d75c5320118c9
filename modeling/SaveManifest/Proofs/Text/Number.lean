import SaveManifest.Text.Number

/-!
# Numbers in decimal digits

A number written in decimal digits is read back, and begins with a zero only if it is zero.
-/

namespace SaveManifest.Text

variable {c : Char}

/-- Which characters are digits. -/
theorem mem_of_isDigit (digit : isDigit c = true) :
    c ∈ ['0', '1', '2', '3', '4', '5', '6', '7', '8', '9'] := by
  simp only [isDigit, Bool.and_eq_true, decide_eq_true_eq] at digit
  have low : 48 ≤ c.toNat := digit.1
  have high : c.toNat ≤ 57 := digit.2
  rw [← Char.ofNat_toNat c]
  generalize c.toNat = point at low high ⊢
  have all : ∀ point < 58, 48 ≤ point → Char.ofNat point ∈
      ['0', '1', '2', '3', '4', '5', '6', '7', '8', '9'] := by decide
  exact all point (Nat.lt_succ_of_le high) low

/-- The digits of a number. -/
theorem toList_toString (value : Nat) : (toString value).toList = Nat.toDigits 10 value := by
  rw [Nat.toString_eq_repr, Nat.toList_repr]

theorem isDigit_of_mem_toString {value : Nat} (member : c ∈ (toString value).toList) :
    isDigit c = true := by
  rw [toList_toString] at member
  have digit := Nat.isDigit_of_mem_toDigits (by decide) (by decide) member
  simp only [Char.isDigit, Bool.and_eq_true, decide_eq_true_eq] at digit
  simp only [isDigit, Bool.and_eq_true, decide_eq_true_eq]
  exact digit

theorem digitValue?_of_isDigit (digit : isDigit c = true) :
    digitValue? 10 c = some (c.toNat - 48) := by
  have bounds := digit
  simp only [isDigit, Bool.and_eq_true, decide_eq_true_eq] at bounds
  have high : c.toNat ≤ 57 := bounds.2
  have small : c.toNat - 48 < 10 := by omega
  simp [digitValue?, digit, small]

theorem foldlM_digits {digits : List Char} (digital : ∀ c ∈ digits, isDigit c = true)
    (front : Nat) :
    digits.foldlM (fun value c => (digitValue? 10 c).map (value * 10 + ·)) front =
      some (Nat.ofDigitChars 10 digits front) := by
  induction digits generalizing front with
  | nil => rfl
  | cons c digits ih =>
    obtain ⟨here, behind⟩ := List.forall_mem_cons.1 digital
    rw [List.foldlM_cons, digitValue?_of_isDigit here, Nat.ofDigitChars_cons, Nat.mul_comm 10 front,
      ← ih behind]
    rfl

theorem toList_toString_ne_nil (value : Nat) : (toString value).toList ≠ [] := by
  rw [toList_toString]
  exact Nat.toDigits_ne_nil

/-- The digits of a number denote it. -/
theorem readDigits?_toString (value : Nat) :
    readDigits? 10 (toString value).toList = some value := by
  obtain ⟨c, digits, split⟩ := List.exists_cons_of_ne_nil (toList_toString_ne_nil value)
  have read := foldlM_digits (fun c member => @isDigit_of_mem_toString c value member) 0
  rw [split] at read ⊢
  rw [readDigits?]
  · rw [read, ← split, toList_toString, Nat.ofDigitChars_ten_toDigits]
  · exact fun none => nomatch none

/-- Only zero begins with a zero. -/
theorem head?_toString {value : Nat} (positive : 0 < value) :
    (toString value).toList.head? ≠ some '0' := by
  rw [toList_toString]
  induction value using Nat.base_induction 10 (by decide) with
  | single value small =>
    have all : ∀ value < 10, 0 < value → Nat.digitChar value ≠ '0' := by decide
    rw [Nat.toDigits_of_lt_base small, List.head?_cons]
    exact fun same => all value small positive (Option.some.inj same)
  | digit front last small above ih =>
    obtain ⟨c, others, split⟩ := List.exists_cons_of_ne_nil (@Nat.toDigits_ne_nil front 10)
    rw [← Nat.toDigits_append_toDigits (by decide) above small]
    rw [split] at ih ⊢
    exact ih above

end SaveManifest.Text
