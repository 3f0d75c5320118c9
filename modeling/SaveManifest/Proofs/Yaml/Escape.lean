import Mathlib.Algebra.Group.Nat.Defs
import SaveManifest.Yaml.Printer
import SaveManifest.Yaml.ScalarText

/-!
# Escapes

Every character that double quotes hold as an escape is read back from its escape
(`escaped_eq`): the ones with a letter of their own, and all others by their number in
hexadecimal digits.
-/

namespace SaveManifest.Yaml

open SaveManifest.Text

theorem digitValue?_hexDigit {value : Nat} (small : value < 16) :
    digitValue? 16 (hexDigit value) = some value := by
  have all : ∀ value < 16, digitValue? 16 (hexDigit value) = some value := by decide
  exact all value small

theorem hexDigit_flat (value : Nat) :
    isBreak (hexDigit (value % 16)) = false ∧ isPrintable (hexDigit (value % 16)) = true := by
  have all : ∀ value < 16, isBreak (hexDigit value) = false ∧ isPrintable (hexDigit value) = true :=
    by decide
  exact all _ (Nat.mod_lt _ (by decide))

theorem length_hexDigits (width value : Nat) : (hexDigits width value).length = width := by
  induction width generalizing value with
  | zero => rfl
  | succ width ih => rw [hexDigits, List.length_append, ih, List.length_singleton]

theorem flat_of_mem_hexDigits {width value : Nat} {c : Char}
    (member : c ∈ hexDigits width value) : isBreak c = false ∧ isPrintable c = true := by
  induction width generalizing value with
  | zero => cases member
  | succ width ih =>
    rw [hexDigits, List.mem_append, List.mem_singleton] at member
    rcases member with before | rfl
    · exact ih before
    · exact hexDigit_flat value

/-- Reading the digits of a number behind others. -/
theorem foldlM_hexDigits {width value : Nat} (small : value < 16 ^ width) (front : Nat) :
    (hexDigits width value).foldlM
      (fun value c => (digitValue? 16 c).map (value * 16 + ·)) front =
      some (front * 16 ^ width + value) := by
  induction width generalizing value with
  | zero =>
    have zero : value = 0 := by simpa using small
    simp [hexDigits, zero]
  | succ width ih =>
    rw [Nat.pow_succ] at small
    rw [hexDigits, List.foldlM_append, ih (by omega)]
    simp only [Option.bind_eq_bind, Option.bind_some, List.foldlM_cons, List.foldlM_nil,
      digitValue?_hexDigit (Nat.mod_lt value (by decide : 0 < 16)), Option.map_some,
      Option.pure_def, Option.some.injEq]
    rw [Nat.pow_succ, Nat.add_mul, Nat.mul_assoc, Nat.add_assoc]
    omega

theorem readHex?_hexDigits {width value : Nat} (small : value < 16 ^ width) (rest : List Char) :
    readHex? width (hexDigits width value ++ rest) = some value := by
  have front : (hexDigits width value ++ rest).take width = hexDigits width value := by
    rw [List.take_append_of_le_length (Nat.le_of_eq (length_hexDigits width value).symm),
      List.take_of_length_le (Nat.le_of_eq (length_hexDigits width value))]
  rw [readHex?, front, if_pos (length_hexDigits width value), foldlM_hexDigits small]
  simp

/-- A text that is a backslash and what stands for a character behind it. -/
structure IsEscape (c : Char) (written : List Char) : Prop where
  shape : ∃ tail, written = '\\' :: tail ∧ tail.head?.any isBreak = false ∧
    ∀ rest, readEscape? (tail ++ rest) = some (c, written.length)
  flat : ∀ d ∈ written, isBreak d = false ∧ isPrintable d = true
  short : written.length ≤ 4 * c.utf8Size

/-- An escape of a letter. -/
theorem isEscape_letter {c letter : Char}
    (flat : isBreak letter = false ∧ isPrintable letter = true)
    (read : ∀ rest, readEscape? (letter :: rest) = some (c, 2)) : IsEscape c ['\\', letter] where
  shape := ⟨[letter], rfl, by simp [flat.1], read⟩
  flat := List.forall_mem_cons.2 ⟨by decide, List.forall_mem_singleton.2 flat⟩
  short := by
    have visible := Char.utf8Size_pos c
    simp only [List.length_cons, List.length_nil]
    omega

theorem toNat_lt_of_char (c : Char) : c.toNat < 0x110000 := by
  rcases c.valid with low | high
  · exact Nat.lt_trans low (by decide)
  · exact high.2

theorem not_le_of_toNat_lt {c : Char} {bound : UInt32} (large : bound.toNat < c.toNat) :
    ¬ c.val ≤ bound := fun small => Nat.not_le.2 large small

/-- Characters beyond Latin-1 take two bytes at least. -/
theorem two_le_utf8Size {c : Char} (large : 0xFF < c.toNat) : 2 ≤ c.utf8Size := by
  rw [Char.utf8Size, if_neg (not_le_of_toNat_lt (Nat.lt_trans (by decide) large))]
  split
  · exact Nat.le_refl 2
  · split <;> decide

/-- Characters beyond the basic plane take four bytes. -/
theorem four_le_utf8Size {c : Char} (large : 0xFFFF < c.toNat) : 4 ≤ c.utf8Size := by
  have size : c.utf8Size = 4 := by
    rw [Char.utf8Size, if_neg (not_le_of_toNat_lt (Nat.lt_trans (by decide) large)),
      if_neg (not_le_of_toNat_lt (Nat.lt_trans (by decide) large)),
      if_neg (not_le_of_toNat_lt (Nat.lt_of_le_of_lt (by decide) large))]
  exact Nat.le_of_eq size.symm

/-- An escape of a number in hexadecimal digits. -/
theorem isEscape_number {c letter : Char} {width : Nat}
    (flat : isBreak letter = false ∧ isPrintable letter = true) (small : c.toNat < 16 ^ width)
    (short : width + 2 ≤ 4 * c.utf8Size)
    (read : ∀ rest, readEscape? (letter :: rest) = (do
      let point ← readHex? width rest
      if (0xD800 ≤ point ∧ point ≤ 0xDFFF) ∨ 0x10FFFF < point then none
      else some (Char.ofNat point, width + 2))) :
    IsEscape c ('\\' :: letter :: hexDigits width c.toNat) where
  shape := by
    refine ⟨letter :: hexDigits width c.toNat, rfl, by simp [flat.1], ?_⟩
    intro rest
    have valid : ¬ ((0xD800 ≤ c.toNat ∧ c.toNat ≤ 0xDFFF) ∨ 0x10FFFF < c.toNat) := by
      rcases c.valid with low | high
      · have below : c.toNat < 0xD800 := low
        omega
      · have above : 0xDFFF < c.toNat ∧ c.toNat < 0x110000 := high
        omega
    rw [List.cons_append, read, readHex?_hexDigits small]
    simp only [Option.bind_eq_bind, Option.bind_some, if_neg valid, Char.ofNat_toNat,
      List.length_cons, length_hexDigits]
  flat := by
    intro d member
    rcases List.mem_cons.1 member with rfl | later
    · exact ⟨by decide, by decide⟩
    · rcases List.mem_cons.1 later with rfl | digit
      · exact flat
      · exact flat_of_mem_hexDigits digit
  short := by
    rw [List.length_cons, List.length_cons, length_hexDigits]
    exact short

/-- A character stands for itself inside double quotes, or its escape is read back. -/
theorem escaped_eq (c : Char) :
    (escaped c = [c] ∧ isBreak c = false ∧ isPrintable c = true ∧ c ≠ '"' ∧ c ≠ '\\') ∨
      IsEscape c (escaped c) := by
  unfold escaped
  split
  · next itself =>
    simp only [Bool.and_eq_true, Bool.not_eq_true', bne_iff_ne] at itself
    exact Or.inl ⟨rfl, itself.1.1.2, itself.1.1.1, itself.1.2, itself.2⟩
  · right
    have named : ∀ point, c.toNat = point → c = Char.ofNat point := by
      rintro point rfl
      exact (Char.ofNat_toNat c).symm
    split
    case h_16 point =>
      have bound := toNat_lt_of_char c
      have visible := Char.utf8Size_pos c
      split
      · exact isEscape_number (by decide) (by omega) (by omega) (fun _ => rfl)
      · next large =>
        have size := two_le_utf8Size (Nat.lt_of_not_le large)
        split
        · exact isEscape_number (by decide) (by omega) (by omega) (fun _ => rfl)
        · next large =>
          have size := four_le_utf8Size (Nat.lt_of_not_le large)
          exact isEscape_number (by decide) (by omega) (by omega) (fun _ => rfl)
    all_goals
      next point =>
        rw [named _ point]
        exact isEscape_letter (by decide) (fun _ => rfl)

end SaveManifest.Yaml
