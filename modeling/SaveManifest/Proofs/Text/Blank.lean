import SaveManifest.Template

/-!
# Trimming and collapsing

Trimming cuts a text into white space, what is kept, and white space again (`trim_split`). The
words of a text do not see white space at its ends, so the normal forms of names and keys are the
same before and after trimming. Collapsing keeps every other character (`mem_collapse`), and a key
without white space and underscores is in its normal form already (`normalizeKey_of_visible`).
-/

namespace SaveManifest.Text

theorem takeWhile_blank (text : List Char) : ∀ c ∈ text.takeWhile isBlank, isBlank c = true := by
  intro c member
  have all := List.all_takeWhile (p := isBlank) (l := text)
  exact List.all_eq_true.1 all c member

/-- A text is white space, its trimmed form, and white space. -/
theorem trim_split (text : List Char) :
    ∃ front back, text = front ++ trim text ++ back ∧
      (∀ c ∈ front, isBlank c = true) ∧ ∀ c ∈ back, isBlank c = true := by
  refine ⟨text.takeWhile isBlank, ((trimLeft text).reverse.takeWhile isBlank).reverse, ?_,
    takeWhile_blank text, fun c member => takeWhile_blank _ c (List.mem_reverse.1 member)⟩
  have right : trimLeft text =
      trimRight (trimLeft text) ++ ((trimLeft text).reverse.takeWhile isBlank).reverse := by
    rw [trimRight, ← List.reverse_append, List.takeWhile_append_dropWhile, List.reverse_reverse]
  rw [trim, List.append_assoc, ← right, trimLeft, List.takeWhile_append_dropWhile]

theorem mem_of_mem_trim {text : List Char} {c : Char} (member : c ∈ trim text) : c ∈ text := by
  obtain ⟨front, back, split, -, -⟩ := trim_split text
  rw [split]
  simp [member]

theorem splitOn_append {cut : Char → Bool} {c : Char} (cuts : cut c = true)
    (front back : List Char) :
    splitOn cut (front ++ c :: back) = splitOn cut front ++ splitOn cut back := by
  induction front with
  | nil => simp [splitOn, cuts]
  | cons d front ih =>
    rw [List.cons_append, splitOn, splitOn]
    split
    · rw [ih, List.cons_append]
    · rw [ih]
      cases pieces : splitOn cut front with
      | nil => exact absurd pieces (splitOn_ne_nil cut front)
      | cons piece others => rfl

theorem splitOn_eq_singleton {cut : Char → Bool} {text : List Char}
    (uncut : ∀ c ∈ text, cut c = false) : splitOn cut text = [text] := by
  induction text with
  | nil => rfl
  | cons c text ih =>
    obtain ⟨here, later⟩ := List.forall_mem_cons.1 uncut
    simp [splitOn, here, ih later]

theorem words_append {c : Char} (blank : isBlank c = true) (front back : List Char) :
    words (front ++ c :: back) = words front ++ words back := by
  rw [words, splitOn_append blank, List.filter_append]
  rfl

theorem words_blank_append {front : List Char} (blank : ∀ c ∈ front, isBlank c = true)
    (text : List Char) : words (front ++ text) = words text := by
  induction front with
  | nil => rfl
  | cons c front ih =>
    have first := words_append (blank c List.mem_cons_self) [] (front ++ text)
    rw [List.cons_append, ← ih fun d member => blank d (List.mem_cons_of_mem _ member)]
    exact first

theorem words_append_blank {back : List Char} (blank : ∀ c ∈ back, isBlank c = true)
    (text : List Char) : words (text ++ back) = words text := by
  cases back with
  | nil => rw [List.append_nil]
  | cons c back =>
    have rest := words_blank_append
      (fun d member => blank d (List.mem_cons_of_mem _ member)) ([] : List Char)
    rw [List.append_nil] at rest
    have nothing : words [] = [] := rfl
    rw [words_append (blank c List.mem_cons_self), rest, nothing, List.append_nil]

theorem mem_splitOn_of_mem {cut : Char → Bool} {c : Char} {text : List Char} (member : c ∈ text)
    (kept : cut c = false) : ∃ piece ∈ splitOn cut text, c ∈ piece := by
  obtain ⟨front, back, rfl⟩ := List.append_of_mem member
  clear member
  induction front with
  | nil =>
    rw [List.nil_append, splitOn, if_neg (by simp [kept])]
    cases splitOn cut back with
    | nil => exact ⟨[c], by simp, by simp⟩
    | cons piece pieces => exact ⟨c :: piece, by simp, by simp⟩
  | cons d front ih =>
    obtain ⟨piece, found, inside⟩ := ih
    rw [List.cons_append, splitOn]
    split
    · exact ⟨piece, List.mem_cons_of_mem _ found, inside⟩
    · cases pieces : splitOn cut (front ++ c :: back) with
      | nil => rw [pieces] at found; cases found
      | cons first others =>
        rw [pieces] at found
        rcases List.mem_cons.1 found with rfl | later
        · exact ⟨d :: piece, by simp, List.mem_cons_of_mem _ inside⟩
        · exact ⟨piece, List.mem_cons_of_mem _ later, inside⟩

/-- A text without white space is one word, or none. -/
theorem collapse_of_visible {text : List Char} (visible : ∀ c ∈ text, isBlank c = false) :
    collapse text = text := by
  rw [collapse, words, splitOn_eq_singleton visible]
  cases text with
  | nil => rfl
  | cons c text => simp [List.intercalate]

/-- Collapsing keeps every character that is no white space. -/
theorem mem_collapse {c : Char} {text : List Char} (member : c ∈ text)
    (visible : isBlank c = false) : c ∈ collapse text := by
  obtain ⟨word, found, inside⟩ := mem_splitOn_of_mem member visible
  have isWord : word ∈ words text := by
    rw [words, List.mem_filter]
    refine ⟨found, ?_⟩
    cases word with
    | nil => cases inside
    | cons d word => rfl
  rw [collapse]
  generalize words text = all at isWord
  induction all with
  | nil => cases isWord
  | cons first others ih =>
    rcases List.mem_cons.1 isWord with rfl | later
    · cases others with
      | nil => simpa using inside
      | cons second others => simp [List.intercalate, inside]
    · have further := ih later
      cases others with
      | nil => cases later
      | cons second others =>
        rw [List.intercalate, List.intersperse_cons_cons, List.flatten_cons, List.flatten_cons]
        exact List.mem_append_right _ (List.mem_append_right _ further)

end SaveManifest.Text

namespace SaveManifest.Template

open SaveManifest.Text

/-- A key without white space and underscores is its own normal form. -/
theorem normalizeKey_of_visible {key : List Char}
    (visible : ∀ c ∈ key, isBlank c = false ∧ c ≠ '_') : normalizeKey key = key := by
  have same : key.map (fun c => if c = '_' then ' ' else c) = key :=
    (List.map_congr_left fun c member => if_neg (visible c member).2).trans (List.map_id key)
  rw [normalizeKey, same, collapse_of_visible fun c member => (visible c member).1]

/-- The normal form of a key does not depend on white space at its ends. -/
theorem normalizeKey_trim (key : List Char) : normalizeKey (trim key) = normalizeKey key := by
  have keep : ∀ text : List Char, (∀ c ∈ text, isBlank c = true) →
      ∀ c ∈ text.map (fun c => if c = '_' then ' ' else c), isBlank c = true := by
    intro text blank c member
    obtain ⟨d, inside, rfl⟩ := List.mem_map.1 member
    split
    · decide
    · exact blank d inside
  obtain ⟨front, back, split, frontBlank, backBlank⟩ := trim_split key
  have whole := congrArg (fun text => words (text.map fun c => if c = '_' then ' ' else c)) split
  simp only [List.map_append] at whole
  rw [words_append_blank (keep back backBlank), words_blank_append (keep front frontBlank)] at whole
  rw [normalizeKey, normalizeKey, collapse, collapse, whole]

theorem normalizeName_trim (name : List Char) : normalizeName (trim name) = normalizeName name := by
  rw [normalizeName, normalizeName, normalizeKey_trim]

end SaveManifest.Template
