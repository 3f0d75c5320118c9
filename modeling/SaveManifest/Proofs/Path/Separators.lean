import SaveManifest.Path.Separators

/-!
# The normal form of a path

A normalized path holds no backslash and no run of separators, does not end in a separator and does
not begin with a `~` segment (`isNormal_normalizeSeparators`). Normalization only moves separators
and spells out `~`: a stretch of a path without these is in the normal form exactly as it is in
the path (`infix_normalizeSeparators` and `infix_of_normalizeSeparators`).
-/

namespace SaveManifest.Path

/-- A stretch in which no character is `c` lies before or behind each place of `c`. -/
theorem infix_append_cons {c : Char} {part front back : List Char} (absent : c ∉ part) :
    part <:+: front ++ c :: back ↔ part <:+: front ∨ part <:+: back := by
  constructor
  · rintro ⟨before, behind, split⟩
    rw [List.append_assoc, List.append_eq_append_iff] at split
    rcases split with ⟨rest, early, late⟩ | ⟨rest, early, late⟩
    · -- The part begins within the front; it ends there too, since it does not hold `c`.
      rw [List.append_eq_append_iff] at late
      rcases late with ⟨tail, inFront, -⟩ | ⟨tail, beyond, behindIt⟩
      · exact Or.inl ⟨before, tail, by rw [early, inFront, List.append_assoc]⟩
      · cases tail with
        | nil =>
          rw [List.append_nil] at beyond
          exact Or.inl ⟨before, [], by rw [early, beyond, List.append_nil]⟩
        | cons d tail =>
          rw [List.cons_append, List.cons.injEq] at behindIt
          exact absurd (by rw [beyond, behindIt.1]; simp) absent
    · cases rest with
      | nil =>
        cases part with
        | nil => exact Or.inl (List.nil_infix)
        | cons d part =>
          rw [List.nil_append, List.cons_append, List.cons.injEq] at late
          exact absurd (by rw [late.1]; exact List.mem_cons_self) absent
      | cons d rest =>
        rw [List.cons_append, List.cons.injEq] at late
        exact Or.inr ⟨rest, behind, by rw [late.2, List.append_assoc]⟩
  · rintro (early | late)
    · exact early.trans (List.prefix_append front (c :: back)).isInfix
    · exact late.trans ((List.suffix_cons c back).trans (List.suffix_append front _)).isInfix

theorem joinRuns_cons_of_not_separator {c : Char} (plain : isSeparator c = false)
    (rest : List Char) : joinRuns (c :: rest) = c :: joinRuns rest := by
  cases rest with
  | nil => simp [joinRuns, plain]
  | cons d rest => simp [joinRuns, plain]

/-- A run of separators is written as one. -/
theorem joinRuns_cons_of_separator {c : Char} (separator : isSeparator c = true)
    (rest : List Char) :
    joinRuns (c :: rest) = '/' :: joinRuns (rest.dropWhile isSeparator) := by
  induction rest generalizing c with
  | nil => simp [joinRuns, separator]
  | cons d rest ih =>
    cases again : isSeparator d with
    | true =>
      rw [joinRuns, if_pos separator, if_pos again, ih again, List.dropWhile_cons, if_pos again]
    | false =>
      rw [joinRuns, if_pos separator, if_neg (by simp [again]), List.dropWhile_cons,
        if_neg (by simp [again])]

/-- Induction along the runs of separators of a text. -/
theorem run_induction {P : List Char → Prop} (nil : P [])
    (run : ∀ c rest, isSeparator c = true → P (rest.dropWhile isSeparator) → P (c :: rest))
    (plain : ∀ c rest, isSeparator c = false → P rest → P (c :: rest)) (text : List Char) :
    P text := by
  induction length : text.length using Nat.strongRecOn generalizing text with
  | ind n ih =>
    subst length
    cases text with
    | nil => exact nil
    | cons c rest =>
      cases separator : isSeparator c with
      | true =>
        have shorter : (rest.dropWhile isSeparator).length < (c :: rest).length := by
          have := (List.dropWhile_sublist isSeparator (l := rest)).length_le
          simp only [List.length_cons]
          omega
        exact run c rest separator (ih _ shorter _ rfl)
      | false => exact plain c rest separator (ih _ (by simp) _ rfl)

/-- What stands before and behind a character that is no separator is joined by itself. -/
theorem joinRuns_append_cons {c : Char} (plain : isSeparator c = false)
    (front back : List Char) :
    joinRuns (front ++ c :: back) = joinRuns front ++ c :: joinRuns back := by
  have kept := joinRuns_cons_of_not_separator plain back
  fun_induction joinRuns front with
  | case1 => exact kept
  | case2 d =>
    rw [List.singleton_append, List.singleton_append, joinRuns, plain, kept]
    split <;> rfl
  | case3 d e rest separator again ih =>
    rw [List.cons_append, List.cons_append, joinRuns, if_pos separator, if_pos again]
    exact ih
  | case4 d e rest separator last ih =>
    rw [List.cons_append, List.cons_append, joinRuns, if_pos separator, if_neg last]
    exact congrArg _ ih
  | case5 d e rest other ih =>
    rw [List.cons_append, List.cons_append, joinRuns, if_neg other]
    exact congrArg _ ih

theorem mem_joinRuns {c : Char} {text : List Char} (member : c ∈ joinRuns text) :
    c ∈ text ∨ c = '/' := by
  fun_induction joinRuns text with
  | case1 => cases member
  | case2 d =>
    rw [List.mem_singleton] at member
    split at member
    · exact Or.inr member
    · exact Or.inl (by rw [member]; exact List.mem_cons_self)
  | case3 d e rest separator again ih => exact (ih member).imp_left (List.mem_cons_of_mem d)
  | case4 d e rest separator last ih =>
    rcases List.mem_cons.1 member with slash | later
    · exact Or.inr slash
    · exact (ih later).imp_left (List.mem_cons_of_mem d)
  | case5 d e rest other ih =>
    rcases List.mem_cons.1 member with rfl | later
    · exact Or.inl List.mem_cons_self
    · exact (ih later).imp_left (List.mem_cons_of_mem d)

theorem head?_dropWhile_separator (text : List Char) :
    ∀ c, (text.dropWhile isSeparator).head? = some c → isSeparator c = false := by
  intro c first
  have kept := List.head?_dropWhile_not isSeparator text
  rw [first] at kept
  simpa using kept

theorem joinRuns_ne_nil {text : List Char} (visible : text ≠ []) : joinRuns text ≠ [] := by
  cases text with
  | nil => exact absurd rfl visible
  | cons c rest =>
    cases separator : isSeparator c with
    | true => simp [joinRuns_cons_of_separator separator]
    | false => simp [joinRuns_cons_of_not_separator separator]

/-- No backslash and no two separators side by side. -/
structure IsJoined (path : List Char) : Prop where
  slashes : '\\' ∉ path
  single : ¬ ['/', '/'] <:+: path

theorem isJoined_cons {c : Char} {path : List Char} (joined : IsJoined path) (slash : c ≠ '\\')
    (apart : c = '/' → path.head? ≠ some '/') : IsJoined (c :: path) where
  slashes := by
    intro member
    rcases List.mem_cons.1 member with same | later
    · exact slash same.symm
    · exact joined.slashes later
  single := by
    intro run
    rcases List.infix_cons_iff.1 run with front | later
    · cases path with
      | nil => simp at front
      | cons d path =>
        simp only [List.cons_prefix_cons] at front
        exact apart front.1.symm (by rw [List.head?_cons, ← front.2.1])
    · exact joined.single later

theorem IsJoined.append {front path : List Char} (joined : IsJoined path)
    (plain : ∀ c ∈ front, c ≠ '/' ∧ c ≠ '\\') : IsJoined (front ++ path) := by
  induction front with
  | nil => exact joined
  | cons c front ih =>
    obtain ⟨notSlash, notBack⟩ := plain c List.mem_cons_self
    have tail := ih fun d member => plain d (List.mem_cons_of_mem _ member)
    exact isJoined_cons tail notBack (absurd · notSlash)

theorem isJoined_joinRuns (text : List Char) : IsJoined (joinRuns text) := by
  induction text using run_induction with
  | nil => exact ⟨by simp [joinRuns], by simp [joinRuns]⟩
  | run c rest separator ih =>
    rw [joinRuns_cons_of_separator separator]
    apply isJoined_cons ih (by decide)
    intro _ again
    -- What follows a run of separators does not begin with one.
    cases kept : rest.dropWhile isSeparator with
    | nil => simp [kept, joinRuns] at again
    | cons d others =>
      have plain := head?_dropWhile_separator rest d (by rw [kept]; rfl)
      rw [kept, joinRuns_cons_of_not_separator plain, List.head?_cons, Option.some.injEq] at again
      rw [again] at plain
      exact absurd plain (by decide)
  | plain c rest separator ih =>
    rw [joinRuns_cons_of_not_separator separator]
    simp only [isSeparator, Bool.or_eq_false_iff, beq_eq_false_iff_ne] at separator
    exact isJoined_cons ih separator.2 (absurd · separator.1)

theorem IsJoined.of_infix {part path : List Char} (joined : IsJoined path)
    (inside : part <:+: path) : IsJoined part :=
  ⟨fun member => joined.slashes (inside.subset member),
    fun run => joined.single (run.trans inside)⟩

structure IsNormal (path : List Char) : Prop extends IsJoined path where
  trailing : 1 < path.length → path.getLast? ≠ some '/'
  home : path.takeWhile (· != '/') ≠ ['~']

theorem isPrefix_dropTrailing (path : List Char) : dropTrailing path <+: path := by
  unfold dropTrailing
  split
  · exact List.dropLast_prefix path
  · exact List.prefix_rfl

/-- Without its last separator, a path without runs does not end in a separator. -/
theorem getLast?_dropTrailing {path : List Char} (joined : IsJoined path)
    (long : 1 < (dropTrailing path).length) : (dropTrailing path).getLast? ≠ some '/' := by
  unfold dropTrailing at long ⊢
  split
  · next ends =>
    intro again
    obtain ⟨front, split⟩ := List.getLast?_eq_some_iff.1 again
    obtain ⟨whole, ending⟩ := List.getLast?_eq_some_iff.1 ends.2
    rw [ending, List.dropLast_concat] at split
    apply joined.single
    rw [ending, split, List.append_assoc]
    exact (List.suffix_append front _).isInfix
  · next goesOn =>
    rw [if_neg goesOn] at long
    intro ends
    exact goesOn ⟨long, ends⟩

theorem dropTrailing_ne_nil {path : List Char} (visible : path ≠ []) : dropTrailing path ≠ [] := by
  unfold dropTrailing
  split
  · next ends =>
    intro nothing
    have := congrArg List.length nothing
    rw [List.length_dropLast, List.length_nil] at this
    omega
  · exact visible

theorem expandHome_ne_nil {path : List Char} (visible : path ≠ []) : expandHome path ≠ [] := by
  unfold expandHome
  split
  · exact List.cons_ne_nil _ _
  · exact List.cons_ne_nil _ _
  · exact visible

theorem normalizeSeparators_ne_nil {text : List Char} (visible : text ≠ []) :
    normalizeSeparators text ≠ [] :=
  expandHome_ne_nil (dropTrailing_ne_nil (joinRuns_ne_nil visible))

/-- Spelling out a leading `~` keeps the other properties of a normal form. -/
theorem isNormal_expandHome {path : List Char} (joined : IsJoined path)
    (trailing : 1 < path.length → path.getLast? ≠ some '/') : IsNormal (expandHome path) := by
  unfold expandHome
  split
  · exact ⟨⟨by simp, by decide +kernel⟩, by simp, by simp⟩
  · next rest =>
    have tail : IsJoined ('/' :: rest) := joined.of_infix (List.suffix_cons '~' _).isInfix
    have split : "<home>/".toList ++ rest = "<home>".toList ++ '/' :: rest := rfl
    rw [split]
    refine ⟨tail.append (by simp), ?_, ?_⟩
    · intro _
      have last := trailing (by simp)
      rw [List.getLast?_cons_cons] at last
      rw [List.getLast?_append, List.getLast?_cons]
      rwa [List.getLast?_cons] at last
    · intro segment
      have first := congrArg List.head? segment
      simp at first
  · next notHome notBelow =>
    refine ⟨joined, trailing, ?_⟩
    intro segment
    -- The segment ends where the path ends or at a separator; both shapes were excluded.
    have split := List.takeWhile_append_dropWhile (p := (· != '/')) (l := path)
    rw [segment] at split
    cases behind : path.dropWhile (· != '/') with
    | nil =>
      rw [behind, List.append_nil] at split
      exact notHome split.symm
    | cons c rest =>
      have slash : c = '/' := by
        have kept := List.head?_dropWhile_not (· != '/') path
        rw [behind] at kept
        simpa using kept
      rw [behind, slash] at split
      exact notBelow rest split.symm

theorem isNormal_normalizeSeparators (text : List Char) : IsNormal (normalizeSeparators text) := by
  have joined := isJoined_joinRuns text
  apply isNormal_expandHome
  · exact joined.of_infix (isPrefix_dropTrailing _).isInfix
  · exact getLast?_dropTrailing joined

structure IsInert (part : List Char) : Prop where
  visible : part ≠ []
  plain : ∀ c ∈ part, isSeparator c = false
  home : '~' ∉ part

theorem IsInert.not_slash {part : List Char} (inert : IsInert part) : '/' ∉ part := by
  intro member
  have plain := inert.plain '/' member
  exact absurd plain (by decide)

theorem joinRuns_append_of_plain {part : List Char} (plain : ∀ c ∈ part, isSeparator c = false)
    (rest : List Char) : joinRuns (part ++ rest) = part ++ joinRuns rest := by
  induction part with
  | nil => rfl
  | cons c part ih =>
    rw [List.cons_append, joinRuns_cons_of_not_separator (plain c List.mem_cons_self),
      ih fun d member => plain d (List.mem_cons_of_mem _ member), List.cons_append]

theorem IsInert.infix_dropWhile {part text : List Char} (inert : IsInert part)
    (inside : part <:+: text) : part <:+: text.dropWhile isSeparator := by
  induction text with
  | nil => exact inside
  | cons c rest ih =>
    rw [List.dropWhile_cons]
    cases separator : isSeparator c with
    | false => exact inside
    | true =>
      have absent : c ∉ part := by
        intro member
        rw [inert.plain c member] at separator
        cases separator
      have split : part <:+: [] ++ c :: rest := inside
      rcases (infix_append_cons absent).1 split with nothing | later
      · exact absurd (List.infix_nil.1 nothing) inert.visible
      · exact ih later

theorem IsInert.infix_joinRuns {part text : List Char} (inert : IsInert part)
    (inside : part <:+: text) : part <:+: joinRuns text := by
  induction text using run_induction with
  | nil => exact inside
  | run c rest separator ih =>
    have absent : c ∉ part := by
      intro member
      rw [inert.plain c member] at separator
      cases separator
    have split : part <:+: [] ++ c :: rest := inside
    rw [joinRuns_cons_of_separator separator]
    rcases (infix_append_cons absent).1 split with nothing | later
    · exact absurd (List.infix_nil.1 nothing) inert.visible
    · exact (ih (inert.infix_dropWhile later)).trans (List.suffix_cons '/' _).isInfix
  | plain c rest separator ih =>
    rcases List.infix_cons_iff.1 inside with ⟨behind, front⟩ | later
    · rw [← front, joinRuns_append_of_plain inert.plain]
      exact (List.prefix_append part _).isInfix
    · rw [joinRuns_cons_of_not_separator separator]
      exact (ih later).trans (List.suffix_cons c _).isInfix

theorem IsInert.infix_dropTrailing {part path : List Char} (inert : IsInert part)
    (inside : part <:+: path) : part <:+: dropTrailing path := by
  unfold dropTrailing
  split
  · next ends =>
    obtain ⟨front, ending⟩ := List.getLast?_eq_some_iff.1 ends.2
    rw [ending] at inside ⊢
    rw [List.dropLast_concat]
    rcases (infix_append_cons inert.not_slash).1 inside with early | nothing
    · exact early
    · exact absurd (List.infix_nil.1 nothing) inert.visible
  · exact inside

theorem IsInert.infix_expandHome {part path : List Char} (inert : IsInert part)
    (inside : part <:+: path) : part <:+: expandHome path := by
  unfold expandHome
  split
  · have split : part <:+: [] ++ '~' :: [] := inside
    rcases (infix_append_cons inert.home).1 split with nothing | nothing
    · exact absurd (List.infix_nil.1 nothing) inert.visible
    · exact absurd (List.infix_nil.1 nothing) inert.visible
  · next rest =>
    have split : part <:+: ['~'] ++ '/' :: rest := inside
    rcases (infix_append_cons inert.not_slash).1 split with alone | later
    · have lone : part <:+: [] ++ '~' :: [] := alone
      rcases (infix_append_cons inert.home).1 lone with nothing | nothing
      · exact absurd (List.infix_nil.1 nothing) inert.visible
      · exact absurd (List.infix_nil.1 nothing) inert.visible
    · exact later.trans (List.suffix_append _ rest).isInfix
  · exact inside

/-- What a path holds between its separators it still holds in normal form. -/
theorem IsInert.infix_normalizeSeparators {part text : List Char} (inert : IsInert part)
    (inside : part <:+: text) : part <:+: normalizeSeparators text :=
  inert.infix_expandHome (inert.infix_dropTrailing (inert.infix_joinRuns inside))

theorem prefix_of_joinRuns {part text : List Char} (plain : '/' ∉ part)
    (inside : part <+: joinRuns text) : part <+: text := by
  induction part generalizing text with
  | nil => exact List.nil_prefix
  | cons c part ih =>
    rw [List.mem_cons, not_or] at plain
    cases text with
    | nil => simp [joinRuns] at inside
    | cons d rest =>
      cases separator : isSeparator d with
      | true =>
        rw [joinRuns_cons_of_separator separator, List.cons_prefix_cons] at inside
        exact absurd inside.1.symm plain.1
      | false =>
        rw [joinRuns_cons_of_not_separator separator, List.cons_prefix_cons] at inside
        rw [List.cons_prefix_cons]
        exact ⟨inside.1, ih plain.2 inside.2⟩

theorem infix_of_joinRuns {part text : List Char} (plain : '/' ∉ part)
    (inside : part <:+: joinRuns text) : part <:+: text := by
  induction text using run_induction with
  | nil => exact inside
  | run c rest separator ih =>
    rw [joinRuns_cons_of_separator separator] at inside
    have split : part <:+: [] ++ '/' :: joinRuns (rest.dropWhile isSeparator) := inside
    rcases (infix_append_cons plain).1 split with nothing | later
    · exact nothing.trans (List.nil_infix)
    · exact (ih later).trans
        ((List.dropWhile_suffix isSeparator).trans (List.suffix_cons c rest)).isInfix
  | plain c rest separator ih =>
    rw [joinRuns_cons_of_not_separator separator] at inside
    rcases List.infix_cons_iff.1 inside with front | later
    · have whole : joinRuns (c :: rest) = c :: joinRuns rest :=
        joinRuns_cons_of_not_separator separator rest
      exact (prefix_of_joinRuns plain (whole ▸ front)).isInfix
    · exact (ih later).trans (List.suffix_cons c rest).isInfix

/-- A stretch of a normal form without separators comes from the path, if it is not a part of the
spelled-out `~`. -/
theorem infix_of_normalizeSeparators {part text : List Char} (plain : '/' ∉ part)
    (foreign : ¬ part <:+: "<home>".toList) (inside : part <:+: normalizeSeparators text) :
    part <:+: text := by
  apply infix_of_joinRuns plain
  refine List.IsInfix.trans ?_ (isPrefix_dropTrailing (joinRuns text)).isInfix
  unfold normalizeSeparators expandHome at inside
  split at inside
  · exact absurd inside foreign
  · next rest shape =>
    have split : part <:+: "<home>".toList ++ '/' :: rest := inside
    rcases (infix_append_cons plain).1 split with early | later
    · exact absurd early foreign
    · rw [shape]
      exact later.trans ((List.suffix_cons '/' rest).trans (List.suffix_cons '~' _)).isInfix
  · exact inside

end SaveManifest.Path
