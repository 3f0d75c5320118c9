import SaveManifest.Proofs.Path.Braces
import SaveManifest.Proofs.Path.Leftover
import SaveManifest.Proofs.Path.Resolved

/-!
# Resolution is final

Resolution changes nothing in a path that it gave (`resolve_resolved`). Such a path is in normal
form and holds no known marker, so all that could still refuse it is the count of its braces. A
marker takes one `{{` and one `}}` with it, but it may do so from within longer runs of braces.
What is kept is the difference of the two counts, whatever run of braces was read before
(`countPairs_substitute`).
-/

namespace SaveManifest.Path

open SaveManifest.Text

variable {brace : Char} {table : List Placeholder}

/-! ### Runs of braces -/

theorem replicate_append_cons (n : Nat) (c : Char) (rest : List Char) :
    List.replicate n c ++ c :: rest = List.replicate (n + 1) c ++ rest := by
  rw [List.append_cons, ← List.replicate_succ']

/-- A run of braces counts by itself where another character follows. -/
theorem countPairs_run {c : Char} (other : c ≠ brace) (rest : List Char) :
    ∀ n : Nat, countPairs brace (List.replicate n brace ++ c :: rest) =
      n / 2 + countPairs brace rest
  | 0 => by
    rw [List.replicate_zero, List.nil_append, countPairs_cons_of_ne other, Nat.zero_div,
      Nat.zero_add]
  | 1 => by
    have lone : (c :: rest).head? ≠ some brace := by
      rw [List.head?_cons, Ne, Option.some.injEq]
      exact other
    rw [List.replicate_one, List.singleton_append, countPairs_cons_of_head lone,
      countPairs_cons_of_ne other]
    omega
  | n + 2 => by
    rw [List.replicate_succ, List.replicate_succ, List.cons_append, List.cons_append,
      countPairs_pair, countPairs_run other rest n]
    omega

theorem countPairs_run_append {front : List Char} (visible : front ≠ []) (absent : brace ∉ front)
    (back : List Char) (n : Nat) :
    countPairs brace (List.replicate n brace ++ (front ++ back)) =
      n / 2 + countPairs brace back := by
  cases front with
  | nil => exact absurd rfl visible
  | cons c front =>
    rw [List.mem_cons, not_or] at absent
    rw [List.cons_append, countPairs_run (Ne.symm absent.1), countPairs_append_left absent.2]

/-! ### Normalization keeps the counts -/

theorem countPairs_joinRuns (plain : isSeparator brace = false) (text : List Char) (n : Nat) :
    countPairs brace (List.replicate n brace ++ joinRuns text) =
      countPairs brace (List.replicate n brace ++ text) := by
  have apart : ∀ c, isSeparator c = true → c ≠ brace := by
    rintro c separator rfl
    rw [separator] at plain
    cases plain
  induction text using run_induction generalizing n with
  | nil => rfl
  | run c rest separator ih =>
    have absent : brace ∉ rest.takeWhile isSeparator := by
      intro member
      have separator := List.all_eq_true.1 List.all_takeWhile brace member
      exact apart brace separator rfl
    have behind := countPairs_append_left absent (rest.dropWhile isSeparator)
    rw [List.takeWhile_append_dropWhile] at behind
    rw [joinRuns_cons_of_separator separator, countPairs_run (apart '/' rfl),
      countPairs_run (apart c separator), behind]
    exact congrArg _ (ih 0)
  | plain c rest other ih =>
    rw [joinRuns_cons_of_not_separator other]
    by_cases same : c = brace
    · rw [same, replicate_append_cons, replicate_append_cons]
      exact ih (n + 1)
    · rw [countPairs_run same, countPairs_run same]
      exact congrArg _ (ih 0)

theorem countPairs_dropTrailing (other : brace ≠ '/') (path : List Char) :
    countPairs brace (dropTrailing path) = countPairs brace path := by
  unfold dropTrailing
  split
  · next ends =>
    obtain ⟨front, ending⟩ := List.getLast?_eq_some_iff.1 ends.2
    rw [ending, List.dropLast_concat, countPairs_append_right]
    rw [List.mem_singleton]
    exact other
  · rfl

theorem countPairs_expandHome (isBrace : brace = '{' ∨ brace = '}') (path : List Char) :
    countPairs brace (expandHome path) = countPairs brace path := by
  unfold expandHome
  split
  · rcases isBrace with rfl | rfl <;> decide +kernel
  · next rest =>
    have home : brace ∉ "<home>/".toList := by rcases isBrace with rfl | rfl <;> decide
    have tilde : brace ∉ ['~', '/'] := by rcases isBrace with rfl | rfl <;> decide
    have split : '~' :: '/' :: rest = ['~', '/'] ++ rest := rfl
    rw [split, countPairs_append_left home, countPairs_append_left tilde]
  · rfl

theorem countPairs_normalizeSeparators (isBrace : brace = '{' ∨ brace = '}') (text : List Char) :
    countPairs brace (normalizeSeparators text) = countPairs brace text := by
  have plain : isSeparator brace = false := by rcases isBrace with rfl | rfl <;> rfl
  have other : brace ≠ '/' := by rcases isBrace with rfl | rfl <;> decide
  rw [normalizeSeparators, countPairs_expandHome isBrace, countPairs_dropTrailing other]
  exact countPairs_joinRuns plain text 0

/-! ### Substitution keeps the difference of the counts -/

theorem Braceless.not_mem {text : List Char} (braceless : Braceless text) :
    '{' ∉ text ∧ '}' ∉ text :=
  ⟨fun member => (braceless _ member).1 rfl, fun member => (braceless _ member).2 rfl⟩

/-- A marker has its braces at its ends. -/
theorem IsMarker.eq_braces {token marker : List Char} (isMarker : IsMarker token marker)
    (braceless : Braceless token) :
    ∃ body, marker = '{' :: '{' :: (body ++ ['}', '}']) ∧ Braceless body ∧ body ≠ [] := by
  obtain ⟨a, b, body, y, z, rfl, isBody, first, second, third, fourth⟩ := isMarker.shape
  rw [eq_of_fold_eq (by decide) (by decide) first, eq_of_fold_eq (by decide) (by decide) second,
    eq_of_fold_eq (by decide) (by decide) third, eq_of_fold_eq (by decide) (by decide) fourth]
  exact ⟨body, rfl, isBody.braceless braceless, isBody.ne_nil⟩

/-- A marker takes one pair of each kind, whatever run of braces stands in front of it. -/
theorem countPairs_marker {token marker : List Char} (isMarker : IsMarker token marker)
    (braceless : Braceless token) (behind : List Char) (n : Nat) :
    countPairs '{' (List.replicate n '{' ++ (marker ++ behind)) =
        n / 2 + 1 + countPairs '{' behind ∧
      countPairs '}' (List.replicate n '}' ++ (marker ++ behind)) =
        n / 2 + 1 + countPairs '}' behind := by
  obtain ⟨body, rfl, free, visible⟩ := isMarker.eq_braces braceless
  constructor
  · have closes : '{' ∉ body ++ ['}', '}'] := by
      rw [List.mem_append, not_or]
      exact ⟨free.not_mem.1, by decide⟩
    rw [List.cons_append, List.cons_append, replicate_append_cons, replicate_append_cons,
      countPairs_run_append (List.append_ne_nil_of_left_ne_nil visible _) closes]
    omega
  · have opens : '}' ∉ '{' :: '{' :: body := by
      rw [List.mem_cons, List.mem_cons]
      simp [free.not_mem.2]
    have split : '{' :: '{' :: (body ++ ['}', '}']) ++ behind =
        ('{' :: '{' :: body) ++ '}' :: '}' :: behind := by simp
    rw [split, countPairs_run_append (List.cons_ne_nil _ _) opens, countPairs_pair]
    omega

/-- Substitution keeps the difference of the counts, whatever run of braces was read before. -/
theorem countPairs_substitute (separated : Separated table) (text : List Char) (n m : Nat) :
    countPairs '{' (List.replicate n '{' ++ substitute table text) +
        countPairs '}' (List.replicate m '}' ++ text) =
      countPairs '{' (List.replicate n '{' ++ text) +
        countPairs '}' (List.replicate m '}' ++ substitute table text) := by
  fun_induction substitute table text generalizing n m with
  | case1 => rfl
  | case2 c rest placeholder behind found ih =>
    obtain ⟨member, dropped⟩ := (markerAt?_eq_some_iff separated).1 found
    obtain ⟨marker, shape, isMarker⟩ := dropMarker_eq_some_iff.1 dropped
    have visible := separated.value_ne_nil placeholder member
    have value := (separated.value placeholder member).not_mem
    have braceless := separated.token placeholder member
    have after := ih 0 0
    rw [shape, countPairs_run_append visible value.1, countPairs_run_append visible value.2,
      (countPairs_marker isMarker braceless behind n).1,
      (countPairs_marker isMarker braceless behind m).2]
    simp only [List.replicate_zero, List.nil_append] at after
    omega
  | case3 c rest absent ih =>
    by_cases opens : c = '{'
    · have other : c ≠ '}' := by rw [opens]; decide
      have onward := ih (n + 1) 0
      rw [countPairs_run other, countPairs_run other, opens, replicate_append_cons,
        replicate_append_cons]
      simp only [List.replicate_zero, List.nil_append] at onward
      omega
    · by_cases closes : c = '}'
      · have onward := ih 0 (m + 1)
        rw [countPairs_run opens, countPairs_run opens, closes, replicate_append_cons,
          replicate_append_cons]
        simp only [List.replicate_zero, List.nil_append] at onward
        omega
      · have onward := ih 0 0
        rw [countPairs_run opens, countPairs_run opens, countPairs_run closes,
          countPairs_run closes]
        simp only [List.replicate_zero, List.nil_append] at onward
        omega

/-! ### What resolution leaves as it is -/

theorem substitute_of_hasMarker_eq_false {text : List Char}
    (absent : ∀ placeholder ∈ table, hasMarker placeholder.token.toList text = false) :
    substitute table text = text := by
  induction text with
  | nil => rw [substitute]
  | cons c rest ih =>
    have here : ∀ placeholder ∈ table, dropMarker placeholder.token.toList (c :: rest) = none ∧
        hasMarker placeholder.token.toList rest = false := by
      intro placeholder member
      have none := absent placeholder member
      rw [hasMarker, Bool.or_eq_false_iff, Option.isSome_eq_false_iff, Option.isNone_iff_eq_none]
        at none
      exact none
    have none : markerAt? table (c :: rest) = none :=
      markerAt?_eq_none_iff.2 fun placeholder member => (here placeholder member).1
    rw [substitute_absent none, ih fun placeholder member => (here placeholder member).2]

theorem joinRuns_of_isJoined {path : List Char} (joined : IsJoined path) :
    joinRuns path = path := by
  induction path with
  | nil => rfl
  | cons c rest ih =>
    have tail := ih (joined.of_infix (List.suffix_cons c rest).isInfix)
    cases separator : isSeparator c with
    | false => rw [joinRuns_cons_of_not_separator separator, tail]
    | true =>
      have slash : ∀ d, isSeparator d = true → d ∈ c :: rest → d = '/' := by
        intro d found member
        rw [isSeparator, Bool.or_eq_true, beq_iff_eq, beq_iff_eq] at found
        exact found.resolve_right fun back => joined.slashes (back ▸ member)
      have first := slash c separator List.mem_cons_self
      have alone : rest.dropWhile isSeparator = rest := by
        cases rest with
        | nil => rfl
        | cons d rest =>
          rw [List.dropWhile_cons, if_neg]
          intro again
          have second := slash d again (List.mem_cons_of_mem c List.mem_cons_self)
          rw [first, second] at joined
          exact joined.single (List.prefix_append ['/', '/'] rest).isInfix
      rw [joinRuns_cons_of_separator separator, alone, tail, first]

theorem normalizeSeparators_of_isNormal {path : List Char} (normal : IsNormal path) :
    normalizeSeparators path = path := by
  rw [normalizeSeparators, joinRuns_of_isJoined normal.toIsJoined, dropTrailing, if_neg]
  · unfold expandHome
    split
    · exact absurd rfl normal.home
    · exact absurd rfl normal.home
    · rfl
  · rintro ⟨long, ends⟩
    exact normal.trailing long ends

theorem kind_of_hasMarker_eq_false {path : String} (absent : ∀ placeholder ∈ Placeholder.known,
    hasMarker placeholder.token.toList path.toList = false) : kind path = .file := by
  rw [kind, kindWith, if_neg]
  intro root
  obtain ⟨placeholder, known, names⟩ := List.any_eq_true.1 root
  rw [absent placeholder known, Bool.and_false] at names
  cases names

theorem countPairs_of_resolve {raw : String} {resolved : Resolved}
    (success : resolve raw = .ok resolved) :
    countPairs '{' raw.toList = countPairs '}' raw.toList := by
  rw [resolve, resolveWith_reordered (.refl Placeholder.known)] at success
  split at success
  · cases success
  · next paired => exact Decidable.not_not.1 paired

/-- A resolved path is final: it holds no marker of a known placeholder and as many openings as
closings, and resolving it again gives the same path. -/
theorem resolve_resolved {raw : String} {resolved : Resolved}
    (success : resolve raw = .ok resolved) :
    (∀ placeholder ∈ Placeholder.known,
      hasMarker placeholder.token.toList resolved.path.toList = false) ∧
      countPairs '{' resolved.path.toList = countPairs '}' resolved.path.toList ∧
      resolve resolved.path = .ok { path := resolved.path, kind := .file } := by
  have absent : ∀ placeholder ∈ Placeholder.known,
      hasMarker placeholder.token.toList resolved.path.toList = false :=
    fun placeholder known => hasMarker_of_resolve success known
  have paired : countPairs '{' resolved.path.toList = countPairs '}' resolved.path.toList := by
    have before := countPairs_of_resolve success
    have kept := countPairs_substitute separated_known raw.toList 0 0
    simp only [List.replicate_zero, List.nil_append] at kept
    rw [(resolve_eq_ok success).2.1, countPairs_normalizeSeparators (Or.inl rfl),
      countPairs_normalizeSeparators (Or.inr rfl)]
    omega
  have view : ¬ hasMarker "wow64".toList resolved.path.toList = true := by
    obtain ⟨placeholder, known, token⟩ :
        ∃ placeholder ∈ Placeholder.known, placeholder.token = "wow64" := by decide
    rw [← token, absent placeholder known]
    exact Bool.false_ne_true
  refine ⟨absent, paired, ?_⟩
  rw [resolve, resolveWith_reordered (.refl Placeholder.known), if_neg (not_not_intro paired),
    if_neg view, substitute_of_hasMarker_eq_false absent,
    normalizeSeparators_of_isNormal (isNormal_of_resolve success), String.ofList_toList,
    kind_of_hasMarker_eq_false absent]

/-- A marker within longer runs of braces, and an unknown one with separators in it. -/
theorem resolve_resolved_registry :
    let raw := "\x7b\x7b\x7bP|hkcu\x7d\x7d\x7d\\\x7b\x7bP|a\\/b\x7d\x7d/"
    let path := "\x7bHKEY_CURRENT_USER\x7d/\x7b\x7bP|a/b\x7d\x7d"
    resolve raw = .ok { path, kind := .registry } ∧
      resolve path = .ok { path, kind := .file } := by
  intro raw path
  have success : resolve raw = .ok { path, kind := .registry } := by
    rw [resolve, resolveWith_reordered (.refl Placeholder.known), if_neg (by decide +kernel),
      if_neg (by decide +kernel)]
    congr 2
    · decide +kernel
    · decide +kernel
  exact ⟨success, (resolve_resolved success).2.2⟩

end SaveManifest.Path
