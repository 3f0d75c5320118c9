import SaveManifest.Proofs.Path.Final

/-!
# The segments of a path

A path is a sequence of segments, in front of which a separator may stand. Normalization looks at
nothing else: it writes the segments with one separator between neighbours, and spells out a `~`
that is the first segment of a path with nothing in front of it
(`normalizeSeparators_eq_joined`). The proofs go along the segments of a path
(`segment_induction`): joining leaves one separator of every run, and at most one of them stands
behind the last segment.
-/

namespace SaveManifest.Path

def isRooted (path : List Char) : Bool := path.head?.any isSeparator

/-- The segments as they are written in a normal form: a `~` in front stands for the home directory,
unless a separator stands before it. -/
def expandedSegments : Bool → List (List Char) → List (List Char)
  | false, ['~'] :: others => "<home>".toList :: others
  | _, segments => segments

/-- Segments with one separator between neighbours, and one in front if the path is rooted. -/
def joined (rooted : Bool) (segments : List (List Char)) : List Char :=
  (if rooted then ['/'] else []) ++ ['/'].intercalate segments

structure IsSegment (segment : List Char) : Prop where
  visible : segment ≠ []
  plain : ∀ c ∈ segment, isSeparator c = false

theorem IsSegment.not_slash {segment : List Char} (isSegment : IsSegment segment) :
    '/' ∉ segment := by
  intro member
  have plain := isSegment.plain '/' member
  exact absurd plain (by decide)

/-! ### The segments of a text -/

theorem segments_cons_of_separator {c : Char} (separator : isSeparator c = true)
    (rest : List Char) : segments (c :: rest) = segments rest := by
  rw [segments.eq_def]
  exact if_pos separator

/-- A segment ends where a separator stands or the path ends. -/
theorem segments_append {segment rest : List Char} (isSegment : IsSegment segment)
    (ends : rest = [] ∨ isRooted rest = true) :
    segments (segment ++ rest) = segment :: segments rest := by
  obtain ⟨visible, plain⟩ := isSegment
  induction segment with
  | nil => exact absurd rfl visible
  | cons c segment ih =>
    have first : ¬ isSeparator c = true := by simp [plain c List.mem_cons_self]
    cases segment with
    | nil =>
      rcases ends with rfl | rooted
      · exact if_neg first
      · cases rest with
        | nil => cases rooted
        | cons d rest =>
          have separator : isSeparator d = true := rooted
          rw [List.singleton_append, segments, if_neg first, if_pos separator]
    | cons d segment =>
      have later := ih (List.cons_ne_nil _ _) fun e member =>
        plain e (List.mem_cons_of_mem _ member)
      have second : ¬ isSeparator d = true := by
        simp [plain d (List.mem_cons_of_mem _ List.mem_cons_self)]
      rw [List.cons_append] at later
      rw [List.cons_append, List.cons_append, segments, if_neg first, if_neg second, later]

/-- Induction along the segments of a path. -/
theorem segment_induction {P : List Char → Prop} (nil : P [])
    (separator : ∀ c rest, isSeparator c = true → P rest → P (c :: rest))
    (segment : ∀ segment rest, IsSegment segment → (rest = [] ∨ isRooted rest = true) → P rest →
      P (segment ++ rest)) (path : List Char) : P path := by
  induction length : path.length using Nat.strongRecOn generalizing path with
  | ind n ih =>
    subst length
    cases path with
    | nil => exact nil
    | cons c rest =>
      cases first : isSeparator c with
      | true => exact separator c rest first (ih _ (Nat.lt_succ_self _) _ rfl)
      | false =>
        have whole : (c :: rest.takeWhile (!isSeparator ·)) ++ rest.dropWhile (!isSeparator ·) =
            c :: rest := by
          rw [List.cons_append, List.takeWhile_append_dropWhile]
        have shorter := (List.dropWhile_sublist (!isSeparator ·) (l := rest)).length_le
        have later := ih _ (Nat.lt_succ_of_le shorter) _ rfl
        rw [← whole]
        refine segment _ _ ⟨List.cons_ne_nil _ _, fun d member => ?_⟩ ?_ later
        · rcases List.mem_cons.1 member with rfl | inside
          · exact first
          · simpa using List.all_eq_true.1 List.all_takeWhile d inside
        · cases behind : rest.dropWhile (!isSeparator ·) with
          | nil => exact Or.inl rfl
          | cons d others =>
            have stops := List.head?_dropWhile_not (!isSeparator ·) rest
            rw [behind] at stops
            exact Or.inr (by simpa [isRooted] using stops)

theorem isSegment_of_mem_segments {path segment : List Char} (member : segment ∈ segments path) :
    IsSegment segment := by
  induction path using segment_induction with
  | nil => cases member
  | separator c rest separator ih =>
    rw [segments_cons_of_separator separator] at member
    exact ih member
  | segment first rest isSegment ends ih =>
    rw [segments_append isSegment ends] at member
    rcases List.mem_cons.1 member with rfl | later
    · exact isSegment
    · exact ih later

theorem splitOnP_cons_of_separator {c : Char} (separator : isSeparator c = true)
    (rest : List Char) : (c :: rest).splitOnP isSeparator = [] :: rest.splitOnP isSeparator := by
  rw [List.splitOnP_cons_eq_if_modifyHead, if_pos separator]

/-- The segments of a path are the pieces between its separators without the empty ones. -/
theorem segments_eq_filter_splitOnP (path : List Char) :
    segments path = (path.splitOnP isSeparator).filter (!·.isEmpty) := by
  induction path using segment_induction with
  | nil => rfl
  | separator c rest separator ih =>
    rw [segments_cons_of_separator separator, splitOnP_cons_of_separator separator, ih]
    rfl
  | segment first rest isSegment ends ih =>
    have kept : (!first.isEmpty) = true := by simp [isSegment.visible]
    rw [segments_append isSegment ends]
    cases rest with
    | nil =>
      rw [List.append_nil, List.splitOnP_eq_singleton isSegment.plain, List.filter_cons,
        if_pos kept]
      rfl
    | cons d rest =>
      have separator : isSeparator d = true := ends.resolve_left (List.cons_ne_nil d rest)
      rw [splitOnP_cons_of_separator separator] at ih
      rw [List.splitOnP_append_cons_of_forall_mem isSegment.plain d separator, List.filter_cons,
        if_pos kept, ih]
      rfl

/-! ### Joining -/

theorem joined_singleton (segment : List Char) : joined false [segment] = segment := by
  rw [joined, List.intercalate_singleton]
  rfl

/-- The segments behind the first one are those of a rooted path. -/
theorem joined_cons {others : List (List Char)} (more : others ≠ []) (rooted : Bool)
    (segment : List Char) :
    joined rooted (segment :: others) = joined rooted [segment] ++ joined true others := by
  cases others with
  | nil => exact absurd rfl more
  | cons second others =>
    simp only [joined, List.intercalate_cons_cons, List.intercalate_singleton, List.append_assoc,
      if_true]

/-- A separator in front of a separator is left out. -/
theorem joinRuns_cons_separator {c : Char} (separator : isSeparator c = true) (rest : List Char) :
    joinRuns (c :: rest) = if isRooted rest then joinRuns rest else '/' :: joinRuns rest := by
  cases rest with
  | nil => simp [joinRuns, separator, isRooted]
  | cons d rest =>
    rw [joinRuns, if_pos separator]
    rfl

theorem isRooted_append {segment : List Char} (isSegment : IsSegment segment) (rest : List Char) :
    isRooted (segment ++ rest) = false := by
  obtain ⟨visible, plain⟩ := isSegment
  cases segment with
  | nil => exact absurd rfl visible
  | cons c segment => exact plain c List.mem_cons_self

/-- What joining leaves of a path: its segments, and behind the last one perhaps a separator. -/
theorem joinRuns_eq_joined (path : List Char) :
    ∃ tail, (tail = [] ∨ tail = ['/'] ∧ segments path ≠ []) ∧
      joinRuns path = joined (isRooted path) (segments path) ++ tail := by
  induction path using segment_induction with
  | nil => exact ⟨[], Or.inl rfl, rfl⟩
  | separator c rest separator ih =>
    obtain ⟨tail, trails, split⟩ := ih
    have rooted : isRooted (c :: rest) = true := separator
    rw [segments_cons_of_separator separator, joinRuns_cons_separator separator, rooted, split]
    refine ⟨tail, trails, ?_⟩
    cases isRooted rest with
    | true => rfl
    | false => rfl
  | segment first rest isSegment ends ih =>
    rw [segments_append isSegment ends, joinRuns_append_of_plain isSegment.plain,
      isRooted_append isSegment]
    rcases ends with rfl | rooted
    · refine ⟨[], Or.inl rfl, ?_⟩
      rw [segments, joined_singleton, joinRuns]
    · obtain ⟨tail, trails, split⟩ := ih
      rw [split, rooted]
      cases later : segments rest with
      | nil =>
        have nothing : tail = [] := trails.resolve_right fun more => more.2 later
        refine ⟨['/'], Or.inr ⟨rfl, List.cons_ne_nil _ _⟩, ?_⟩
        rw [nothing, joined_singleton]
        rfl
      | cons second others =>
        refine ⟨tail, trails.imp_right fun more => ⟨more.1, List.cons_ne_nil _ _⟩, ?_⟩
        rw [joined_cons (List.cons_ne_nil second others), joined_singleton, List.append_assoc]

/-! ### What stands at the two ends -/

variable {parts : List (List Char)}

/-- Segments end in a character of the last one. -/
theorem getLast?_joined (isSegment : ∀ part ∈ parts, IsSegment part) (more : parts ≠ [])
    (rooted : Bool) : ∃ c, (joined rooted parts).getLast? = some c ∧ c ≠ '/' := by
  induction parts generalizing rooted with
  | nil => exact absurd rfl more
  | cons part others ih =>
    by_cases last : others = []
    · subst last
      have here := isSegment part List.mem_cons_self
      have ends : part.getLast? ≠ none := mt List.getLast?_eq_none_iff.1 here.visible
      obtain ⟨c, found⟩ := Option.ne_none_iff_exists'.1 ends
      refine ⟨c, ?_, ?_⟩
      · rw [joined, List.intercalate_singleton, List.getLast?_append, found, Option.some_or]
      · rintro rfl
        exact here.not_slash (List.mem_of_getLast? found)
    · obtain ⟨c, found, other⟩ :=
        ih (fun other member => isSegment other (List.mem_cons_of_mem _ member)) last true
      refine ⟨c, ?_, other⟩
      rw [joined_cons last, List.getLast?_append, found, Option.some_or]

/-- The separator behind the last segment is dropped. -/
theorem dropTrailing_joined (isSegment : ∀ part ∈ parts, IsSegment part) (rooted : Bool)
    {tail : List Char} (trails : tail = [] ∨ tail = ['/'] ∧ parts ≠ []) :
    dropTrailing (joined rooted parts ++ tail) = joined rooted parts := by
  rcases trails with rfl | ⟨rfl, more⟩
  · rw [List.append_nil, dropTrailing, if_neg]
    rintro ⟨long, ends⟩
    cases parts with
    | nil => cases rooted <;> simp [joined] at long
    | cons part others =>
      obtain ⟨c, found, other⟩ := getLast?_joined isSegment (List.cons_ne_nil part others) rooted
      rw [found, Option.some.injEq] at ends
      exact other ends
  · obtain ⟨c, found, -⟩ := getLast?_joined isSegment more rooted
    have visible : 0 < (joined rooted parts).length := by
      rw [List.length_pos_iff]
      rintro nothing
      rw [nothing] at found
      cases found
    rw [dropTrailing, if_pos, List.dropLast_concat]
    refine ⟨?_, List.getLast?_concat⟩
    rw [List.length_append, List.length_singleton]
    omega

theorem expandHome_of_first {path : List Char} (other : path.takeWhile (· != '/') ≠ ['~']) :
    expandHome path = path := by
  unfold expandHome
  split
  · exact absurd rfl other
  · exact absurd rfl other
  · rfl

/-- The first segment stands in front of the first separator. -/
theorem takeWhile_joined {part : List Char} (isSegment : IsSegment part)
    (others : List (List Char)) :
    (joined false (part :: others)).takeWhile (· != '/') = part := by
  have plain : ∀ c ∈ part, (c != '/') = true := by
    intro c member
    rw [bne_iff_ne]
    rintro rfl
    exact isSegment.not_slash member
  by_cases last : others = []
  · have whole : (part ++ []).takeWhile (· != '/') = part ++ [].takeWhile (· != '/') :=
      List.takeWhile_append_of_pos plain
    rw [List.append_nil, List.takeWhile_nil, List.append_nil] at whole
    rw [last, joined_singleton, whole]
  · have split : joined true others = '/' :: ['/'].intercalate others := rfl
    rw [joined_cons last, joined_singleton, List.takeWhile_append_of_pos plain, split,
      List.takeWhile_cons_of_neg (by decide), List.append_nil]

/-- A leading `~` is spelled out where it is the first segment and nothing stands before it. -/
theorem expandHome_joined (isSegment : ∀ part ∈ parts, IsSegment part) (rooted : Bool) :
    expandHome (joined rooted parts) = joined rooted (expandedSegments rooted parts) := by
  cases rooted with
  | true =>
    apply expandHome_of_first
    simp [joined]
  | false =>
    cases parts with
    | nil => rfl
    | cons part others =>
      have here := isSegment part List.mem_cons_self
      by_cases home : part = ['~']
      · subst home
        cases others with
        | nil => rfl
        | cons second others =>
          rw [expandedSegments, joined_cons (List.cons_ne_nil second others),
            joined_cons (List.cons_ne_nil second others), joined_singleton, joined_singleton]
          rfl
      · have same : expandedSegments false (part :: others) = part :: others := by
          unfold expandedSegments
          split
          · next first => exact absurd (List.cons.inj first).1 home
          · rfl
        rw [same]
        apply expandHome_of_first
        rwa [takeWhile_joined here]

/-- A normal form depends on the segments of a path and on whether a separator stands in front of
them: it is the segments with one separator between neighbours, a first segment `~` written as the
home directory. So normalizing twice changes nothing more. -/
theorem normalizeSeparators_eq_joined :
    (∀ path, segments path = (path.splitOnP isSeparator).filter (!·.isEmpty)) ∧
      (∀ path, normalizeSeparators path =
        joined (isRooted path) (expandedSegments (isRooted path) (segments path))) ∧
      (∀ path other, isRooted path = isRooted other → segments path = segments other →
        normalizeSeparators path = normalizeSeparators other) ∧
      ∀ path, normalizeSeparators (normalizeSeparators path) = normalizeSeparators path := by
  have normal : ∀ path, normalizeSeparators path =
      joined (isRooted path) (expandedSegments (isRooted path) (segments path)) := by
    intro path
    have isSegment : ∀ part ∈ segments path, IsSegment part :=
      fun _ member => isSegment_of_mem_segments member
    obtain ⟨tail, trails, split⟩ := joinRuns_eq_joined path
    rw [normalizeSeparators, split, dropTrailing_joined isSegment _ trails,
      expandHome_joined isSegment]
  refine ⟨segments_eq_filter_splitOnP, normal, ?_, ?_⟩
  · intro path other front same
    rw [normal, normal, front, same]
  · intro path
    exact normalizeSeparators_of_isNormal (isNormal_normalizeSeparators path)

/-- Runs of both separators around two segments, with a `~` that something stands before. -/
example : normalizeSeparators "\\/~//a\\".toList = "/~/a".toList := by decide

end SaveManifest.Path
