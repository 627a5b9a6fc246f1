import Selene.UrlReference

/-!
# Resolving a resolved path again

The path of a resolved URL has no dot segments, its units need no escape, and
its text is split into the same segments again.  A path whose first segment is
empty and not its last one is the exception: its text begins with two slashes
and is no longer read as a path.
-/

namespace Js.Url

variable {set : EncodeSet}

/-! ## Dot segments -/

/-- The spellings of the dot segments, in lower case. -/
def dotSpellings : List JsString :=
  [js ".", js "%2e", js "..", js ".%2e", js "%2e.", js "%2e%2e"]

theorem dot_after_percent
    {spelling first rest : JsString}
    (isSpelling : spelling ∈ dotSpellings)
    (shape : spelling = first ++ 0x25 :: rest) :
    rest.take 2 = [0x32, 0x65] := by
  have every : ∀ spelling ∈ dotSpellings, ∀ suffix ∈ spelling.tails,
      suffix.head? = some 0x25 → suffix.tail.take 2 = [0x32, 0x65] := by
    decide +kernel
  exact every spelling isSpelling (0x25 :: rest)
    ((List.mem_tails _ _).mpr ⟨first, shape.symm⟩) rfl

variable {text : JsString}

theorem plain_of_dotSpelling
    (isSpelling : asciiLower text ∈ dotSpellings) :
    ∀ unit ∈ text, set.plain unit = true := by
  intro unit member
  have every : dotSpellings.all (fun spelling => spelling.all fun lower =>
      [0x25, 0x2E, 0x32, 0x65].contains lower) = true := by
    decide +kernel
  have lowered := List.all_eq_true.mp (List.all_eq_true.mp every _ isSpelling)
    _ (List.mem_map_of_mem member)
  rw [List.contains_iff_mem] at lowered
  simp only [List.mem_cons, List.not_mem_nil, or_false] at lowered
  have kept : set.escapes unit = false ∧
      0x20 ≤ unit.val ∧ unit.val ≤ 0x7E := by
    split at lowered
    · rename_i capital
      refine ⟨set.keeps unit ?_, by omega, by omega⟩
      exact Or.inr (Or.inr (Or.inr (Or.inr (Or.inr (Or.inl capital)))))
    · rcases lowered with rfl | rfl | rfl | rfl
      · exact ⟨set.keeps _ (Or.inl rfl), by decide, by decide⟩
      · exact ⟨set.keeps _ (Or.inr (Or.inl rfl)), by decide, by decide⟩
      · exact ⟨set.keeps _ (by decide), by decide, by decide⟩
      · exact ⟨set.keeps _ (by decide), by decide, by decide⟩
  rw [EncodeSet.plain, kept.1, decide_eq_true kept.2]
  rfl

theorem not_escaped_dot
    {octet : Nat}
    (escaped : Escaped set octet)
    (high : asciiLower [escapeDigit (octet / 16)] = [0x32])
    (low : asciiLower [escapeDigit (octet % 16)] = [0x65]) :
    False := by
  have every : ∀ first second : Fin 16,
      asciiLower [escapeDigit first] = [0x32] →
        asciiLower [escapeDigit second] = [0x65] →
          first = 2 ∧ second = 14 := by
    decide +kernel
  obtain ⟨bound, notKept⟩ := escaped
  have digits := every ⟨octet / 16, by omega⟩ ⟨octet % 16, by omega⟩ high low
  simp only [Fin.ext_iff] at digits
  have isDot : octet = 0x2E := by
    have first : octet / 16 = 2 := digits.1
    have second : octet % 16 = 14 := digits.2
    omega
  subst isDot
  rcases notKept with large | notPlain
  · omega
  · have kept : set.escapes 0x2E = false := set.keeps _ (Or.inr (Or.inl rfl))
    rw [EncodeSet.plain, show Fin.ofNat 65536 0x2E = (0x2E : CodeUnit) from rfl,
      kept] at notPlain
    cases notPlain

theorem asciiLower_encode
    {spelling : JsString}
    (isSpelling : spelling ∈ dotSpellings) :
    asciiLower (encode set text) = spelling ↔ asciiLower text = spelling := by
  constructor
  · intro lowered
    rcases @encode_eq_or_escape set text with same | found
    · rw [same] at lowered
      exact lowered
    · obtain ⟨octet, escaped, first, last, shape⟩ := found
      rw [← shape] at lowered
      have split : spelling = asciiLower first ++ 0x25 ::
          (asciiLower [escapeDigit (octet / 16)] ++
            (asciiLower [escapeDigit (octet % 16)] ++ asciiLower last)) := by
        rw [← lowered]
        simp [asciiLower, escape]
      have digits := dot_after_percent isSpelling split
      have both : asciiLower [escapeDigit (octet / 16)] = [0x32] ∧
          asciiLower [escapeDigit (octet % 16)] = [0x65] := by
        simpa [asciiLower] using digits
      exact absurd (not_escaped_dot escaped both.1 both.2) id
  · intro lowered
    rw [encode_of_plain]
    · exact lowered
    · refine plain_of_dotSpelling ?_
      rw [lowered]
      exact isSpelling

@[simp] theorem isDoubleDot_encode (segment : JsString) :
    isDoubleDot (encode set segment) = isDoubleDot segment := by
  rw [Bool.eq_iff_iff, isDoubleDot, isDoubleDot, List.contains_iff_mem,
    List.contains_iff_mem]
  simp only [List.mem_cons, List.not_mem_nil, or_false]
  rw [asciiLower_encode (by decide +kernel), asciiLower_encode
    (by decide +kernel), asciiLower_encode (by decide +kernel),
    asciiLower_encode (by decide +kernel)]

@[simp] theorem isSingleDot_encode (segment : JsString) :
    isSingleDot (encode set segment) = isSingleDot segment := by
  rw [Bool.eq_iff_iff, isSingleDot, isSingleDot, List.contains_iff_mem,
    List.contains_iff_mem]
  simp only [List.mem_cons, List.not_mem_nil, or_false]
  rw [asciiLower_encode (by decide +kernel), asciiLower_encode
    (by decide +kernel)]

/-! ## Removing dot segments -/

theorem removeDots_encode (kept segments : List JsString) :
    removeDots (kept.map (encode set)) (segments.map (encode set)) =
      (removeDots kept segments).map (encode set) := by
  fun_induction removeDots kept segments with
  | case1 kept => rfl
  | case2 kept last double => simp [removeDots, double]
  | case3 kept last notDouble single => simp [removeDots, notDouble, single]
  | case4 kept last notDouble notSingle =>
      simp [removeDots, notDouble, notSingle]
  | case5 kept segment next rest double inductionHypothesis =>
      rw [← inductionHypothesis]
      simp [removeDots, double]
  | case6 kept segment next rest notDouble single inductionHypothesis =>
      rw [← inductionHypothesis]
      simp [removeDots, notDouble, single]
  | case7 kept segment next rest notDouble notSingle inductionHypothesis =>
      rw [← inductionHypothesis]
      simp [removeDots, notDouble, notSingle]

/-- A segment that is no dot segment. -/
def IsName (segment : JsString) : Prop :=
  isDoubleDot segment = false ∧ isSingleDot segment = false

theorem isName_nil : IsName [] := by
  constructor <;> decide +kernel

theorem mem_removeDots
    {kept segments : List JsString}
    {segment : JsString}
    (member : segment ∈ removeDots kept segments) :
    segment ∈ kept ∨ segment = [] ∨ (segment ∈ segments ∧ IsName segment) := by
  fun_induction removeDots kept segments with
  | case1 kept => exact Or.inl member
  | case2 kept last double =>
      rcases List.mem_append.mp member with old | empty
      · exact Or.inl (List.mem_of_mem_dropLast old)
      · exact Or.inr (Or.inl (List.mem_singleton.mp empty))
  | case3 kept last notDouble single =>
      rcases List.mem_append.mp member with old | empty
      · exact Or.inl old
      · exact Or.inr (Or.inl (List.mem_singleton.mp empty))
  | case4 kept last notDouble notSingle =>
      rcases List.mem_append.mp member with old | isLast
      · exact Or.inl old
      · cases List.mem_singleton.mp isLast
        exact Or.inr (Or.inr ⟨List.mem_singleton_self _,
          Bool.eq_false_iff.mpr notDouble, Bool.eq_false_iff.mpr notSingle⟩)
  | case5 kept first next rest double inductionHypothesis =>
      rcases inductionHypothesis member with old | empty | ⟨later, isName⟩
      · exact Or.inl (List.mem_of_mem_dropLast old)
      · exact Or.inr (Or.inl empty)
      · exact Or.inr (Or.inr ⟨List.mem_cons_of_mem _ later, isName⟩)
  | case6 kept first next rest notDouble single inductionHypothesis =>
      rcases inductionHypothesis member with old | empty | ⟨later, isName⟩
      · exact Or.inl old
      · exact Or.inr (Or.inl empty)
      · exact Or.inr (Or.inr ⟨List.mem_cons_of_mem _ later, isName⟩)
  | case7 kept first next rest notDouble notSingle inductionHypothesis =>
      rcases inductionHypothesis member with old | empty | ⟨later, isName⟩
      · rcases List.mem_append.mp old with before | isFirst
        · exact Or.inl before
        · cases List.mem_singleton.mp isFirst
          exact Or.inr (Or.inr ⟨List.mem_cons_self,
            Bool.eq_false_iff.mpr notDouble, Bool.eq_false_iff.mpr notSingle⟩)
      · exact Or.inr (Or.inl empty)
      · exact Or.inr (Or.inr ⟨List.mem_cons_of_mem _ later, isName⟩)

theorem removeDots_of_names
    {segments : List JsString}
    (names : ∀ segment ∈ segments, IsName segment)
    (kept : List JsString) :
    removeDots kept segments = kept ++ segments := by
  fun_induction removeDots kept segments with
  | case1 kept => simp
  | case2 kept last double =>
      have isName := names last List.mem_cons_self
      rw [isName.1] at double
      cases double
  | case3 kept last notDouble single =>
      have isName := names last List.mem_cons_self
      rw [isName.2] at single
      cases single
  | case4 kept last notDouble notSingle => rfl
  | case5 kept segment next rest double inductionHypothesis =>
      have isName := names segment List.mem_cons_self
      rw [isName.1] at double
      cases double
  | case6 kept segment next rest notDouble single inductionHypothesis =>
      have isName := names segment List.mem_cons_self
      rw [isName.2] at single
      cases single
  | case7 kept segment next rest notDouble notSingle inductionHypothesis =>
      rw [inductionHypothesis fun other member =>
        names other (List.mem_cons_of_mem _ member)]
      simp

/-! ## Splitting -/

theorem mem_rawSegments
    {path segment : JsString}
    (member : segment ∈ rawSegments path) :
    segment <:+: path ∧ ∀ unit ∈ segment, isSeparator unit = false := by
  have parts : ∀ path : JsString, ∃ first rest,
      rawSegments path = first :: rest ∧ first <+: path ∧
        (∀ unit ∈ first, isSeparator unit = false) ∧
        ∀ other ∈ rest, other <:+: path ∧
          ∀ unit ∈ other, isSeparator unit = false := by
    intro path
    induction path with
    | nil => exact ⟨[], [], rfl, List.prefix_refl _, by simp, by simp⟩
    | cons unit later inductionHypothesis =>
        obtain ⟨first, rest, shape, isPrefix, clean, others⟩ :=
          inductionHypothesis
        rw [rawSegments] at shape
        rw [rawSegments, List.splitOnP_cons_eq_if_modifyHead]
        cases separates : isSeparator unit with
        | true =>
            refine ⟨[], first :: rest, by simp [shape], List.nil_prefix,
              by simp, ?_⟩
            intro other isOther
            rcases List.mem_cons.mp isOther with rfl | isRest
            · exact ⟨isPrefix.isInfix.trans (List.suffix_cons _ _).isInfix,
                clean⟩
            · obtain ⟨inside, otherClean⟩ := others other isRest
              exact ⟨inside.trans (List.suffix_cons _ _).isInfix, otherClean⟩
        | false =>
            refine ⟨unit :: first, rest, by simp [shape], ?_, ?_, ?_⟩
            · exact List.cons_prefix_cons.mpr ⟨rfl, isPrefix⟩
            · intro other isOther
              rcases List.mem_cons.mp isOther with rfl | isFirst
              · exact separates
              · exact clean other isFirst
            · intro other isOther
              obtain ⟨inside, otherClean⟩ := others other isOther
              exact ⟨inside.trans (List.suffix_cons _ _).isInfix, otherClean⟩
  obtain ⟨first, rest, shape, isPrefix, clean, others⟩ := parts path
  rw [shape] at member
  rcases List.mem_cons.mp member with rfl | isRest
  · exact ⟨isPrefix.isInfix, clean⟩
  · exact others segment isRest

theorem rawSegments_join
    {first : JsString}
    {rest : List JsString}
    (clean : ∀ segment ∈ first :: rest,
      ∀ unit ∈ segment, isSeparator unit = false) :
    rawSegments (first ++ rest.flatMap fun segment => 0x2F :: segment) =
      first :: rest := by
  induction rest generalizing first with
  | nil =>
      rw [List.flatMap_nil, List.append_nil, rawSegments]
      exact List.splitOnP_eq_singleton (clean first List.mem_cons_self)
  | cons next rest inductionHypothesis =>
      obtain ⟨firstClean, others⟩ := List.forall_mem_cons.mp clean
      have later := inductionHypothesis others
      rw [rawSegments] at later
      rw [List.flatMap_cons, rawSegments, List.cons_append,
        List.splitOnP_append_cons_of_forall_mem firstClean _ rfl, later]

variable {stop : CodeUnit}

theorem before_of_not_mem
    (absent : stop ∉ text) :
    before stop text = text := by
  refine List.takeWhile_eq_self_iff.mpr fun unit member => ?_
  rw [decide_eq_true_iff]
  rintro rfl
  exact absent member

theorem mem_before
    {unit : CodeUnit}
    (member : unit ∈ before stop text) :
    unit ∈ text ∧ unit ≠ stop := by
  rw [before] at member
  have kept := List.mem_takeWhile_imp member
  exact ⟨(List.takeWhile_sublist _).subset member, by simpa using kept⟩

theorem before_isInfix
    (stop : CodeUnit)
    (text : JsString) :
    before stop text <:+: text :=
  (List.takeWhile_prefix _).isInfix

theorem after_isInfix
    {rest : JsString}
    (found : after stop text = some rest) :
    rest <:+: text := by
  unfold after at found
  split at found
  · cases found
  · rename_i shape
    cases found
    have isSuffix := List.dropWhile_suffix (l := text) fun unit => unit ≠ stop
    rw [shape] at isSuffix
    exact ((List.suffix_cons _ _).trans isSuffix).isInfix

/-- An empty part is no part. -/
def dropEmpty : Option JsString → Option JsString
  | some (unit :: rest) => some (unit :: rest)
  | _ => none

@[simp] theorem marked_dropEmpty
    (mark : CodeUnit)
    (part : Option JsString) :
    marked mark (dropEmpty part) = marked mark part := by
  rcases part with _ | _ | ⟨unit, rest⟩ <;> rfl

theorem mem_of_dropEmpty
    {part : Option JsString}
    (found : dropEmpty part = some text) :
    part = some text := by
  rcases part with _ | _ | ⟨unit, rest⟩
  · cases found
  · cases found
  · exact found

theorem before_marked
    {mark : CodeUnit}
    (absent : mark ∉ text)
    (part : Option JsString) :
    before mark (text ++ marked mark part) = text := by
  have alone := before_of_not_mem absent
  rcases part with _ | _ | ⟨unit, rest⟩
  · rw [marked, List.append_nil, alone]
  · rw [marked, List.append_nil, alone]
  · have every : ∀ other ∈ text, decide (other ≠ mark) = true := by
      intro other member
      rw [decide_eq_true_iff]
      rintro rfl
      exact absent member
    rw [marked, before, List.takeWhile_append_of_pos every,
      List.takeWhile_cons_of_neg (by simp), List.append_nil]

theorem after_marked
    {mark : CodeUnit}
    (absent : mark ∉ text)
    (part : Option JsString) :
    after mark (text ++ marked mark part) = dropEmpty part := by
  have every : ∀ other ∈ text, decide (other ≠ mark) = true := by
    intro other member
    rw [decide_eq_true_iff]
    rintro rfl
    exact absent member
  rw [after, List.dropWhile_append_of_pos every]
  rcases part with _ | _ | ⟨unit, rest⟩
  · rfl
  · rfl
  · rw [marked, List.dropWhile_cons_of_neg (by simp)]
    rfl

/-! ## Resolving again -/

/-- What a resolved URL is made of. -/
structure Resolved.Tidy (sets : EncodeSets) (url : Resolved) : Prop where
  path_ne_nil : url.path ≠ []
  names : ∀ segment ∈ url.path, IsName segment
  path_plain : ∀ segment ∈ url.path, ∀ unit ∈ segment,
    sets.path.plain unit = true ∧ isSeparator unit = false ∧
      unit ≠ 0x3F ∧ unit ≠ 0x23
  query_plain : ∀ query ∈ url.query, ∀ unit ∈ query,
    sets.query.plain unit = true ∧ unit ≠ 0x23
  fragment_plain : ∀ fragment ∈ url.fragment, ∀ unit ∈ fragment,
    sets.fragment.plain unit = true

theorem not_mark_of_isEscapeUnit
    {unit : CodeUnit}
    (isEscape : isEscapeUnit unit = true) :
    isSeparator unit = false ∧ unit ≠ 0x3F ∧ unit ≠ 0x23 := by
  rw [isEscapeUnit, decide_eq_true_iff] at isEscape
  have marks : unit ≠ 0x2F ∧ unit ≠ 0x5C ∧ unit ≠ 0x3F ∧ unit ≠ 0x23 := by
    refine ⟨?_, ?_, ?_, ?_⟩ <;> rintro rfl <;> revert isEscape <;> decide
  simp [isSeparator, marks]

theorem tidy_parsePath
    (sets : EncodeSets)
    (origin rest : JsString) :
    (parsePath sets origin rest).Tidy sets := by
  have encodedSegment : ∀ segment ∈ (parsePath sets origin rest).path,
      segment = [] ∨ (IsName segment ∧ ∃ raw ∈ rawSegments (pathPart rest),
        segment = encode sets.path raw) := by
    intro segment member
    rcases mem_removeDots member with none | empty | ⟨isSegment, isName⟩
    · cases none
    · exact Or.inl empty
    · obtain ⟨raw, isRaw, rfl⟩ := List.mem_map.mp isSegment
      exact Or.inr ⟨isName, raw, isRaw, rfl⟩
  constructor
  · refine removeDots_ne_nil ?_ []
    rw [Ne, List.map_eq_nil_iff]
    exact List.splitOnP_ne_nil _ _
  · intro segment member
    rcases encodedSegment segment member with rfl | ⟨isName, _⟩
    · exact isName_nil
    · exact isName
  · intro segment member unit isUnit
    rcases encodedSegment segment member with rfl | ⟨_, raw, isRaw, rfl⟩
    · cases isUnit
    · refine ⟨plain_of_mem_encode isUnit, ?_⟩
      rcases mem_encode isUnit with own | isEscape
      · obtain ⟨inside, clean⟩ := mem_rawSegments isRaw
        obtain ⟨beforeHash, notQuestion⟩ := mem_before (inside.subset own)
        exact ⟨clean unit own, notQuestion, (mem_before beforeHash).2⟩
      · exact not_mark_of_isEscapeUnit isEscape
  · intro query isQuery unit isUnit
    obtain ⟨raw, found, rfl⟩ := Option.map_eq_some_iff.mp isQuery
    refine ⟨plain_of_mem_encode isUnit, ?_⟩
    rcases mem_encode isUnit with own | isEscape
    · exact (mem_before ((after_isInfix found).subset own)).2
    · exact (not_mark_of_isEscapeUnit isEscape).2.2
  · intro fragment isFragment unit isUnit
    obtain ⟨raw, _, rfl⟩ := Option.map_eq_some_iff.mp isFragment
    exact plain_of_mem_encode isUnit

section

variable
  {sets : EncodeSets}
  {url : Resolved}

variable {unit : CodeUnit}

theorem mem_marked
    {mark : CodeUnit}
    {part : Option JsString}
    (member : unit ∈ marked mark part) :
    unit = mark ∨ ∃ text ∈ part, unit ∈ text := by
  rcases part with _ | _ | ⟨first, rest⟩
  · cases member
  · cases member
  · rcases List.mem_cons.mp member with rfl | inside
    · exact Or.inl rfl
    · exact Or.inr ⟨_, rfl, inside⟩

theorem mem_pathname
    (member : unit ∈ url.pathname) :
    unit = 0x2F ∨ ∃ segment ∈ url.path, unit ∈ segment := by
  obtain ⟨segment, isSegment, inside⟩ := List.mem_flatMap.mp member
  rcases List.mem_cons.mp inside with rfl | own
  · exact Or.inl rfl
  · exact Or.inr ⟨segment, isSegment, own⟩

theorem Resolved.Tidy.bounds
    (tidy : url.Tidy sets)
    (member : unit ∈ url.text) :
    0x21 ≤ unit.val ∧ unit.val ≤ 0x7E := by
  rcases List.mem_append.mp member with inPath | rest
  · rcases mem_pathname inPath with rfl | ⟨segment, isSegment, inside⟩
    · decide
    · exact bounds_of_plain (tidy.path_plain segment isSegment unit inside).1
  · rcases List.mem_append.mp rest with inSearch | inHash
    · rcases mem_marked inSearch with rfl | ⟨query, isQuery, inside⟩
      · decide
      · exact bounds_of_plain (tidy.query_plain query isQuery unit inside).1
    · rcases mem_marked inHash with rfl | ⟨fragment, isFragment, inside⟩
      · decide
      · exact bounds_of_plain
          (tidy.fragment_plain fragment isFragment unit inside)

theorem cleaned_of_bounds
    {text : JsString}
    (bounds : ∀ unit ∈ text, 0x21 ≤ unit.val) :
    cleaned text = text := by
  have inner : ∀ unit ∈ text, ¬isOuter unit = true := by
    intro unit member
    have bound := bounds unit member
    rw [isOuter, decide_eq_true_iff]
    omega
  have start : text.dropWhile isOuter = text := by
    cases text with
    | nil => rfl
    | cons unit rest =>
        exact List.dropWhile_cons_of_neg (inner unit List.mem_cons_self)
  have stop : text.rdropWhile isOuter = text := by
    cases reversed : text.reverse with
    | nil =>
        rw [List.reverse_eq_nil_iff] at reversed
        rw [reversed]
        rfl
    | cons unit rest =>
        have member : unit ∈ text := by
          rw [← List.mem_reverse, reversed]
          exact List.mem_cons_self
        rw [List.rdropWhile, reversed,
          List.dropWhile_cons_of_neg (inner unit member), ← reversed,
          List.reverse_reverse]
  rw [cleaned, start, stop, List.filter_eq_self]
  intro unit member
  have bound := bounds unit member
  simp only [isDropped, Bool.not_eq_true', Bool.or_eq_false_iff,
    decide_eq_false_iff_not]
  refine ⟨⟨?_, ?_⟩, ?_⟩ <;> rintro rfl <;> revert bound <;> decide

/-- Two slashes begin the text. -/
def Resolved.LosesHost (url : Resolved) : Prop :=
  ∃ next rest, url.path = [] :: next :: rest

/-- What a URL is after its text was resolved again. -/
def Resolved.again (url : Resolved) (origin : JsString) : Resolved :=
  { origin
    path := url.path
    query := dropEmpty url.query
    fragment := dropEmpty url.fragment }

@[simp] theorem text_again (origin : JsString) :
    (url.again origin).text = url.text := by
  simp [Resolved.text, Resolved.pathname, Resolved.search, Resolved.hash,
    Resolved.again]

theorem resolve_text
    (tidy : url.Tidy sets)
    (hostless : ¬url.LosesHost)
    (elsewhere : JsString → JsString → Option Resolved)
    (origin : JsString) :
    resolve sets elsewhere origin url.text = some (url.again origin) := by
  have clean := cleaned_of_bounds fun unit member =>
    (tidy.bounds member).1
  cases shape : url.path with
  | nil => exact absurd shape tidy.path_ne_nil
  | cons first more =>
      have plains := tidy.path_plain
      rw [shape] at plains
      have split : url.text = 0x2F :: ((first ++ more.flatMap fun segment =>
          0x2F :: segment) ++ (url.search ++ url.hash)) := by
        simp [Resolved.text, Resolved.pathname, shape]
      generalize pathShape : (first ++ more.flatMap fun segment =>
          (0x2F : CodeUnit) :: segment) = pathText at split
      have inPath : ∀ unit ∈ pathText, unit ≠ 0x3F ∧ unit ≠ 0x23 := by
        intro unit member
        rw [← pathShape] at member
        rcases List.mem_append.mp member with inFirst | inMore
        · exact (plains first List.mem_cons_self unit inFirst).2.2
        · obtain ⟨segment, isSegment, inside⟩ := List.mem_flatMap.mp inMore
          rcases List.mem_cons.mp inside with rfl | own
          · decide
          · exact (plains segment (List.mem_cons_of_mem _ isSegment) unit
              own).2.2
      have noHash : (0x23 : CodeUnit) ∉ pathText ++ url.search := by
        intro member
        rcases List.mem_append.mp member with inside | inSearch
        · exact (inPath _ inside).2 rfl
        · rcases mem_marked inSearch with same | ⟨query, isQuery, inQuery⟩
          · cases same
          · exact (tidy.query_plain query isQuery _ inQuery).2 rfl
      have noQuestion : (0x3F : CodeUnit) ∉ pathText := fun member =>
        (inPath _ member).1 rfl
      have beforeHash : before 0x23 (pathText ++ (url.search ++ url.hash)) =
          pathText ++ url.search := by
        rw [← List.append_assoc]
        exact before_marked noHash url.fragment
      have afterHash : after 0x23 (pathText ++ (url.search ++ url.hash)) =
          dropEmpty url.fragment := by
        rw [← List.append_assoc]
        exact after_marked noHash url.fragment
      have beforeQuestion : before 0x3F (pathText ++ url.search) = pathText :=
        before_marked noQuestion url.query
      have afterQuestion : after 0x3F (pathText ++ url.search) =
          dropEmpty url.query :=
        after_marked noQuestion url.query
      have path : removeDots [] ((rawSegments pathText).map
          (encode sets.path)) = first :: more := by
        have segments : rawSegments pathText = first :: more := by
          rw [← pathShape]
          exact rawSegments_join fun segment member unit inside =>
            (plains segment member unit inside).2.1
        have encoded : (first :: more).map (encode sets.path) =
            first :: more := by
          refine (List.map_congr_left fun segment member => ?_).trans
            (List.map_id _)
          exact encode_of_plain fun unit inside =>
            (plains segment member unit inside).1
        rw [segments, encoded, removeDots_of_names (shape ▸ tidy.names)]
        rfl
      have notSlash : ((pathText ++ (url.search ++ url.hash)).head?.any
          isSeparator) = false := by
        rw [← pathShape]
        cases first with
        | cons unit rest =>
            exact (plains _ List.mem_cons_self unit List.mem_cons_self).2.1
        | nil =>
            cases more with
            | cons next rest => exact absurd ⟨next, rest, shape⟩ hostless
            | nil =>
                rcases queryShape : url.query with _ | _ | ⟨unit, rest⟩ <;>
                  rcases fragmentShape : url.fragment with _ | _ | ⟨_, _⟩ <;>
                  simp [Resolved.search, Resolved.hash, queryShape,
                    fragmentShape, marked, isSeparator]
      have encodedQuery : (dropEmpty url.query).map (encode sets.query) =
          dropEmpty url.query := by
        cases found : dropEmpty url.query with
        | none => rfl
        | some query =>
            rw [Option.map_some, encode_of_plain fun unit inside =>
              (tidy.query_plain query (mem_of_dropEmpty found) unit inside).1]
      have encodedFragment : (dropEmpty url.fragment).map
          (encode sets.fragment) = dropEmpty url.fragment := by
        cases found : dropEmpty url.fragment with
        | none => rfl
        | some fragment =>
            rw [Option.map_some, encode_of_plain fun unit inside =>
              tidy.fragment_plain fragment (mem_of_dropEmpty found) unit inside]
      rw [resolve, clean, split]
      simp only [notSlash, Bool.false_eq_true, ↓reduceIte, parsePath, pathPart,
        beforeHash, beforeQuestion, afterQuestion, afterHash, path,
        encodedQuery, encodedFragment]
      rw [Resolved.again, shape]

end

end Js.Url
