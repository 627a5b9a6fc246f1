import Selene.Rejection
import Selene.UrlPath

/-!
# Return targets of a sign-in

`validateReturnTo` checks the text that it is given and returns what the URL
parser makes of it.  Removing dot segments may leave an empty first segment, so
the result may begin with two slashes and name another host; and escaping may
make the result longer than what is accepted.
-/

namespace Selene.Identity

open Js Js.Url

/-! ## Validation -/

inductive HostedIdentityErrorCode where
  | invalidProviderConfig
  | invalidRedirect
  | invalidReturnTo
  | invalidCallback
  | invalidRuntime
  | invalidSession
  | storeFailure
  | transactionExpired
  | transactionReplayed
  | sessionExpired
  | csrf
  deriving DecidableEq

/-- A `HostedIdentityError`, or an error of the platform, which has no code. -/
structure HostedIdentityError where
  code : Option HostedIdentityErrorCode
  message : JsString
  deriving DecidableEq

/-- `MAX_RETURN_TO_LENGTH`. -/
def maxReturnToLength : Nat := 2048

def containsAsciiControl (value : JsString) : Bool :=
  value.any fun unit => decide (unit.val < 32 ∨ unit.val = 127)

/-- `2f` or `5c`, in either case, at the start of a text. -/
def startsSeparator : JsString → Bool
  | high :: low :: _ =>
      decide (high = 0x32 ∧ (low = 0x66 ∨ low = 0x46)) ||
        decide (high = 0x35 ∧ (low = 0x63 ∨ low = 0x43))
  | _ => false

/-- `/%(?:2f|5c)/i`. -/
def hasEncodedSeparator : JsString → Bool
  | [] => false
  | unit :: rest =>
      (decide (unit = 0x25) && startsSeparator rest) ||
        hasEncodedSeparator rest

/-- `https://selene.invalid`. -/
def placeholderOrigin : JsString :=
  js "https://selene.invalid"

/-- A safe relative path, as far as the raw text shows it. -/
def IsRelativePath (value : JsString) : Prop :=
  value.length ≤ maxReturnToLength ∧ value.head? = some 0x2F ∧
    value.tail.head? ≠ some 0x2F ∧ (0x5C : CodeUnit) ∉ value ∧
    containsAsciiControl value = false

instance (value : JsString) : Decidable (IsRelativePath value) :=
  inferInstanceAs (Decidable (_ ∧ _))

section

variable
  (sets : EncodeSets)
  (elsewhere : JsString → JsString → Option Resolved)

def validateReturnTo (value : Option JsString) :
    Except HostedIdentityError JsString :=
  match value with
  | none | some [] => .ok (js "/")
  | some text => do
      check (IsRelativePath text)
        ⟨some .invalidReturnTo, js "Return target must be a safe relative path"⟩
      check (hasEncodedSeparator text = false)
        ⟨some .invalidReturnTo,
          js "Return target must not contain encoded separators"⟩
      match resolve sets elsewhere placeholderOrigin text with
      | none => .error ⟨none, js "Invalid URL"⟩
      | some normalized => do
          check (normalized.origin = placeholderOrigin)
            ⟨some .invalidReturnTo, js "Return target must be same-origin"⟩
          pure normalized.text

/-- What a safe return target does. -/
structure StaysOnSite (returned : JsString) : Prop where
  sameOrigin : ∀ origin, ∃ url,
    resolve sets elsewhere origin returned = some url ∧ url.origin = origin
  oneSlash : returned.head? = some 0x2F ∧ returned.tail.head? ≠ some 0x2F
  again : validateReturnTo sets elsewhere (some returned) = .ok returned

/-! ## The condition -/

/-- What the URL parser looks at after the first slash. -/
def requestedRest (value : Option JsString) : JsString :=
  (cleaned (value.getD [])).tail

/-- The segments that are left of a path when its dot segments are removed. -/
def keptSegments (rest : JsString) : List JsString :=
  removeDots [] (rawSegments (pathPart rest))

/-- An empty segment comes first, and is not the last one. -/
def LeavesEmptyFirst (rest : JsString) : Prop :=
  (keptSegments rest).head? = some [] ∧ (keptSegments rest).tail ≠ []

/-- The length of a part with its mark, after escaping. -/
def markedLength (set : EncodeSet) : Option JsString → Nat
  | some (unit :: rest) => 1 + encodedLength set (unit :: rest)
  | _ => 0

/-- The length of the target after escaping. -/
def escapedLength (rest : JsString) : Nat :=
  ((keptSegments rest).map fun segment =>
      1 + encodedLength sets.path segment).sum +
    (markedLength sets.query (after 0x3F (before 0x23 rest)) +
      markedLength sets.fragment (after 0x23 rest))

end

/-! ## Encoded separators -/

section

variable {set : EncodeSet}

/-- A mark that is no part of an encoded separator. -/
def IsMark (unit : CodeUnit) : Prop :=
  unit = 0x2F ∨ unit = 0x3F ∨ unit = 0x23

theorem startsSeparator_append_mark
    {mark : CodeUnit}
    (isMark : IsMark mark)
    (first second : JsString) :
    startsSeparator (first ++ mark :: second) = startsSeparator first := by
  rcases first with _ | ⟨high, _ | ⟨low, rest⟩⟩
  · rcases isMark with rfl | rfl | rfl <;> cases second <;>
      simp [startsSeparator]
  · rcases isMark with rfl | rfl | rfl <;> simp [startsSeparator]
  · rfl

theorem hasEncodedSeparator_append_mark
    {mark : CodeUnit}
    (isMark : IsMark mark)
    (first second : JsString) :
    hasEncodedSeparator (first ++ mark :: second) =
      (hasEncodedSeparator first || hasEncodedSeparator second) := by
  induction first with
  | nil =>
      rcases isMark with rfl | rfl | rfl <;> simp [hasEncodedSeparator]
  | cons unit rest inductionHypothesis =>
      rw [List.cons_append, hasEncodedSeparator,
        startsSeparator_append_mark isMark, inductionHypothesis,
        hasEncodedSeparator, Bool.or_assoc]

theorem startsSeparator_append
    {first : JsString}
    (starts : startsSeparator first = true)
    (second : JsString) :
    startsSeparator (first ++ second) = true := by
  rcases first with _ | ⟨high, _ | ⟨low, rest⟩⟩
  · cases starts
  · cases starts
  · exact starts

theorem hasEncodedSeparator_of_isInfix
    {inner outer : JsString}
    (inside : inner <:+: outer)
    (found : hasEncodedSeparator inner = true) :
    hasEncodedSeparator outer = true := by
  obtain ⟨start, stop, rfl⟩ := inside
  have extended : hasEncodedSeparator (inner ++ stop) = true := by
    induction inner with
    | nil => cases found
    | cons unit rest inductionHypothesis =>
        rw [hasEncodedSeparator, Bool.or_eq_true, Bool.and_eq_true] at found
        rw [List.cons_append, hasEncodedSeparator, Bool.or_eq_true,
          Bool.and_eq_true]
        rcases found with ⟨percent, starts⟩ | later
        · exact Or.inl ⟨percent, startsSeparator_append starts stop⟩
        · exact Or.inr (inductionHypothesis later)
  rw [List.append_assoc]
  induction start with
  | nil => exact extended
  | cons unit rest inductionHypothesis =>
      rw [List.cons_append, hasEncodedSeparator, inductionHypothesis,
        Bool.or_true]

theorem hasEncodedSeparator_escape
    {octet : Nat}
    (escaped : Escaped set octet)
    (rest : JsString) :
    hasEncodedSeparator (Url.escape octet ++ rest) = hasEncodedSeparator rest := by
  obtain ⟨bound, notKept⟩ := escaped
  have every : ∀ high low : Fin 16, ∀ more : JsString,
      startsSeparator (escapeDigit high :: escapeDigit low :: more) = true →
        (high = 2 ∧ low = 15) ∨ (high = 5 ∧ low = 12) := by
    intro high low more
    revert high low
    simp only [startsSeparator]
    decide +kernel
  have noSeparator : startsSeparator (escapeDigit (octet / 16) ::
      escapeDigit (octet % 16) :: rest) = false := by
    by_contra starts
    have digits := every ⟨octet / 16, by omega⟩ ⟨octet % 16, by omega⟩ rest
      (Bool.not_eq_false _ ▸ starts)
    simp only [Fin.ext_iff] at digits
    have isSeparator : octet = 0x2F ∨ octet = 0x5C := by
      rcases digits with ⟨first, second⟩ | ⟨first, second⟩
      · have high : octet / 16 = 2 := first
        have low : octet % 16 = 15 := second
        exact Or.inl (by omega)
      · have high : octet / 16 = 5 := first
        have low : octet % 16 = 12 := second
        exact Or.inr (by omega)
    rcases notKept with large | notPlain
    · omega
    · rcases isSeparator with rfl | rfl
      · have kept : set.escapes 0x2F = false :=
          set.keeps _ (Or.inr (Or.inr (Or.inl rfl)))
        rw [EncodeSet.plain,
          show Fin.ofNat 65536 0x2F = (0x2F : CodeUnit) from rfl,
          kept] at notPlain
        cases notPlain
      · have kept : set.escapes 0x5C = false :=
          set.keeps _ (Or.inr (Or.inr (Or.inr (Or.inl rfl))))
        rw [EncodeSet.plain,
          show Fin.ofNat 65536 0x5C = (0x5C : CodeUnit) from rfl,
          kept] at notPlain
        cases notPlain
  have noPercent : ∀ digit : Fin 16, escapeDigit digit ≠ 0x25 := by
    decide +kernel
  have high := noPercent ⟨octet / 16, by omega⟩
  have low := noPercent ⟨octet % 16, by omega⟩
  simp only [Url.escape, List.cons_append, List.nil_append, hasEncodedSeparator,
    noSeparator, decide_eq_false high, decide_eq_false low, Bool.false_and,
    Bool.and_false, Bool.false_or]

theorem hasEncodedSeparator_octets
    {octets : List Nat}
    (every : ∀ octet ∈ octets, Escaped set octet)
    (rest : JsString) :
    hasEncodedSeparator ((octets.map Token.octet).flatMap Token.text ++ rest) =
      hasEncodedSeparator rest := by
  induction octets with
  | nil => rfl
  | cons octet others inductionHypothesis =>
      obtain ⟨first, later⟩ := List.forall_mem_cons.mp every
      rw [List.map_cons, List.flatMap_cons, List.append_assoc,
        Token.text, hasEncodedSeparator_escape first,
        inductionHypothesis later]

theorem startsSeparator_of_encode
    {text : JsString}
    (starts : startsSeparator (encode set text) = true) :
    startsSeparator text = true := by
  cases shape : encode set text with
  | nil =>
      rw [shape] at starts
      cases starts
  | cons high rest =>
      cases rest with
      | nil =>
          rw [shape] at starts
          cases starts
      | cons low others =>
          rw [shape] at starts
          have digits := starts
          simp only [startsSeparator, Bool.or_eq_true,
            decide_eq_true_eq] at digits
          obtain ⟨more, rfl, encoded⟩ := encode_eq_cons shape (by
            rcases digits with ⟨rfl, _⟩ | ⟨rfl, _⟩ <;> decide)
          obtain ⟨later, rfl, _⟩ := encode_eq_cons encoded.symm (by
            rcases digits with ⟨_, rfl | rfl⟩ | ⟨_, rfl | rfl⟩ <;> decide)
          exact starts

theorem hasEncodedSeparator_of_encode
    {text : JsString}
    (found : hasEncodedSeparator (encode set text) = true) :
    hasEncodedSeparator text = true := by
  induction size : text.length using Nat.strong_induction_on
    generalizing text with
  | _ length inductionHypothesis =>
      rcases @encode_cases set text with
        ⟨_, empty⟩ | ⟨unit, rest, rfl, _, encoded⟩ |
          ⟨octets, rest, _, escaped, isSuffix, shorter, encoded⟩
      · rw [empty] at found
        cases found
      · rw [encoded, hasEncodedSeparator, Bool.or_eq_true,
          Bool.and_eq_true] at found
        rw [hasEncodedSeparator, Bool.or_eq_true, Bool.and_eq_true]
        rcases found with ⟨percent, starts⟩ | later
        · exact Or.inl ⟨percent, startsSeparator_of_encode starts⟩
        · refine Or.inr (inductionHypothesis rest.length ?_ later rfl)
          rw [← size]
          exact Nat.lt_succ_self _
      · rw [encoded, hasEncodedSeparator_octets escaped] at found
        exact hasEncodedSeparator_of_isInfix isSuffix.isInfix
          (inductionHypothesis rest.length (size ▸ shorter) found rfl)

end

/-! ## Normalized targets -/

section

variable
  {sets : EncodeSets}
  {elsewhere : JsString → JsString → Option Resolved}

variable {text : JsString}

theorem cleaned_of_relative
    (relative : IsRelativePath text) :
    ∃ rest, cleaned text = 0x2F :: rest ∧ rest <:+: text ∧
      rest.head?.any isSeparator = false := by
  obtain ⟨_, starts, oneSlash, noBackslash, noControl⟩ := relative
  cases text with
  | nil => cases starts
  | cons first tail =>
      cases Option.some.inj starts
      have trimmed : ((0x2F :: tail).dropWhile isOuter).rdropWhile isOuter =
          0x2F :: tail.rdropWhile isOuter := by
        rw [List.dropWhile_cons_of_neg (by decide), List.rdropWhile,
          List.reverse_cons, List.dropWhile_append]
        split
        · rename_i empty
          rw [List.rdropWhile, List.isEmpty_iff.mp empty]
          rfl
        · rw [List.reverse_append, List.rdropWhile]
          rfl
      have isPrefix : tail.rdropWhile isOuter <+: tail :=
        List.rdropWhile_prefix isOuter tail
      have kept : (0x2F :: tail.rdropWhile isOuter).filter
          (fun unit => !isDropped unit) = 0x2F :: tail.rdropWhile isOuter := by
        rw [List.filter_eq_self]
        intro unit member
        have inText : unit ∈ (0x2F :: tail : JsString) := by
          rcases List.mem_cons.mp member with rfl | inside
          · exact List.mem_cons_self
          · exact List.mem_cons_of_mem _ (isPrefix.subset inside)
        have notControl : ¬(unit.val < 32 ∨ unit.val = 127) := by
          intro control
          rw [containsAsciiControl, List.any_eq_false] at noControl
          exact noControl unit inText (decide_eq_true control)
        simp only [isDropped, Bool.not_eq_true', Bool.or_eq_false_iff,
          decide_eq_false_iff_not]
        refine ⟨⟨?_, ?_⟩, ?_⟩ <;> rintro rfl <;> exact notControl (by decide)
      refine ⟨tail.rdropWhile isOuter, by rw [cleaned, trimmed, kept],
        isPrefix.isInfix.trans (List.suffix_cons _ _).isInfix, ?_⟩
      cases shape : tail.rdropWhile isOuter with
      | nil => rfl
      | cons unit rest =>
          obtain ⟨more, whole⟩ := isPrefix
          rw [shape, List.cons_append] at whole
          rw [← whole] at oneSlash noBackslash
          have notSlash : unit ≠ 0x2F := fun same =>
            oneSlash (congrArg some same)
          have notBackslash : unit ≠ 0x5C := fun same =>
            noBackslash (by rw [← same]; simp)
          simp [isSeparator, notSlash, notBackslash]

theorem validateReturnTo_eq_ok
    {returned : JsString}
    (some : text ≠ []) :
    validateReturnTo sets elsewhere (.some text) = .ok returned ↔
      IsRelativePath text ∧ hasEncodedSeparator text = false ∧
        ∃ rest, cleaned text = 0x2F :: rest ∧ rest <:+: text ∧
          returned = (parsePath sets placeholderOrigin rest).text := by
  cases text with
  | nil => exact absurd rfl some
  | cons first tail =>
      unfold validateReturnTo
      simp only [check_bind_eq_ok]
      constructor
      · rintro ⟨relative, clean, resolved⟩
        obtain ⟨rest, isCleaned, inside, notSeparator⟩ :=
          cleaned_of_relative relative
        rw [resolve, isCleaned] at resolved
        simp only [notSeparator, Bool.false_eq_true, ↓reduceIte,
          check_bind_eq_ok] at resolved
        exact ⟨relative, clean, rest, isCleaned, inside,
          (Except.ok.inj resolved.2).symm⟩
      · rintro ⟨relative, clean, rest, isCleaned, _, rfl⟩
        obtain ⟨other, sameCleaned, _, notSeparator⟩ :=
          cleaned_of_relative relative
        rw [isCleaned] at sameCleaned
        cases sameCleaned
        refine ⟨relative, clean, ?_⟩
        rw [resolve, isCleaned]
        simp only [notSeparator, Bool.false_eq_true, ↓reduceIte,
          check_bind_eq_ok]
        exact ⟨rfl, rfl⟩

/-- The path that is left is the escaped form of the segments that are kept. -/
theorem path_parsePath
    (origin rest : JsString) :
    (parsePath sets origin rest).path =
      (keptSegments rest).map (encode sets.path) :=
  removeDots_encode [] (rawSegments (pathPart rest))

variable {origin rest : JsString}

/-- Two slashes begin the text exactly if an empty segment is left first. -/
theorem losesHost_parsePath_iff :
    (parsePath sets origin rest).LosesHost ↔ LeavesEmptyFirst rest := by
  rw [Resolved.LosesHost, path_parsePath, LeavesEmptyFirst]
  cases keptSegments rest with
  | nil => simp
  | cons first more => cases more <;> simp [encode_eq_nil]

theorem mem_keptSegments
    {segment : JsString}
    (member : segment ∈ keptSegments rest) :
    segment <:+: rest := by
  rcases mem_removeDots member with old | rfl | ⟨isSegment, _⟩
  · cases old
  · exact (List.nil_prefix).isInfix
  · exact (mem_rawSegments isSegment).1.trans
      ((before_isInfix _ _).trans (before_isInfix _ _))

theorem length_marked
    (mark : CodeUnit)
    (set : EncodeSet)
    (part : Option JsString) :
    (marked mark (part.map (encode set))).length = markedLength set part := by
  rcases part with _ | _ | ⟨unit, rest⟩
  · rfl
  · rfl
  · rw [Option.map_some]
    cases shape : encode set (unit :: rest) with
    | nil => exact absurd (encode_eq_nil.mp shape) (List.cons_ne_nil _ _)
    | cons first others =>
        rw [marked, List.length_cons, ← shape, length_encode, markedLength,
          Nat.add_comm]

theorem length_text_parsePath
    (origin rest : JsString) :
    (parsePath sets origin rest).text.length = escapedLength sets rest := by
  have path : (parsePath sets origin rest).pathname.length =
      ((keptSegments rest).map fun segment =>
        1 + encodedLength sets.path segment).sum := by
    rw [Resolved.pathname, path_parsePath, List.flatMap_map,
      List.length_flatMap]
    congr 1
    refine List.map_congr_left fun segment _ => ?_
    rw [List.length_cons, length_encode, Nat.add_comm]
  have query : (parsePath sets origin rest).search.length =
      markedLength sets.query (after 0x3F (before 0x23 rest)) :=
    length_marked _ _ _
  have fragment : (parsePath sets origin rest).hash.length =
      markedLength sets.fragment (after 0x23 rest) :=
    length_marked _ _ _
  rw [Resolved.text, List.length_append, List.length_append, path, query,
    fragment, escapedLength]

theorem mem_marked_encode
    {mark unit : CodeUnit}
    {set : EncodeSet}
    {part : Option JsString}
    (member : unit ∈ marked mark (part.map (encode set))) :
    unit = mark ∨ (∃ text ∈ part, unit ∈ text) ∨ isEscapeUnit unit = true := by
  rcases mem_marked member with isMark | ⟨text, isPart, inside⟩
  · exact Or.inl isMark
  · obtain ⟨raw, isRaw, rfl⟩ := Option.map_eq_some_iff.mp isPart
    rcases mem_encode inside with own | isEscape
    · exact Or.inr (Or.inl ⟨raw, isRaw, own⟩)
    · exact Or.inr (Or.inr isEscape)

theorem not_mem_backslash
    (clean : (0x5C : CodeUnit) ∉ rest) :
    (0x5C : CodeUnit) ∉ (parsePath sets origin rest).text := by
  intro member
  have tidy := tidy_parsePath sets origin rest
  rcases List.mem_append.mp member with inPath | others
  · rcases mem_pathname inPath with same | ⟨segment, isSegment, inside⟩
    · cases same
    · have notSeparator := (tidy.path_plain segment isSegment _ inside).2.1
      cases notSeparator
  · rcases List.mem_append.mp others with inSearch | inHash
    · rcases mem_marked_encode inSearch with
        same | ⟨query, found, inside⟩ | isEscape
      · cases same
      · exact clean ((before_isInfix _ _).subset
          ((after_isInfix found).subset inside))
      · cases isEscape
    · rcases mem_marked_encode inHash with
        same | ⟨fragment, found, inside⟩ | isEscape
      · cases same
      · exact clean ((after_isInfix found).subset inside)
      · cases isEscape

theorem hasEncodedSeparator_append_marked
    {mark : CodeUnit}
    (isMark : IsMark mark)
    {part : Option JsString}
    (textClean : hasEncodedSeparator text = false)
    (partClean : ∀ more ∈ part, hasEncodedSeparator more = false) :
    hasEncodedSeparator (text ++ marked mark part) = false := by
  rcases part with _ | _ | ⟨unit, rest⟩
  · rw [marked, List.append_nil]
    exact textClean
  · rw [marked, List.append_nil]
    exact textClean
  · rw [marked, hasEncodedSeparator_append_mark isMark, textClean,
      partClean _ rfl]
    rfl

theorem hasEncodedSeparator_join
    {path : List JsString}
    (every : ∀ segment ∈ path, hasEncodedSeparator segment = false) :
    hasEncodedSeparator (path.flatMap fun segment => 0x2F :: segment) =
      false := by
  have slash := @hasEncodedSeparator_append_mark 0x2F (Or.inl rfl)
  induction path with
  | nil => rfl
  | cons segment others inductionHypothesis =>
      obtain ⟨first, later⟩ := List.forall_mem_cons.mp every
      have rest := inductionHypothesis later
      rw [List.flatMap_cons, ← List.nil_append (0x2F :: segment ++ _),
        List.cons_append, slash]
      cases others with
      | nil =>
          rw [List.flatMap_nil, List.append_nil, first]
          rfl
      | cons next more =>
          rw [List.flatMap_cons, ← List.nil_append (0x2F :: next ++ _),
            List.cons_append, slash] at rest
          rw [List.flatMap_cons, List.cons_append, slash, first]
          exact rest

theorem hasEncodedSeparator_parsePath
    (clean : hasEncodedSeparator rest = false) :
    hasEncodedSeparator (parsePath sets origin rest).text = false := by
  have part : ∀ (set : EncodeSet) (raw : JsString), raw <:+: rest →
      hasEncodedSeparator (encode set raw) = false := by
    intro set raw inside
    by_contra found
    have inRaw := hasEncodedSeparator_of_encode
      (Bool.not_eq_false _ ▸ found)
    rw [hasEncodedSeparator_of_isInfix inside inRaw] at clean
    cases clean
  have path : hasEncodedSeparator
      (parsePath sets origin rest).pathname = false := by
    rw [Resolved.pathname, path_parsePath]
    have every : ∀ segment ∈ (keptSegments rest).map (encode sets.path),
        hasEncodedSeparator segment = false := by
      intro segment member
      obtain ⟨raw, isRaw, rfl⟩ := List.mem_map.mp member
      exact part sets.path raw (mem_keptSegments isRaw)
    exact hasEncodedSeparator_join every
  have query : ∀ more ∈ (parsePath sets origin rest).query,
      hasEncodedSeparator more = false := by
    intro more isQuery
    obtain ⟨raw, found, rfl⟩ := Option.map_eq_some_iff.mp isQuery
    exact part sets.query raw
      ((after_isInfix found).trans (before_isInfix _ _))
  have fragment : ∀ more ∈ (parsePath sets origin rest).fragment,
      hasEncodedSeparator more = false := by
    intro more isFragment
    obtain ⟨raw, found, rfl⟩ := Option.map_eq_some_iff.mp isFragment
    exact part sets.fragment raw (after_isInfix found)
  rw [Resolved.text, ← List.append_assoc]
  exact hasEncodedSeparator_append_marked (Or.inr (Or.inr rfl))
    (hasEncodedSeparator_append_marked (Or.inr (Or.inl rfl)) path query)
    fragment

theorem text_slashes
    {url : Resolved}
    (tidy : url.Tidy sets) :
    url.text.head? = some 0x2F ∧
      (url.text.tail.head? = some 0x2F ↔ url.LosesHost) := by
  cases shape : url.path with
  | nil => exact absurd shape tidy.path_ne_nil
  | cons first more =>
      have split : url.text = 0x2F :: (first ++ ((more.flatMap fun segment =>
          0x2F :: segment) ++ (url.search ++ url.hash))) := by
        simp [Resolved.text, Resolved.pathname, shape]
      rw [split]
      refine ⟨rfl, ?_⟩
      rw [List.tail_cons, Resolved.LosesHost, shape]
      cases first with
      | cons unit rest =>
          have notSeparator := (tidy.path_plain (unit :: rest)
            (shape ▸ List.mem_cons_self) unit List.mem_cons_self).2.1
          constructor
          · intro same
            cases Option.some.inj same
            cases notSeparator
          · rintro ⟨next, others, same⟩
            cases same
      | nil =>
          cases more with
          | cons next others => exact ⟨fun _ => ⟨next, others, rfl⟩, fun _ => rfl⟩
          | nil =>
              constructor
              · intro same
                rcases queryShape : url.query with _ | _ | ⟨unit, rest⟩ <;>
                  rcases fragmentShape : url.fragment with _ | _ | ⟨_, _⟩ <;>
                  simp [Resolved.search, Resolved.hash, queryShape,
                    fragmentShape, marked] at same
              · rintro ⟨next, others, same⟩
                cases same

/-- When the target of a clean text stays on the site. -/
theorem staysOnSite_parsePath_iff
    (noBackslash : (0x5C : CodeUnit) ∉ rest)
    (clean : hasEncodedSeparator rest = false) :
    StaysOnSite sets elsewhere
        (parsePath sets placeholderOrigin rest).text ↔
      ¬LeavesEmptyFirst rest ∧ escapedLength sets rest ≤ maxReturnToLength := by
  have tidy := tidy_parsePath sets placeholderOrigin rest
  obtain ⟨starts, twoSlashes⟩ := text_slashes tidy
  have some : (parsePath sets placeholderOrigin rest).text ≠ [] := by
    intro empty
    rw [empty] at starts
    cases starts
  rw [← @losesHost_parsePath_iff sets placeholderOrigin rest,
    ← @length_text_parsePath sets placeholderOrigin rest]
  constructor
  · rintro ⟨_, oneSlash, again⟩
    refine ⟨fun loses => oneSlash.2 (twoSlashes.mpr loses), ?_⟩
    exact ((validateReturnTo_eq_ok some).mp again).1.1
  · rintro ⟨keeps, short⟩
    have oneSlash := mt twoSlashes.mp keeps
    have relative : IsRelativePath
        (parsePath sets placeholderOrigin rest).text := by
      refine ⟨short, starts, oneSlash, not_mem_backslash noBackslash, ?_⟩
      rw [containsAsciiControl, List.any_eq_false]
      intro unit member
      have bounds := tidy.bounds member
      rw [decide_eq_true_iff]
      omega
    refine ⟨fun origin => ⟨_, resolve_text tidy keeps elsewhere origin, rfl⟩,
      ⟨starts, oneSlash⟩, ?_⟩
    cases shape : (parsePath sets placeholderOrigin rest).text with
    | nil => exact absurd shape some
    | cons first tail =>
        unfold validateReturnTo
        simp only [check_bind_eq_ok]
        rw [← shape]
        refine ⟨relative, hasEncodedSeparator_parsePath clean, ?_⟩
        rw [resolve_text tidy keeps elsewhere placeholderOrigin]
        simp only [check_bind_eq_ok, text_again]
        exact ⟨rfl, rfl⟩

/--
An accepted return target stays on the site unless removing dot segments leaves
an empty segment first, or escaping makes it too long.
-/
theorem validateReturnTo_staysOnSite_iff
    {value : Option JsString}
    {returned : JsString}
    (accepted : validateReturnTo sets elsewhere value = .ok returned) :
    StaysOnSite sets elsewhere returned ↔
      ¬LeavesEmptyFirst (requestedRest value) ∧
        escapedLength sets (requestedRest value) ≤ maxReturnToLength := by
  have root : StaysOnSite sets elsewhere (js "/") ↔
      ¬LeavesEmptyFirst [] ∧ escapedLength sets [] ≤ maxReturnToLength :=
    staysOnSite_parsePath_iff List.not_mem_nil rfl
  match value with
  | none =>
      cases accepted
      exact root
  | some [] =>
      cases accepted
      exact root
  | some (first :: tail) =>
      obtain ⟨relative, clean, rest, isCleaned, inside, rfl⟩ :=
        (validateReturnTo_eq_ok (List.cons_ne_nil _ _)).mp accepted
      have requested : requestedRest (some (first :: tail)) = rest := by
        rw [requestedRest, Option.getD_some, isCleaned]
        rfl
      rw [requested]
      refine staysOnSite_parsePath_iff
        (fun member => relative.2.2.2.1 (inside.subset member)) ?_
      by_contra found
      rw [hasEncodedSeparator_of_isInfix inside
        (Bool.not_eq_false _ ▸ found)] at clean
      cases clean

end

/-! ## The sets of the standard -/

/-- The units that no set escapes. -/
def isKeptUnit (unit : CodeUnit) : Bool :=
  [0x25, 0x2E, 0x2F, 0x5C].contains unit ||
    decide ((0x30 ≤ unit.val ∧ unit.val ≤ 0x39) ∨
      (0x41 ≤ unit.val ∧ unit.val ≤ 0x5A) ∨
      (0x61 ≤ unit.val ∧ unit.val ≤ 0x7A))

/-- The set that escapes the listed units. -/
def listedSet
    (units : List CodeUnit)
    (space : units.contains 0x20 = true)
    (kept : units.all (fun unit => !isKeptUnit unit) = true) :
    EncodeSet where
  escapes unit := units.contains unit
  escapes_space := space
  keeps unit plain := by
    by_contra listed
    have member := List.contains_iff_mem.mp (Bool.not_eq_false _ ▸ listed)
    have notKept := List.all_eq_true.mp kept unit member
    rw [isKeptUnit, Bool.not_eq_true', Bool.or_eq_false_iff,
      decide_eq_false_iff_not] at notKept
    rcases plain with rfl | rfl | rfl | rfl | range
    · cases notKept.1
    · cases notKept.1
    · cases notKept.1
    · cases notKept.1
    · exact notKept.2 range

/-- The path, special-query and fragment percent-encode sets. -/
def standardSets : EncodeSets where
  path := listedSet
    [0x20, 0x22, 0x23, 0x3C, 0x3E, 0x3F, 0x5E, 0x60, 0x7B, 0x7D]
    (by decide +kernel) (by decide +kernel)
  query := listedSet [0x20, 0x22, 0x23, 0x27, 0x3C, 0x3E]
    (by decide +kernel) (by decide +kernel)
  fragment := listedSet [0x20, 0x22, 0x3C, 0x3E, 0x60]
    (by decide +kernel) (by decide +kernel)

/-- A target of the application stays on the site. -/
theorem projectTarget_staysOnSite :
    StaysOnSite standardSets (fun _ _ => none) (js "/projects/p-1?a=b%20c") :=
  (@validateReturnTo_staysOnSite_iff standardSets (fun _ _ => none)
    (some (js "/projects/./p-1?a=b c")) (js "/projects/p-1?a=b%20c")
    (by decide +kernel)).mpr ⟨by unfold LeavesEmptyFirst; decide +kernel,
      by decide +kernel⟩

/-- A dot segment before two slashes names another host. -/
theorem dotTarget_leavesSite :
    validateReturnTo standardSets (fun _ _ => none)
        (some (js "/.//evil.example")) = .ok (js "//evil.example") ∧
      ¬StaysOnSite standardSets (fun _ _ => none) (js "//evil.example") := by
  refine ⟨by decide +kernel, fun stays => stays.oneSlash.2 ?_⟩
  decide +kernel

end Selene.Identity
