import Selene.JsText
import Mathlib.Data.List.Infix

/-!
# URL references that begin with a slash

How the URL parser of the platform resolves a reference such as `/a/../b?c#d`
against a web origin: the path is split into segments, dot segments are removed,
and every part is percent-encoded with the set of its kind.  Other references
(with a scheme, with an authority, relative) are left to the platform.

Encoding an encoded text changes nothing, and an escape never hides a dot or a
separator, so the text of a resolved path is resolved to the same path again.
-/

namespace Js.Url

open CodeUnit

/-! ## Percent encoding -/

/-- The digits of an escape. -/
def escapeDigit (value : Nat) : CodeUnit :=
  if value < 10 then Fin.ofNat 65536 (0x30 + value)
  else Fin.ofNat 65536 (0x37 + value)

/-- `%XX`. -/
def escape (byte : Nat) : JsString :=
  [0x25, escapeDigit (byte / 16), escapeDigit (byte % 16)]

/-- The UTF-8 form of a unit that is not half of a pair. -/
def unitOctets (unit : CodeUnit) : List Nat :=
  if unit.val ≤ 0x7F then [unit.val]
  else if unit.val ≤ 0x7FF then
    [0xC0 + unit.val / 64, 0x80 + unit.val % 64]
  else if unit.IsSurrogate then [0xEF, 0xBF, 0xBD]
  else
    [0xE0 + unit.val / 4096, 0x80 + unit.val / 64 % 64, 0x80 + unit.val % 64]

/-- The UTF-8 form of a surrogate pair. -/
def pairOctets (high low : CodeUnit) : List Nat :=
  let point := 0x10000 + (high.val - 0xD800) * 0x400 + (low.val - 0xDC00)
  [0xF0 + point / 262144, 0x80 + point / 4096 % 64, 0x80 + point / 64 % 64,
    0x80 + point % 64]

/--
A percent-encode set: the ASCII units that are escaped besides control
characters.  Every set escapes the space and none escapes `%`, `.`, `/`, `\`,
letters or digits.
-/
structure EncodeSet where
  escapes : CodeUnit → Bool
  escapes_space : escapes 0x20 = true
  keeps : ∀ unit : CodeUnit,
    unit = 0x25 ∨ unit = 0x2E ∨ unit = 0x2F ∨ unit = 0x5C ∨
      (0x30 ≤ unit.val ∧ unit.val ≤ 0x39) ∨
      (0x41 ≤ unit.val ∧ unit.val ≤ 0x5A) ∨
      (0x61 ≤ unit.val ∧ unit.val ≤ 0x7A) →
    escapes unit = false

variable (set : EncodeSet)

/-- A unit that stands for itself. -/
def EncodeSet.plain (unit : CodeUnit) : Bool :=
  decide (0x20 ≤ unit.val ∧ unit.val ≤ 0x7E) && !set.escapes unit

/-- A piece of an encoded text: a unit as it is, or an escaped octet. -/
inductive Token where
  | plain (unit : CodeUnit)
  | octet (value : Nat)

def Token.text : Token → JsString
  | .plain unit => [unit]
  | .octet value => escape value

/-- The pieces of one unit that is not half of a pair. -/
def unitTokens (unit : CodeUnit) : List Token :=
  if set.plain unit then [.plain unit] else (unitOctets unit).map .octet

/-- The pieces of a text. -/
def tokens : JsString → List Token
  | [] => []
  | [unit] => unitTokens set unit
  | high :: low :: rest =>
      if high.IsHighSurrogate ∧ low.IsLowSurrogate then
        (pairOctets high low).map .octet ++ tokens rest
      else
        unitTokens set high ++ tokens (low :: rest)

/-- UTF-8 percent encoding of a text. -/
def encode (text : JsString) : JsString :=
  (tokens set text).flatMap Token.text

/-- The length of the encoded form: three for every escaped octet. -/
def encodedLength (text : JsString) : Nat :=
  ((tokens set text).map fun token =>
    match token with
    | .plain _ => 1
    | .octet _ => 3).sum

/-! ## Segments -/

/-- ASCII lower case. -/
def asciiLower (text : JsString) : JsString :=
  text.map fun unit =>
    if 0x41 ≤ unit.val ∧ unit.val ≤ 0x5A then unit + 0x20 else unit

/-- `.` or `%2e`. -/
def isSingleDot (segment : JsString) : Bool :=
  [js ".", js "%2e"].contains (asciiLower segment)

/-- `..`, also with escaped dots. -/
def isDoubleDot (segment : JsString) : Bool :=
  [js "..", js ".%2e", js "%2e.", js "%2e%2e"].contains (asciiLower segment)

/-- A separator of segments in a web URL. -/
def isSeparator (unit : CodeUnit) : Bool :=
  unit = 0x2F || unit = 0x5C

/-- The segments of a path after its first slash. -/
def rawSegments (path : JsString) : List JsString :=
  path.splitOnP isSeparator

/--
The segments that are left, after those in `kept`: a dot segment adds nothing, a
double-dot segment removes the one before it, and either at the end leaves an
empty segment.
-/
def removeDots : List JsString → List JsString → List JsString
  | kept, [] => kept
  | kept, [last] =>
      if isDoubleDot last then kept.dropLast ++ [[]]
      else if isSingleDot last then kept ++ [[]]
      else kept ++ [last]
  | kept, segment :: next :: rest =>
      if isDoubleDot segment then removeDots kept.dropLast (next :: rest)
      else if isSingleDot segment then removeDots kept (next :: rest)
      else removeDots (kept ++ [segment]) (next :: rest)

theorem removeDots_ne_nil
    {segments : List JsString}
    (some : segments ≠ [])
    (kept : List JsString) :
    removeDots kept segments ≠ [] := by
  fun_induction removeDots kept segments with
  | case1 kept => exact absurd rfl some
  | case2 kept last double => simp
  | case3 kept last notDouble single => simp
  | case4 kept last notDouble notSingle => simp
  | case5 kept segment next rest double inductionHypothesis =>
      exact inductionHypothesis (List.cons_ne_nil _ _)
  | case6 kept segment next rest notDouble single inductionHypothesis =>
      exact inductionHypothesis (List.cons_ne_nil _ _)
  | case7 kept segment next rest notDouble notSingle inductionHypothesis =>
      exact inductionHypothesis (List.cons_ne_nil _ _)

/-! ## References -/

/-- The sets of the three parts. -/
structure EncodeSets where
  path : EncodeSet
  query : EncodeSet
  fragment : EncodeSet

/-- A resolved URL. -/
structure Resolved where
  origin : JsString
  path : List JsString
  query : Option JsString
  fragment : Option JsString
  deriving DecidableEq

/-- The text before the first `stop`. -/
def before (stop : CodeUnit) (text : JsString) : JsString :=
  text.takeWhile fun unit => unit ≠ stop

/-- The text after the first `stop`, if there is one. -/
def after (stop : CodeUnit) (text : JsString) : Option JsString :=
  match text.dropWhile fun unit => unit ≠ stop with
  | [] => none
  | _ :: rest => some rest

/-- Control characters and spaces around a reference are dropped. -/
def isOuter (unit : CodeUnit) : Bool :=
  decide (unit.val ≤ 0x20)

/-- Tabs and line breaks are dropped everywhere. -/
def isDropped (unit : CodeUnit) : Bool :=
  unit = 0x09 || unit = 0x0A || unit = 0x0D

/-- The reference that the parser looks at. -/
def cleaned (reference : JsString) : JsString :=
  ((reference.dropWhile isOuter).rdropWhile isOuter).filter fun unit =>
    !isDropped unit

/-- The path of a reference before the query and the fragment. -/
def pathPart (rest : JsString) : JsString :=
  before 0x3F (before 0x23 rest)

/-- The parsed form of what follows the first slash. -/
def parsePath (sets : EncodeSets) (origin rest : JsString) : Resolved where
  origin
  path := removeDots [] ((rawSegments (pathPart rest)).map (encode sets.path))
  query := (after 0x3F (before 0x23 rest)).map (encode sets.query)
  fragment := (after 0x23 rest).map (encode sets.fragment)

/--
Resolve a reference against an origin; `elsewhere` is the parser for references
that do not begin with exactly one slash.
-/
def resolve
    (sets : EncodeSets)
    (elsewhere : JsString → JsString → Option Resolved)
    (origin reference : JsString) :
    Option Resolved :=
  match cleaned reference with
  | 0x2F :: rest =>
      if rest.head?.any isSeparator then elsewhere origin reference
      else some (parsePath sets origin rest)
  | _ => elsewhere origin reference

/-- `url.pathname`. -/
def Resolved.pathname (url : Resolved) : JsString :=
  url.path.flatMap fun segment => 0x2F :: segment

/-- A part with its mark; an empty part leaves no mark. -/
def marked (mark : CodeUnit) : Option JsString → JsString
  | none => []
  | some [] => []
  | some (unit :: rest) => mark :: unit :: rest

/-- `url.search`. -/
def Resolved.search (url : Resolved) : JsString :=
  marked 0x3F url.query

/-- `url.hash`. -/
def Resolved.hash (url : Resolved) : JsString :=
  marked 0x23 url.fragment

/-- `${pathname}${search}${hash}`. -/
def Resolved.text (url : Resolved) : JsString :=
  url.pathname ++ (url.search ++ url.hash)

/-! ## Encoded texts -/

section

variable {set : EncodeSet}

theorem escapeDigit_range
    {value : Nat}
    (bound : value < 16) :
    (0x30 ≤ (escapeDigit value).val ∧ (escapeDigit value).val ≤ 0x39) ∨
      (0x41 ≤ (escapeDigit value).val ∧ (escapeDigit value).val ≤ 0x46) := by
  have every : ∀ digit : Fin 16,
      (0x30 ≤ (escapeDigit digit).val ∧ (escapeDigit digit).val ≤ 0x39) ∨
        (0x41 ≤ (escapeDigit digit).val ∧
          (escapeDigit digit).val ≤ 0x46) := by
    decide
  exact every ⟨value, bound⟩

/-- Units that an escape is made of. -/
def isEscapeUnit (unit : CodeUnit) : Bool :=
  decide (unit = 0x25 ∨ (0x30 ≤ unit.val ∧ unit.val ≤ 0x39) ∨
    (0x41 ≤ unit.val ∧ unit.val ≤ 0x46))

variable {unit : CodeUnit} {octet : Nat}

theorem isEscapeUnit_of_mem_escape
    (bound : octet < 256)
    (member : unit ∈ escape octet) :
    isEscapeUnit unit = true := by
  have high := @escapeDigit_range (octet / 16) (by omega)
  have low := @escapeDigit_range (octet % 16) (by omega)
  rw [isEscapeUnit, decide_eq_true_iff]
  simp only [escape, List.mem_cons, List.not_mem_nil, or_false] at member
  rcases member with rfl | rfl | rfl
  · exact Or.inl rfl
  · exact Or.inr high
  · exact Or.inr low

theorem plain_of_isEscapeUnit
    (isEscape : isEscapeUnit unit = true) :
    set.plain unit = true := by
  rw [isEscapeUnit, decide_eq_true_iff] at isEscape
  have kept : set.escapes unit = false := by
    apply set.keeps
    rcases isEscape with rfl | digit | capital
    · exact Or.inl rfl
    · exact Or.inr (Or.inr (Or.inr (Or.inr (Or.inl digit))))
    · refine Or.inr (Or.inr (Or.inr (Or.inr (Or.inr (Or.inl ?_)))))
      omega
  rw [EncodeSet.plain, kept]
  rcases isEscape with rfl | digit | capital
  · rfl
  · simp only [Bool.not_false, Bool.and_true, decide_eq_true_eq]
    omega
  · simp only [Bool.not_false, Bool.and_true, decide_eq_true_eq]
    omega

/-- An escaped octet is not one of a unit that stands for itself. -/
def Escaped (set : EncodeSet) (octet : Nat) : Prop :=
  octet < 256 ∧
    (0x80 ≤ octet ∨ set.plain (Fin.ofNat 65536 octet) = false)

/-- What the pieces of an encoded text are. -/
def Token.Fits (set : EncodeSet) : Token → Prop
  | .plain unit => set.plain unit = true
  | .octet value => Escaped set value

theorem escaped_of_mem_unitOctets
    (notPlain : set.plain unit = false)
    (member : octet ∈ unitOctets unit) :
    Escaped set octet := by
  have bound := unit.isLt
  unfold unitOctets at member
  split at member
  · rename_i ascii
    rw [List.mem_singleton] at member
    subst member
    refine ⟨by omega, Or.inr ?_⟩
    rw [Fin.ofNat_val_eq_self]
    exact notPlain
  · split at member
    · simp only [List.mem_cons, List.not_mem_nil, or_false] at member
      exact ⟨by omega, Or.inl (by omega)⟩
    · split at member
      · simp only [List.mem_cons, List.not_mem_nil, or_false] at member
        exact ⟨by omega, Or.inl (by omega)⟩
      · simp only [List.mem_cons, List.not_mem_nil, or_false] at member
        exact ⟨by omega, Or.inl (by omega)⟩

theorem escaped_of_mem_pairOctets
    {high low : CodeUnit}
    (pair : high.IsHighSurrogate ∧ low.IsLowSurrogate)
    (member : octet ∈ pairOctets high low) :
    Escaped set octet := by
  unfold IsHighSurrogate IsLowSurrogate at pair
  simp only [pairOctets, List.mem_cons, List.not_mem_nil, or_false] at member
  exact ⟨by omega, Or.inl (by omega)⟩

theorem fits_of_mem_unitTokens
    {token : Token}
    (member : token ∈ unitTokens set unit) :
    token.Fits set := by
  unfold unitTokens at member
  split at member
  · rename_i isPlain
    rw [List.mem_singleton] at member
    subst member
    exact isPlain
  · rename_i notPlain
    obtain ⟨octet, isOctet, rfl⟩ := List.mem_map.mp member
    exact escaped_of_mem_unitOctets (Bool.eq_false_iff.mpr notPlain) isOctet

variable {text : JsString}

theorem fits_of_mem_tokens
    {token : Token}
    (member : token ∈ tokens set text) :
    token.Fits set := by
  fun_induction tokens set text with
  | case1 => cases member
  | case2 unit => exact fits_of_mem_unitTokens member
  | case3 high low rest pair inductionHypothesis =>
      rcases List.mem_append.mp member with here | later
      · obtain ⟨octet, isOctet, rfl⟩ := List.mem_map.mp here
        exact escaped_of_mem_pairOctets pair isOctet
      · exact inductionHypothesis later
  | case4 high low rest notPair inductionHypothesis =>
      rcases List.mem_append.mp member with here | later
      · exact fits_of_mem_unitTokens here
      · exact inductionHypothesis later

theorem mem_of_plain_mem_tokens
    (member : Token.plain unit ∈ tokens set text) :
    unit ∈ text := by
  have single : ∀ other, Token.plain unit ∈ unitTokens set other →
      unit = other := by
    intro other isToken
    unfold unitTokens at isToken
    split at isToken
    · cases List.mem_singleton.mp isToken
      rfl
    · obtain ⟨octet, _, same⟩ := List.mem_map.mp isToken
      cases same
  fun_induction tokens set text with
  | case1 => cases member
  | case2 other =>
      rw [single other member]
      exact List.mem_singleton_self other
  | case3 high low rest pair inductionHypothesis =>
      rcases List.mem_append.mp member with here | later
      · obtain ⟨octet, _, same⟩ := List.mem_map.mp here
        cases same
      · exact List.mem_cons_of_mem _
          (List.mem_cons_of_mem _ (inductionHypothesis later))
  | case4 high low rest notPair inductionHypothesis =>
      rcases List.mem_append.mp member with here | later
      · rw [single high here]
        exact List.mem_cons_self
      · exact List.mem_cons_of_mem _ (inductionHypothesis later)

theorem mem_encode
    (member : unit ∈ encode set text) :
    unit ∈ text ∨ isEscapeUnit unit = true := by
  obtain ⟨token, isToken, isUnit⟩ := List.mem_flatMap.mp member
  cases token with
  | plain other =>
      cases List.mem_singleton.mp isUnit
      exact Or.inl (mem_of_plain_mem_tokens isToken)
  | octet value =>
      exact Or.inr (isEscapeUnit_of_mem_escape
        (fits_of_mem_tokens isToken).1 isUnit)

theorem plain_of_mem_encode
    (member : unit ∈ encode set text) :
    set.plain unit = true := by
  obtain ⟨token, isToken, isUnit⟩ := List.mem_flatMap.mp member
  have fits := fits_of_mem_tokens isToken
  cases token with
  | plain other =>
      cases List.mem_singleton.mp isUnit
      exact fits
  | octet value =>
      exact plain_of_isEscapeUnit (isEscapeUnit_of_mem_escape fits.1 isUnit)

theorem bounds_of_plain
    (isPlain : set.plain unit = true) :
    0x21 ≤ unit.val ∧ unit.val ≤ 0x7E := by
  rw [EncodeSet.plain, Bool.and_eq_true, decide_eq_true_iff,
    Bool.not_eq_true'] at isPlain
  have notSpace : unit.val ≠ 0x20 := by
    intro same
    have space : unit = 0x20 := Fin.ext same
    rw [space, set.escapes_space] at isPlain
    cases isPlain.2
  omega

theorem tokens_of_plain
    (every : ∀ unit ∈ text, set.plain unit = true) :
    tokens set text = text.map .plain := by
  fun_induction tokens set text with
  | case1 => rfl
  | case2 unit =>
      rw [unitTokens, if_pos (every unit (List.mem_singleton_self unit))]
      rfl
  | case3 high low rest pair inductionHypothesis =>
      have ascii := bounds_of_plain (every high List.mem_cons_self)
      have surrogate := pair.1
      unfold IsHighSurrogate at surrogate
      omega
  | case4 high low rest notPair inductionHypothesis =>
      rw [unitTokens, if_pos (every high List.mem_cons_self),
        inductionHypothesis fun unit member =>
          every unit (List.mem_cons_of_mem _ member)]
      rfl

theorem encode_of_plain
    (every : ∀ unit ∈ text, set.plain unit = true) :
    encode set text = text := by
  rw [encode, tokens_of_plain every, List.flatMap_map]
  exact List.flatMap_singleton' text

@[simp] theorem encode_nil : encode set [] = [] :=
  rfl

theorem length_encode (text : JsString) :
    (encode set text).length = encodedLength set text := by
  rw [encode, encodedLength, List.length_flatMap]
  congr 1
  refine List.map_congr_left fun token _ => ?_
  cases token <;> rfl

theorem plain_of_tokens
    (only : ∀ token ∈ tokens set text, ∃ unit, token = .plain unit) :
    ∀ unit ∈ text, set.plain unit = true := by
  have single : ∀ unit, (∀ token ∈ unitTokens set unit,
      ∃ other, token = .plain other) → set.plain unit = true := by
    intro unit every
    by_contra notPlain
    rw [unitTokens, if_neg notPlain] at every
    unfold unitOctets at every
    split at every
    · obtain ⟨other, same⟩ := every _ List.mem_cons_self
      cases same
    · split at every
      · obtain ⟨other, same⟩ := every _ List.mem_cons_self
        cases same
      · split at every <;>
        · obtain ⟨other, same⟩ := every _ List.mem_cons_self
          cases same
  fun_induction tokens set text with
  | case1 => exact fun _ member => absurd member List.not_mem_nil
  | case2 unit =>
      intro other member
      cases List.mem_singleton.mp member
      exact single unit only
  | case3 high low rest pair inductionHypothesis =>
      obtain ⟨unit, same⟩ := only _ List.mem_cons_self
      cases same
  | case4 high low rest notPair inductionHypothesis =>
      intro other member
      rcases List.mem_cons.mp member with rfl | later
      · exact single other fun token isToken =>
          only token (List.mem_append_left _ isToken)
      · exact inductionHypothesis
          (fun token isToken => only token (List.mem_append_right _ isToken))
          other later

theorem encode_eq_or_escape (text : JsString) :
    encode set text = text ∨
      ∃ octet, Escaped set octet ∧ escape octet <:+: encode set text := by
  by_cases every : ∀ unit ∈ text, set.plain unit = true
  · exact Or.inl (encode_of_plain every)
  · refine Or.inr ?_
    have found : ∃ octet, Token.octet octet ∈ tokens set text := by
      by_contra none
      refine every ?_
      have only : ∀ token ∈ tokens set text, ∃ unit, token = .plain unit := by
        intro token member
        cases token with
        | plain unit => exact ⟨unit, rfl⟩
        | octet value => exact absurd ⟨value, member⟩ none
      exact plain_of_tokens only
    obtain ⟨octet, member⟩ := found
    refine ⟨octet, fits_of_mem_tokens member, ?_⟩
    obtain ⟨first, last, shape⟩ := List.append_of_mem member
    refine ⟨first.flatMap Token.text, last.flatMap Token.text, ?_⟩
    rw [encode, shape]
    simp [Token.text]

variable {rest : JsString}

theorem encode_cons
    (notPair : ∀ low ∈ rest.head?,
      ¬(unit.IsHighSurrogate ∧ low.IsLowSurrogate)) :
    encode set (unit :: rest) =
      (unitTokens set unit).flatMap Token.text ++ encode set rest := by
  cases rest with
  | nil =>
      rw [encode, tokens, encode, tokens, List.flatMap_nil, List.append_nil]
  | cons low more =>
      rw [encode, tokens, if_neg (notPair low rfl), List.flatMap_append,
        encode]

theorem encode_cons_of_plain
    (isPlain : set.plain unit = true) :
    encode set (unit :: rest) = unit :: encode set rest := by
  rw [encode_cons, unitTokens, if_pos isPlain]
  · rfl
  · rintro low _ ⟨high, _⟩
    have ascii := bounds_of_plain isPlain
    unfold IsHighSurrogate at high
    omega

theorem unitOctets_ne_nil (unit : CodeUnit) : unitOctets unit ≠ [] := by
  unfold unitOctets
  split
  · simp
  · split
    · simp
    · split <;> simp

theorem encode_cases (text : JsString) :
    (text = [] ∧ encode set text = []) ∨
      (∃ unit rest, text = unit :: rest ∧ set.plain unit = true ∧
        encode set text = unit :: encode set rest) ∨
      (∃ octets rest, octets ≠ [] ∧ (∀ octet ∈ octets, Escaped set octet) ∧
        rest <:+ text ∧ rest.length < text.length ∧
        encode set text =
          (octets.map Token.octet).flatMap Token.text ++ encode set rest) := by
  cases text with
  | nil => exact Or.inl ⟨rfl, rfl⟩
  | cons unit rest =>
      refine Or.inr ?_
      by_cases pair : ∃ low ∈ rest.head?,
          unit.IsHighSurrogate ∧ low.IsLowSurrogate
      · obtain ⟨low, isHead, isPair⟩ := pair
        cases rest with
        | nil => cases isHead
        | cons next more =>
            cases isHead
            refine Or.inr ⟨pairOctets unit low, more, by simp [pairOctets],
              fun octet member => escaped_of_mem_pairOctets isPair member,
              ⟨[unit, low], rfl⟩,
              by simp only [List.length_cons]; omega, ?_⟩
            rw [encode, tokens, if_pos isPair, List.flatMap_append, encode]
      · have shape := @encode_cons set unit rest
          fun low isHead isPair => pair ⟨low, isHead, isPair⟩
        by_cases isPlain : set.plain unit = true
        · exact Or.inl ⟨unit, rest, rfl, isPlain, encode_cons_of_plain isPlain⟩
        · rw [unitTokens, if_neg isPlain] at shape
          refine Or.inr ⟨unitOctets unit, rest, unitOctets_ne_nil unit,
            fun octet member => escaped_of_mem_unitOctets
              (Bool.eq_false_iff.mpr isPlain) member,
            List.suffix_cons unit rest, by simp, shape⟩

theorem encode_eq_nil :
    encode set text = [] ↔ text = [] := by
  constructor
  · intro empty
    rcases @encode_cases set text with
      ⟨isNil, _⟩ | ⟨unit, rest, _, _, shape⟩ | ⟨octets, rest, some, _, _, _, shape⟩
    · exact isNil
    · rw [shape] at empty
      cases empty
    · rw [shape] at empty
      cases octets with
      | nil => exact absurd rfl some
      | cons octet others => cases empty
  · rintro rfl
    rfl

theorem encode_eq_cons
    (shape : encode set text = unit :: rest)
    (notPercent : unit ≠ 0x25) :
    ∃ more, text = unit :: more ∧ rest = encode set more := by
  rcases @encode_cases set text with
    ⟨_, empty⟩ | ⟨other, more, rfl, _, encoded⟩ |
      ⟨octets, more, some, _, _, _, encoded⟩
  · rw [empty] at shape
    cases shape
  · rw [encoded] at shape
    cases shape
    exact ⟨more, rfl, rfl⟩
  · rw [encoded] at shape
    cases octets with
    | nil => exact absurd rfl some
    | cons octet others =>
        cases shape
        exact absurd rfl notPercent

end

end Js.Url
