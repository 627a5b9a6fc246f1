import Selene.EnterpriseData
import Selene.JsDate

/-!
# Fields of enterprise contracts

What the checks on the fields of public data take: texts, identifiers, digests
and instants.  An accepted field is the value that was given.
-/

namespace Selene.Enterprise

open Js

/-! ## Fields -/

variable {value : JsValue} {field : String} {maximum : Nat} {result : JsString}

theorem text_eq_ok :
    text value field maximum = .ok result ↔
      value = .string result ∧ isText maximum result = true := by
  cases value with
  | string content =>
      rw [text]
      by_cases accepted : isText maximum content = true
      · rw [if_pos accepted, Except.ok.injEq, JsValue.string.injEq]
        constructor
        · rintro rfl
          exact ⟨rfl, accepted⟩
        · exact And.left
      · rw [if_neg accepted, JsValue.string.injEq]
        constructor
        · intro none
          cases none
        · rintro ⟨rfl, isAccepted⟩
          exact absurd isAccepted accepted
  | _ =>
      constructor
      · intro none
        cases none
      · rintro ⟨none, _⟩
        cases none

/-- A text that `identifier` takes. -/
def IsIdentifierText (value : JsString) : Prop :=
  isText 256 value = true ∧ isIdentifier value = true

theorem identifier_eq_ok :
    identifier value field = .ok result ↔
      value = .string result ∧ IsIdentifierText result := by
  rw [identifier, bind_eq_ok]
  constructor
  · rintro ⟨content, accepted, rest⟩
    obtain ⟨isName, same⟩ := check_bind_eq_ok.mp rest
    cases Except.ok.inj same
    obtain ⟨isString, isText⟩ := text_eq_ok.mp accepted
    exact ⟨isString, isText, isName⟩
  · rintro ⟨isString, isText, isName⟩
    exact ⟨result, text_eq_ok.mpr ⟨isString, isText⟩,
      check_bind_eq_ok.mpr ⟨isName, rfl⟩⟩

/-- A text that `canonicalInstant` takes. -/
structure IsInstant (value : JsString) : Prop where
  isText : isText 30 value = true
  shape : matchesTemplate instantTemplate value = true
  canonical : IsCanonicalDate value

theorem canonicalInstant_eq_ok :
    canonicalInstant value field = .ok result ↔
      value = .string result ∧ IsInstant result := by
  rw [canonicalInstant, bind_eq_ok]
  constructor
  · rintro ⟨content, accepted, rest⟩
    obtain ⟨isString, isText⟩ := text_eq_ok.mp accepted
    obtain ⟨shape, rest⟩ := check_bind_eq_ok.mp rest
    cases isTime : dateParse content with
    | none =>
        rw [isTime] at rest
        cases rest
    | some time =>
        rw [isTime] at rest
        obtain ⟨written, same⟩ := check_bind_eq_ok.mp rest
        cases Except.ok.inj same
        refine ⟨isString, isText, shape, ?_⟩
        rw [IsCanonicalDate, isTime, Option.map_some, written]
  · rintro ⟨isString, isText, shape, canonical⟩
    refine ⟨result, text_eq_ok.mpr ⟨isString, isText⟩,
      check_bind_eq_ok.mpr ⟨shape, ?_⟩⟩
    obtain ⟨time, isTime, written⟩ := canonical.exists_time
    rw [isTime]
    exact check_bind_eq_ok.mpr ⟨written, rfl⟩

theorem IsIdentifierText.printable
    {value : JsString}
    (isIdentifierText : IsIdentifierText value) :
    ∀ unit ∈ value, 0x20 < unit.val ∧ unit.val < 0x7F := by
  obtain ⟨_, isName⟩ := isIdentifierText
  cases value with
  | nil => simp
  | cons first rest =>
      rw [isIdentifier, Bool.and_eq_true, Bool.and_eq_true,
        List.all_eq_true] at isName
      obtain ⟨⟨isFirst, _⟩, isRest⟩ := isName
      rw [List.forall_mem_cons]
      constructor
      · have bounds := of_decide_eq_true isFirst
        omega
      · intro unit member
        rcases Bool.or_eq_true_iff.mp (isRest unit member) with plain | mark
        · rcases Bool.or_eq_true_iff.mp plain with letter | digit
          · have bounds := of_decide_eq_true letter
            omega
          · have bounds := of_decide_eq_true digit
            omega
        · have marks : ((js "._-").all fun unit =>
              decide (0x20 < unit.val ∧ unit.val < 0x7F)) = true := by decide
          exact of_decide_eq_true
            (List.all_eq_true.mp marks unit (List.contains_iff_mem.mp mark))

theorem sha256Digest_eq_ok
    (accepted : sha256Digest value field = .ok result) :
    value = .string result := by
  obtain ⟨content, isText, rest⟩ := bind_eq_ok.mp accepted
  obtain ⟨_, same⟩ := check_bind_eq_ok.mp rest
  cases Except.ok.inj same
  exact (text_eq_ok.mp isText).1

theorem boundedInteger_ofNat_eq_ok
    {value minimum result : Nat}
    (accepted : boundedInteger (.number (.ofNat value)) field minimum maximum =
      .ok result) :
    result = value := by
  simp only [boundedInteger, JsNumber.ofNat, JsNumber.safeInteger?] at accepted
  split at accepted
  · rename_i integer isSafe
    split at isSafe
    · cases isSafe
      split at accepted
      · cases accepted
        simp
      · cases accepted
    · cases isSafe
  · cases accepted

theorem object_of_dataRecord
    {allowedKeys : List JsString}
    {input : Record}
    (accepted : dataRecord value field allowedKeys = .ok input) :
    value = .object input := by
  cases value with
  | object entries =>
      rw [dataRecord] at accepted
      split at accepted
      · cases accepted
      · obtain ⟨_, _, same⟩ := bind_eq_ok.mp accepted
        cases same
        rfl
  | _ => cases accepted

theorem array_of_dataArray
    {items : List JsValue}
    (accepted : dataArray value field = .ok items) :
    value = .array items := by
  cases value with
  | array given =>
      rw [dataArray] at accepted
      obtain ⟨_, _, same⟩ := bind_eq_ok.mp accepted
      cases same
      rfl
  | _ => cases accepted

theorem number_of_boundedPositiveInteger
    {result : Nat}
    (accepted : boundedPositiveInteger value field maximum = .ok result) :
    ∃ number, value = .number number ∧
      number.safeInteger? = some (result : Int) := by
  cases value with
  | number number =>
      rw [boundedPositiveInteger, boundedInteger] at accepted
      split at accepted
      · rename_i integer isInteger
        split at accepted
        · rename_i bounds
          cases accepted
          refine ⟨number, rfl, ?_⟩
          rw [isInteger, Int.toNat_of_nonneg (by omega)]
        · cases accepted
      · cases accepted
  | _ => cases accepted

/-! ## Instants -/

theorem mem_of_matchesTemplate
    {template value : JsString}
    (fits : matchesTemplate template value = true) :
    ∀ unit ∈ value, isDecimalDigit unit = true ∨ unit ∈ template := by
  induction template generalizing value with
  | nil =>
      cases value with
      | nil => simp
      | cons unit rest => cases fits
  | cons expected template inductionHypothesis =>
      cases value with
      | nil => cases fits
      | cons unit rest =>
          rw [matchesTemplate, Bool.and_eq_true] at fits
          rw [List.forall_mem_cons]
          constructor
          · by_cases isDigit : expected = 0x30
            · rw [if_pos isDigit] at fits
              exact .inl fits.1
            · rw [if_neg isDigit] at fits
              exact .inr (of_decide_eq_true fits.1 ▸ List.mem_cons_self)
          · intro other member
            exact (inductionHypothesis fits.2 other member).imp_right
              (List.mem_cons_of_mem _)

theorem isText_of_printable
    {value : JsString}
    (printable : ∀ unit ∈ value, 0x20 < unit.val ∧ unit.val < 0x7F)
    (nonempty : value ≠ [])
    (short : value.length ≤ maximum) :
    isText maximum value = true := by
  have noSpace : ∀ unit ∈ value, ¬ isWhiteSpace unit = true := by
    intro unit member isSpace
    have bounds := printable unit member
    have space := of_decide_eq_true isSpace
    omega
  obtain ⟨first, rest, rfl⟩ := List.exists_cons_of_ne_nil nonempty
  have noZero : (0 : CodeUnit) ∉ first :: rest := by
    intro member
    exact absurd (printable 0 member).1 (by decide)
  have trimmed : trim (first :: rest) ≠ [] := by
    rw [trim, List.dropWhile_cons_of_neg (noSpace first List.mem_cons_self),
      ne_eq, List.rdropWhile_eq_nil_iff]
    exact fun spaces => noSpace first List.mem_cons_self
      (spaces first List.mem_cons_self)
  have bytes : utf8Length (first :: rest) ≤ maximum := by
    rwa [utf8Length_of_ascii fun unit member => (printable unit member).2.le]
  rw [isText, decide_eq_true nonempty, decide_eq_true short,
    decide_eq_true noZero, decide_eq_true trimmed, decide_eq_true bytes]
  rfl

theorem isText_of_matchesTemplate
    {value : JsString}
    (fits : matchesTemplate instantTemplate value = true) :
    isText 30 value = true := by
  have length : value.length = 24 := length_of_matchesTemplate fits
  refine isText_of_printable (fun unit member => ?_) ?_ (by omega)
  · rcases mem_of_matchesTemplate fits unit member with isDigit | inTemplate
    · have digit := of_decide_eq_true isDigit
      omega
    · have literals : (instantTemplate.all fun unit =>
          decide (0x20 < unit.val ∧ unit.val < 0x7F)) = true := by decide
      exact of_decide_eq_true (List.all_eq_true.mp literals unit inTemplate)
  · rintro rfl
    cases length

end Selene.Enterprise
