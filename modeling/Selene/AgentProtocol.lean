import Selene.JsDate
import Selene.PrototypeGraph

/-!
# Texts of the agent protocol

What the agent protocol says about texts and their sizes: the budgets of JSON
data, protocol errors, identifiers, capabilities and date-times.  The walks that
count bytes stop as soon as a bound is passed; `le_iff` lemmas say that this is
how they decide the bound.
-/

namespace Selene.Agent

open Js Prototype

def maxJsonlLineBytes : Nat := 1024 * 1024

def maxCapabilities : Nat := 128

def maxInFlightRequests : Nat := 1024

structure JsonBudgets where
  maximumBytes : Nat
  maximumDepth : Nat
  maximumValues : Nat
  maximumArrayLength : Nat
  maximumStringBytes : Nat
  maximumNumberCharacters : Nat
  deriving DecidableEq

def defaultJsonBudgets : JsonBudgets where
  maximumBytes := maxJsonlLineBytes
  maximumDepth := 32
  maximumValues := 4096
  maximumArrayLength := 1024
  maximumStringBytes := 512 * 1024
  maximumNumberCharacters := 128

/-! ## Bytes -/

/-- The bytes of the character at a unit; a pair is one character. -/
def utf8CharacterBytes (code : CodeUnit) (next : Option CodeUnit) : Nat :=
  if code.val ≤ 0x7F then 1
  else if code.val ≤ 0x7FF then 2
  else if code.IsHighSurrogate ∧ ∃ low ∈ next, low.IsLowSurrogate then 4
  else 3

/-- The walk of `utf8ByteLengthAtMost`, after some bytes. -/
def utf8BytesFrom (maximumBytes usedBytes : Nat) : JsString → Nat
  | [] => usedBytes
  | [code] =>
      let used := usedBytes + utf8CharacterBytes code none
      if maximumBytes < used then maximumBytes + 1 else used
  | code :: next :: rest =>
      let characterBytes := utf8CharacterBytes code (some next)
      let used := usedBytes + characterBytes
      if maximumBytes < used then maximumBytes + 1
      else if characterBytes = 4 then utf8BytesFrom maximumBytes used rest
      else utf8BytesFrom maximumBytes used (next :: rest)

def utf8ByteLengthAtMost (value : JsString) (maximumBytes : Nat) : Nat :=
  utf8BytesFrom maximumBytes 0 value

theorem utf8Length_concat
    {text : JsString}
    {unit : CodeUnit}
    (notLow : ¬ unit.IsLowSurrogate) :
    utf8Length (text ++ [unit]) = utf8Length text + unitBytes unit := by
  fun_induction utf8Length text with
  | case1 => simp [utf8Length]
  | case2 first =>
      rw [List.singleton_append, utf8Length_unpaired fun pair => notLow pair.2]
      rfl
  | case3 high low rest pair inductionHypothesis =>
      rw [List.cons_append, List.cons_append, utf8Length_pair pair,
        inductionHypothesis, Nat.add_assoc]
  | case4 first next rest unpaired inductionHypothesis =>
      rw [List.cons_append] at inductionHypothesis ⊢
      rw [List.cons_append, utf8Length_unpaired unpaired, inductionHypothesis,
        Nat.add_assoc]

/-- The characters that fit before the rest of a text. -/
def truncateUtf8From (maximumBytes usedBytes : Nat) : JsString → JsString
  | [] => []
  | [code] =>
      if maximumBytes < usedBytes + utf8CharacterBytes code none then []
      else [code]
  | code :: next :: rest =>
      let characterBytes := utf8CharacterBytes code (some next)
      if maximumBytes < usedBytes + characterBytes then []
      else if characterBytes = 4 then
        code :: next ::
          truncateUtf8From maximumBytes (usedBytes + characterBytes) rest
      else
        code :: truncateUtf8From maximumBytes (usedBytes + characterBytes)
          (next :: rest)

theorem utf8CharacterBytes_pair
    {code next : CodeUnit}
    (pair : code.IsHighSurrogate ∧ next.IsLowSurrogate) :
    utf8CharacterBytes code (some next) = 4 := by
  have high := pair.1
  unfold CodeUnit.IsHighSurrogate at high
  rw [utf8CharacterBytes, if_neg (by omega), if_neg (by omega),
    if_pos ⟨pair.1, next, rfl, pair.2⟩]

theorem utf8CharacterBytes_unpaired
    {code : CodeUnit}
    {next : Option CodeUnit}
    (unpaired : ∀ low ∈ next, ¬ (code.IsHighSurrogate ∧ low.IsLowSurrogate)) :
    utf8CharacterBytes code next = unitBytes code := by
  rw [utf8CharacterBytes, unitBytes, if_neg (c := _ ∧ _)]
  rintro ⟨high, low, member, isLow⟩
  exact unpaired low member ⟨high, isLow⟩

/-- The walk counts the bytes of a text as far as they fit. -/
theorem utf8BytesFrom_eq
    {maximumBytes usedBytes : Nat}
    {value : JsString}
    (room : usedBytes ≤ maximumBytes) :
    utf8BytesFrom maximumBytes usedBytes value =
      if usedBytes + utf8Length value ≤ maximumBytes then
        usedBytes + utf8Length value
      else
        maximumBytes + 1 := by
  induction size : value.length using Nat.strong_induction_on
    generalizing value usedBytes with
  | _ size inductionHypothesis =>
  match value with
  | [] => simp [utf8BytesFrom, utf8Length, room]
  | [code] =>
      have bytes : utf8CharacterBytes code none = unitBytes code :=
        utf8CharacterBytes_unpaired (by simp)
      rw [utf8BytesFrom, bytes, utf8Length]
      by_cases tooLong : maximumBytes < usedBytes + unitBytes code
      · rw [if_pos tooLong, if_neg (by omega)]
      · rw [if_neg tooLong, if_pos (by omega)]
  | code :: next :: rest =>
      subst size
      by_cases pair : code.IsHighSurrogate ∧ next.IsLowSurrogate
      · rw [utf8BytesFrom, utf8CharacterBytes_pair pair, utf8Length_pair pair]
        by_cases tooLong : maximumBytes < usedBytes + 4
        · rw [if_pos tooLong, if_neg (by omega)]
        · rw [if_neg tooLong, if_pos rfl,
            inductionHypothesis rest.length
              (by simp only [List.length_cons]; omega) (by omega) rfl,
            Nat.add_assoc]
      · have bytes : utf8CharacterBytes code (some next) = unitBytes code :=
          utf8CharacterBytes_unpaired (by simpa using pair)
        have bounds := unitBytes_bounds code
        rw [utf8BytesFrom, bytes, utf8Length_unpaired pair]
        by_cases tooLong : maximumBytes < usedBytes + unitBytes code
        · rw [if_pos tooLong, if_neg (by omega)]
        · rw [if_neg tooLong, if_neg (by omega),
            inductionHypothesis (next :: rest).length (by simp) (by omega) rfl,
            Nat.add_assoc]

theorem utf8ByteLengthAtMost_le_iff
    {value : JsString}
    {maximumBytes : Nat} :
    utf8ByteLengthAtMost value maximumBytes ≤ maximumBytes ↔
      utf8Length value ≤ maximumBytes := by
  rw [utf8ByteLengthAtMost, utf8BytesFrom_eq (Nat.zero_le _), Nat.zero_add]
  split <;> omega

def truncateUtf8 (value : JsString) (maximumBytes : Nat) : JsString :=
  truncateUtf8From maximumBytes 0 value

/--
`isWellFormedUnicode`.  After the last unit the next one is not a number, which
neither comparison finds out of range.
-/
def isWellFormedUnicode : JsString → Bool
  | [] => true
  | [code] => !decide code.IsLowSurrogate
  | code :: next :: rest =>
      if code.IsHighSurrogate then
        if next.IsLowSurrogate then isWellFormedUnicode rest else false
      else if code.IsLowSurrogate then false
      else isWellFormedUnicode (next :: rest)

/-- The bytes of the JSON form of the character at a unit. -/
def jsonCharacterBytes (code : CodeUnit) (next : Option CodeUnit) : Nat :=
  if code.val = 0x22 ∨ code.val = 0x5C ∨ code.val = 0x08 ∨ code.val = 0x0C ∨
      code.val = 0x0A ∨ code.val = 0x0D ∨ code.val = 0x09 then 2
  else if code.val < 0x20 ∨
      (code.IsSurrogate ∧
        isWellFormedUnicode (code :: next.toList) = false) then 6
  else utf8CharacterBytes code next

/-- The walk of `jsonStringBytesAtMost`, after some bytes. -/
def jsonStringBytesFrom (maximumBytes usedBytes : Nat) : JsString → Nat
  | [] => usedBytes
  | [code] =>
      let used := usedBytes + jsonCharacterBytes code none
      if maximumBytes < used then maximumBytes + 1 else used
  | code :: next :: rest =>
      let bytes := jsonCharacterBytes code (some next)
      let used := usedBytes + bytes
      if maximumBytes < used then maximumBytes + 1
      else if bytes = 4 then jsonStringBytesFrom maximumBytes used rest
      else jsonStringBytesFrom maximumBytes used (next :: rest)

def jsonStringBytesAtMost (value : JsString) (maximumBytes : Nat) : Nat :=
  if maximumBytes < 2 then maximumBytes + 1
  else jsonStringBytesFrom maximumBytes 2 value

/-! ## Errors -/

inductive AgentProtocolErrorCode where
  | adapterFailure
  | budgetExceeded
  | cancelled
  | dangerousKey
  | duplicateKey
  | invalidEnvelope
  | invalidJson
  | lineTooLarge
  | serializationFailed
  | unsafeValue
  | unsupportedVersion
  deriving DecidableEq

structure AgentProtocolError where
  code : AgentProtocolErrorCode
  message : JsString
  deriving DecidableEq

def hostError (code : AgentProtocolErrorCode) (message : JsString) :
    AgentProtocolError :=
  ⟨code, truncateUtf8 message 512⟩

def invalid (message : String) : AgentProtocolError :=
  hostError .invalidEnvelope (js message)

/-! ## Identifiers and date-times -/

/-- `identifierPattern`. -/
def isIdentifier : JsString → Bool
  | [] => false
  | first :: rest =>
      (isLetter first || isDecimalDigit first) &&
        decide (rest.length ≤ 127) && rest.all isIdUnit

/-- `capabilityPattern`. -/
def isCapability : JsString → Bool
  | [] => false
  | first :: rest =>
      decide (97 ≤ first.val ∧ first.val ≤ 122) &&
        decide (rest.length ≤ 127) &&
        rest.all fun unit =>
          decide (97 ≤ unit.val ∧ unit.val ≤ 122) || isDecimalDigit unit ||
            (js ".-").contains unit

/-- `errorCodePattern`. -/
def isErrorCode : JsString → Bool
  | [] => false
  | first :: rest =>
      decide (65 ≤ first.val ∧ first.val ≤ 90) &&
        decide (rest.length ≤ 63) &&
        rest.all fun unit =>
          decide (65 ≤ unit.val ∧ unit.val ≤ 90) || isDecimalDigit unit ||
            decide (unit = 0x5F)

/-- The number that decimal digits write. -/
def digitsValue (digits : JsString) : Int :=
  digits.foldl (fun value unit => value * 10 + (unit.val - 0x30)) 0

/-- `(?:\.(\d{1,9}))?` at the start of a text, and what follows it. -/
def dropFraction : JsString → JsString
  | [] => []
  | unit :: rest =>
      let digits := rest.takeWhile isDecimalDigit
      if unit = 0x2E ∧ 1 ≤ digits.length ∧ digits.length ≤ 9 then
        rest.drop digits.length
      else
        unit :: rest

/-- The minutes of `Z` or of an offset, if they are in range. -/
def offsetMinutes (timezone : JsString) : Option Int :=
  if timezone = js "Z" then some 0
  else
    match timezone with
    | sign :: rest =>
        let hours := digitsValue (rest.take 2)
        let minutes := digitsValue (rest.drop 3)
        if (sign = 0x2B ∨ sign = 0x2D) ∧
            matchesTemplate (js "00:00") rest = true ∧
            hours ≤ 23 ∧ minutes ≤ 59 then
          some ((hours * 60 + minutes) * (if sign = 0x2B then 1 else -1))
        else
          none
    | [] => none

/-- `Date.UTC`, which reads a year below 100 as one of the last century. -/
def dateUTC (year month day hour minute second : Int) : Int :=
  let fullYear := if 0 ≤ year ∧ year ≤ 99 then 1900 + year else year
  daysFromCivil fullYear month day * msPerDay +
    ((hour * 60 + minute) * 60 + second) * 1000

/-- `isDateTime`. -/
def isDateTime (value : JsString) : Bool :=
  let year := digitsValue (value.take 4)
  let month := digitsValue ((value.drop 5).take 2)
  let day := digitsValue ((value.drop 8).take 2)
  let hour := digitsValue ((value.drop 11).take 2)
  let minute := digitsValue ((value.drop 14).take 2)
  let second := digitsValue ((value.drop 17).take 2)
  match offsetMinutes (dropFraction (value.drop 19)) with
  | none => false
  | some offset =>
      matchesTemplate secondsTemplate (value.take 19) &&
        decide (1 ≤ month ∧ month ≤ 12 ∧ 1 ≤ day ∧ hour ≤ 23 ∧
          minute ≤ 59 ∧ second ≤ 59) &&
        let instant :=
          dateUTC year month day hour minute second - offset * 60000
        let localTime := instant + offset * 60000
        let date := civilFromDays (localTime / msPerDay)
        let clock := localTime % msPerDay / 1000
        decide (date.year = year ∧ date.month = month ∧ date.day = day ∧
          clock / 3600 = hour ∧ clock / 60 % 60 = minute ∧
          clock % 60 = second)

end Selene.Agent
