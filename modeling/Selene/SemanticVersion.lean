import Selene.DataSnapshot
import Selene.SourceWorkspace

/-!
# Semantic versions and ranges

`satisfiesSemver` compares a version with a conjunction of comparators.  The
numbers of a version are read as doubles, and two prereleases are compared as
texts.  `validRange` is the syntax check that manifests go through; it admits
numbers with leading zeros, which no version satisfies.
-/

namespace Selene.Extension

open Js Generation

structure Semver where
  major : JsNumber
  minor : JsNumber
  patch : JsNumber
  prerelease : Option JsString

/-- `-`. -/
def hyphen : CodeUnit := 0x2D

/-- `+`. -/
def plus : CodeUnit := 0x2B

/-- `[0-9A-Za-z-]`. -/
def isTagUnit (unit : CodeUnit) : Bool :=
  isAlphanumeric unit || unit = hyphen

/-- `0|[1-9]\d*`. -/
def isVersionNumber : JsString → Bool
  | [] => false
  | [unit] => isDigit unit
  | first :: rest => isDigit first && first != 0x30 && rest.all isDigit

/-- `[0-9A-Za-z.-]+`. -/
def isBuild (text : JsString) : Bool :=
  !text.isEmpty && text.all fun unit => isTagUnit unit || unit = dot

/-- `[0-9A-Za-z-]+(?:\.[0-9A-Za-z-]+)*`. -/
def isPrerelease (text : JsString) : Bool :=
  (text.splitOn dot).all fun part => !part.isEmpty && part.all isTagUnit

/-- A text before the first unit of some kind, and from it on. -/
def splitBefore (stops : CodeUnit → Bool) (text : JsString) :
    JsString × JsString :=
  (text.takeWhile fun unit => !stops unit,
    text.dropWhile fun unit => !stops unit)

/-- `(?:\+[0-9A-Za-z.-]+)?$`. -/
def endsVersion : JsString → Bool
  | [] => true
  | first :: rest => first = plus && isBuild rest

/-- The prerelease after the numbers, if the rest of a version is valid. -/
def versionTail : JsString → Option (Option JsString)
  | [] => some none
  | first :: rest =>
      if first = hyphen then
        let parts := splitBefore (fun unit => unit = plus) rest
        if isPrerelease parts.1 && endsVersion parts.2 then
          some (some parts.1)
        else
          none
      else if endsVersion (first :: rest) then
        some none
      else
        none

section Numbers

variable (format : NumberFormat)

/-- `versionPattern`, with its groups. -/
def matchVersion (text : JsString) : Option Semver :=
  let parts := splitBefore (fun unit => unit = hyphen || unit = plus) text
  match parts.1.splitOn dot with
  | [major, minor, patch] =>
      if isVersionNumber major && isVersionNumber minor &&
          isVersionNumber patch then
        (versionTail parts.2).map fun prerelease =>
          { major := format.read major
            minor := format.read minor
            patch := format.read patch
            prerelease := prerelease }
      else
        none
  | _ => none

/-- `boundedText`. -/
def boundedText (value : JsValue) : Option JsString :=
  match value with
  | .string text =>
      if text.length ≤ maxSnapshotStringLength then some text else none
  | _ => none

def parseVersion (value : JsValue) : Option Semver :=
  (boundedText value).bind (matchVersion format)

/-- The sign of the first number that differs. -/
def compareNumbers : List (JsNumber × JsNumber) → Ordering
  | [] => .eq
  | (left, right) :: rest =>
      if left.same right then compareNumbers rest
      else if left.below right then .lt
      else .gt

/-- `compareText`. -/
def compareText (left right : JsString) : Ordering :=
  if left < right then .lt else if right < left then .gt else .eq

def comparePrereleases : Option JsString → Option JsString → Ordering
  | none, none => .eq
  | none, some _ => .gt
  | some _, none => .lt
  | some left, some right => compareText left right

def compareVersion (left right : Semver) : Ordering :=
  (compareNumbers
    [(left.major, right.major), (left.minor, right.minor),
      (left.patch, right.patch)]).then
    (comparePrereleases left.prerelease right.prerelease)

inductive RangeOperator where
  | caret
  | tilde
  | atLeast
  | atMost
  | above
  | below
  | exact
  deriving DecidableEq

/-- The operators in the order in which the pattern tries them. -/
def rangeOperators : List (JsString × RangeOperator) :=
  [(js "^", .caret), (js "~", .tilde), (js ">=", .atLeast),
    (js "<=", .atMost), (js ">", .above), (js "<", .below),
    (js "=", .exact)]

/-- The operator of a comparator and what follows it. -/
def splitOperator (token : JsString) : RangeOperator × JsString :=
  match rangeOperators.find? fun entry => entry.1.isPrefixOf token with
  | some (text, operator) => (operator, token.drop text.length)
  | none => (.exact, token)

/-- Whether a version with this relation to a comparator satisfies it. -/
def satisfiesOperator (operator : RangeOperator) (relation : Ordering)
    (parsed wanted : Semver) : Bool :=
  match operator with
  | .caret =>
      if relation = .lt || !parsed.major.same wanted.major then false
      else if (JsNumber.ofNat 0).below wanted.major then true
      else if !parsed.minor.same wanted.minor then false
      else (JsNumber.ofNat 0).below wanted.minor ||
        parsed.patch.same wanted.patch
  | .tilde =>
      relation != .lt && parsed.major.same wanted.major &&
        parsed.minor.same wanted.minor
  | .atLeast => relation != .lt
  | .atMost => relation != .gt
  | .above => relation = .gt
  | .below => relation = .lt
  | .exact => relation = .eq

/-- One comparator of a range. -/
def satisfiesToken (parsed : Semver) (token : JsString) : Bool :=
  let comparator := splitOperator token
  match parseVersion format (.string comparator.2) with
  | none => false
  | some wanted =>
      satisfiesOperator comparator.1 (compareVersion parsed wanted) parsed
        wanted

/-- `text.split(/\s+/)` of a trimmed text. -/
def rangeTokens (text : JsString) : List JsString :=
  (text.splitOnP isWhiteSpace).filter fun token => !token.isEmpty

/-- The trimmed text of a range, if there is one. -/
def rangeText (range : JsValue) : Option JsString :=
  (boundedText range).bind fun text =>
    if (trim text).isEmpty then none else some (trim text)

/-- Exact, `^`, `~`, and conjunctions of `<`, `<=`, `>`, `>=` comparators. -/
def satisfiesSemver (version range : JsValue) : Bool :=
  match parseVersion format version, rangeText range with
  | some parsed, some text =>
      (rangeTokens text).all (satisfiesToken format parsed)
  | _, _ => false

end Numbers

/-- `\d+`. -/
def isDigits (text : JsString) : Bool :=
  !text.isEmpty && text.all isDigit

/-- `rangeTokenPattern`. -/
def isRangeToken (token : JsString) : Bool :=
  let parts := splitBefore (fun unit => unit = hyphen) (splitOperator token).2
  match parts.1.splitOn dot with
  | [major, minor, patch] =>
      isDigits major && isDigits minor && isDigits patch &&
        (match parts.2 with
          | [] => true
          | _ :: tag => isBuild tag)
  | _ => false

def validRange (range : JsValue) : Bool :=
  match rangeText range with
  | some text => (rangeTokens text).all isRangeToken
  | none => false

end Selene.Extension
