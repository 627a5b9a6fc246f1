import Selene.IpAddress
import Selene.JsValue
import Selene.ReturnTarget

/-!
# The address screen of OIDC requests

`assertPublicOidcAddress` refuses an address by the start of its text.  For the
ranges that a first piece of four digits decides, every text of an address
starts alike.  The other IPv6 ranges have texts that the screen does not know.
-/

namespace Selene.Identity

open Js Js.Url Ip

/--
The conversions of the language that the screen uses, as far as addresses need
them: lower case of ASCII text and the number of a text of decimal digits.
-/
structure Conversions where
  toLowerCase : JsString → JsString
  toNumber : JsString → JsNumber
  lower_ascii : ∀ text : JsString, (∀ unit ∈ text, unit.val ≤ 0x7F) →
    toLowerCase text = asciiLower text
  number_decimal : ∀ text : JsString, text ≠ [] →
    text.all isDecimalDigit = true →
    toNumber text = .ofNat (decimalNumber text)

/-! ## The screen -/

/-- The texts of which one has to begin an IPv6 address that is refused. -/
def refusedStarts : List JsString :=
  [js "::ffff:", js "fc", js "fd", js "fe8", js "fe9", js "fea", js "feb",
    js "ff", js "2001:db8"]

/-- `Number.isInteger(octet)`, between 0 and 255. -/
def octetOf (number : JsNumber) : Option Nat :=
  match number.safeInteger? with
  | some value =>
      if 0 ≤ value ∧ value ≤ 255 then some value.toNat else none
  | none => none

/-- The ranges of dotted addresses that are refused. -/
def isRefusedOctets (first second third : Nat) : Bool :=
  decide (first = 0 ∨ first = 10 ∨
    (first = 100 ∧ 64 ≤ second ∧ second ≤ 127) ∨
    first = 127 ∨
    (first = 169 ∧ second = 254) ∨
    (first = 172 ∧ 16 ≤ second ∧ second ≤ 31) ∨
    (first = 192 ∧ (second = 0 ∨ second = 168 ∨ second = 2)) ∨
    (first = 198 ∧ (second = 18 ∨ second = 19 ∨ second = 51)) ∨
    (first = 203 ∧ second = 0 ∧ third = 113) ∨
    224 ≤ first)

section

variable (conversions : Conversions)

def isPrivateAddress (address : JsString) : Bool :=
  let normalized := conversions.toLowerCase address
  if 0x3A ∈ normalized then
    decide (normalized = js "::" ∨ normalized = js "::1" ∨
      ∃ start ∈ refusedStarts, start <+: normalized)
  else
    match (normalized.splitOn 0x2E).map fun octet =>
        octetOf (conversions.toNumber octet) with
    | [some first, some second, some third, some _] =>
        isRefusedOctets first second third
    | _ => true

def assertPublicOidcAddress (address : JsString) :
    Except HostedIdentityError Unit :=
  check (isPrivateAddress conversions address = false)
    ⟨some .invalidProviderConfig, js "OIDC provider DNS target is not public"⟩

/-! ## Requests -/

/-- `MAX_SCOPES`. -/
def maxScopes : Nat := 32

/-- `boundedString`. -/
def boundedString (value : JsValue) (least most : Nat) : Option JsString :=
  match value with
  | .string text =>
      if least ≤ text.length ∧ text.length ≤ most ∧
          containsAsciiControl text = false then some text
      else none
  | _ => none

/-- `boundedStringList`: whatever fails, the message is the one of the list. -/
def boundedStringList
    (value : JsValue)
    (label : String)
    (least most itemMost : Nat) :
    Except HostedIdentityError (List JsString) :=
  let invalid : HostedIdentityError :=
    ⟨some .invalidProviderConfig, js label ++ js " is invalid"⟩
  match value with
  | .array items => do
      check (least ≤ items.length ∧ items.length ≤ most) invalid
      match items.mapM fun item => boundedString item 1 itemMost with
      | some output => do
          check output.Nodup invalid
          pure output
      | none => .error invalid
  | _ => .error invalid

def validatedResolvedAddresses (value : JsValue) :
    Except HostedIdentityError (List JsString) := do
  let addresses ← boundedStringList value "OIDC provider DNS answers" 1
    maxScopes 253
  addresses.forM (assertPublicOidcAddress conversions)
  pure addresses

/-- `/^\d{1,3}(\.\d{1,3}){3}$/`. -/
def isDottedDigits (host : JsString) : Bool :=
  let parts := host.splitOn 0x2E
  decide (parts.length = 4) && parts.all fun part =>
    decide (1 ≤ part.length ∧ part.length ≤ 3) && part.all isDecimalDigit

def isLocalOrIpHostname (hostname : JsString) : Bool :=
  let normalized := conversions.toLowerCase hostname
  decide (normalized = js "localhost" ∨ js ".localhost" <:+ normalized ∨
    js ".local" <:+ normalized) ||
    isDottedDigits normalized || decide (0x3A ∈ normalized)

/-- The parts of a request URL that the fetch looks at. -/
structure FetchTarget where
  protocol : JsString
  port : JsString
  hostname : JsString

/--
The fetch that `createOidcSsrfSafeFetch` makes for validated hosts: the
addresses that the transport is handed.  The target is what the URL parser makes
of the input, the answer is what the resolver returns.
-/
def ssrfSafeFetch
    (allowed : List JsString)
    (target : Option FetchTarget)
    (answer : Option JsValue) :
    Except HostedIdentityError (List JsString) :=
  match target with
  | none => .error ⟨some .invalidRuntime, js "OIDC provider request failed"⟩
  | some target => do
      check (target.protocol = js "https:" ∧ target.port = [] ∧
          conversions.toLowerCase target.hostname ∈ allowed ∧
          isLocalOrIpHostname conversions target.hostname = false)
        ⟨some .invalidProviderConfig,
          js "OIDC HTTP target violates issuer allowlist policy"⟩
      match answer with
      | none =>
          .error ⟨some .invalidRuntime, js "OIDC provider DNS lookup failed"⟩
      | some rawAddresses =>
          validatedResolvedAddresses conversions rawAddresses

end

/-! ## Addresses that the start of every text decides -/

/-- The ranges of IPv6 that the screen knows by whole texts only. -/
def KnownByText (address : Ipv6) : Prop :=
  address.IsUnspecified ∨ address.IsLoopback ∨ address.IsDocumentation ∨
    address.IsMappedReserved

/-- The spellings of these ranges that the screen refuses. -/
def IsKnownText (text : JsString) : Prop :=
  asciiLower text = js "::" ∨ asciiLower text = js "::1" ∨
    js "::ffff:" <+: asciiLower text ∨ js "2001:db8" <+: asciiLower text

/-- What has to hold of an address and its text for the screen to be right. -/
def IsScreened (text : JsString) : Address → Prop
  | .v4 _ => True
  | .v6 address => KnownByText address → IsKnownText text

section

variable {conversions : Conversions}

theorem asciiLower_append (first second : JsString) :
    asciiLower (first ++ second) = asciiLower first ++ asciiLower second :=
  List.map_append

variable {group : JsString} {piece : Piece}

theorem ascii_of_hexGroup
    (isGroup : hexGroup? group = some piece) :
    ∀ unit ∈ group, unit.val ≤ 0x7F := by
  have digit : ∀ {unit : CodeUnit} {value : Nat},
      hexValue unit = some value → unit.val ≤ 0x7F := by
    intro unit value isDigit
    unfold hexValue at isDigit
    repeat' split at isDigit
    all_goals first | omega | cases isDigit
  rcases hexGroup?_eq_some isGroup with
    ⟨_, _, rfl, isValue, _⟩ | ⟨_, _, _, _, rfl, isHigh, isValue, _⟩ |
      ⟨_, _, _, _, _, _, rfl, isHigher, isHigh, isValue, _⟩ |
      ⟨_, _, _, _, _, _, _, _, rfl, isHighest, isHigher, isHigh, isValue, _⟩
  · simpa using digit isValue
  · simpa using ⟨digit isHigh, digit isValue⟩
  · simpa using ⟨digit isHigher, digit isHigh, digit isValue⟩
  · simpa using ⟨digit isHighest, digit isHigher, digit isHigh, digit isValue⟩

variable {text : JsString} {octet : Fin 256}

theorem octet?_eq_some
    (isOctet : octet? text = some octet) :
    text ≠ [] ∧ text.all isDecimalDigit = true ∧
      decimalNumber text = octet.val := by
  unfold octet? at isOctet
  split at isOctet
  · rename_i fits
    cases isOctet
    refine ⟨fits.1, fits.2.2.1, ?_⟩
    rw [Fin.val_ofNat, Nat.mod_eq_of_lt (by omega)]
  · cases isOctet

theorem bounds_of_digits
    (digits : text.all isDecimalDigit = true) :
    ∀ unit ∈ text, 0x30 ≤ unit.val ∧ unit.val ≤ 0x39 :=
  fun unit member => of_decide_eq_true (List.all_eq_true.mp digits unit member)

theorem mem_spellsIpv4
    {address : Ipv4}
    (spelled : SpellsIpv4 text address) :
    ∀ unit ∈ text, (0x30 ≤ unit.val ∧ unit.val ≤ 0x39) ∨ unit = 0x2E := by
  obtain ⟨isFirst, isSecond, isThird, isFourth⟩ := spelled
  have first := bounds_of_digits (octet?_eq_some isFirst).2.1
  have second := bounds_of_digits (octet?_eq_some isSecond).2.1
  have third := bounds_of_digits (octet?_eq_some isThird).2.1
  have fourth := bounds_of_digits (octet?_eq_some isFourth).2.1
  intro unit member
  simp only [List.mem_append, List.mem_cons] at member
  rcases member with inside | rfl | inside | rfl | inside | rfl | inside
  · exact Or.inl (first unit inside)
  · exact Or.inr rfl
  · exact Or.inl (second unit inside)
  · exact Or.inr rfl
  · exact Or.inl (third unit inside)
  · exact Or.inr rfl
  · exact Or.inl (fourth unit inside)

theorem ascii_of_spellsPieces
    {dotted : Bool}
    {pieces : List Piece}
    (spelled : SpellsPieces dotted text pieces) :
    ∀ unit ∈ text, unit.val ≤ 0x7F := by
  induction spelled with
  | group isGroup => exact ascii_of_hexGroup isGroup
  | address isAddress =>
      intro unit member
      rcases mem_spellsIpv4 isAddress unit member with digit | rfl
      · omega
      · decide
  | cons isGroup others inductionHypothesis =>
      intro unit member
      rcases List.mem_append.mp member with inGroup | later
      · exact ascii_of_hexGroup isGroup unit inGroup
      · rcases List.mem_cons.mp later with rfl | inRest
        · decide
        · exact inductionHypothesis unit inRest

theorem ascii_of_spellsSide
    {dotted : Bool}
    {pieces : List Piece}
    (spelled : SpellsSide dotted text pieces) :
    ∀ unit ∈ text, unit.val ≤ 0x7F := by
  cases spelled with
  | empty => simp
  | pieces spelled => exact ascii_of_spellsPieces spelled

variable {address : Ipv6}

theorem ascii_of_spellsIpv6
    (spelled : SpellsIpv6 text address) :
    ∀ unit ∈ text, unit.val ≤ 0x7F := by
  cases spelled with
  | full pieces => exact ascii_of_spellsPieces pieces
  | compressed isLeft isRight some shape =>
      intro unit member
      simp only [List.mem_append, List.mem_cons] at member
      rcases member with inLeft | rfl | rfl | inRight
      · exact ascii_of_spellsSide isLeft unit inLeft
      · decide
      · decide
      · exact ascii_of_spellsSide isRight unit inRight

theorem isPrivateAddress_iff
    (spelled : SpellsIpv6 text address) :
    isPrivateAddress conversions text = true ↔
      asciiLower text = js "::" ∨ asciiLower text = js "::1" ∨
        ∃ start ∈ refusedStarts, start <+: asciiLower text := by
  have colon : (0x3A : CodeUnit) ∈ asciiLower text := by
    have inText : (0x3A : CodeUnit) ∈ text := by
      rcases spelled.starts with
        ⟨group, rest, _, rfl, _, _⟩ | ⟨rest, rfl, _⟩
      · simp
      · simp
    have lowered := List.mem_map_of_mem (f := fun unit : CodeUnit =>
      if 0x41 ≤ unit.val ∧ unit.val ≤ 0x5A then unit + 0x20 else unit) inText
    exact lowered
  rw [isPrivateAddress, conversions.lower_ascii text
    (ascii_of_spellsIpv6 spelled)]
  simp only [if_pos colon, decide_eq_true_eq]

theorem four_digits
    (isGroup : hexGroup? group = some piece)
    (large : 0x1000 ≤ piece.val) :
    ∃ highest higher high value,
      asciiLower group = [hexDigit highest, hexDigit higher, hexDigit high,
        hexDigit value] ∧
      highest < 16 ∧ higher < 16 ∧ high < 16 ∧ value < 16 ∧
      piece.val = 4096 * highest + 256 * higher + 16 * high + value := by
  rcases hexGroup?_eq_some isGroup with
    ⟨_, _, rfl, isValue, sum⟩ | ⟨_, _, _, _, rfl, isHigh, isValue, sum⟩ |
      ⟨_, _, _, _, _, _, rfl, isHigher, isHigh, isValue, sum⟩ |
      ⟨first, second, third, unit, highest, higher, high, value, rfl,
        isHighest, isHigher, isHigh, isValue, sum⟩
  · have bound := hexValue_lt isValue
    omega
  · have bound := hexValue_lt isValue
    have bound₁ := hexValue_lt isHigh
    omega
  · have bound := hexValue_lt isValue
    have bound₁ := hexValue_lt isHigh
    have bound₂ := hexValue_lt isHigher
    omega
  · refine ⟨highest, higher, high, value, ?_, hexValue_lt isHighest,
      hexValue_lt isHigher, hexValue_lt isHigh, hexValue_lt isValue, sum⟩
    have split : asciiLower [first, second, third, unit] =
        asciiLower [first] ++ (asciiLower [second] ++
          (asciiLower [third] ++ asciiLower [unit])) := rfl
    rw [split, asciiLower_of_hexValue isHighest,
      asciiLower_of_hexValue isHigher, asciiLower_of_hexValue isHigh,
      asciiLower_of_hexValue isValue]
    rfl

theorem refused_of_firstPiece
    (spelled : SpellsIpv6 text address)
    (ranged : address.IsLinkLocal ∨ address.IsUniqueLocal ∨
      address.IsMulticast) :
    ∃ start ∈ refusedStarts, start <+: asciiLower text := by
  have digits : ∃ first ∈ address.pieces.head?,
      (0xFE80 ≤ first.val ∧ first.val ≤ 0xFEBF) ∨
        (0xFC00 ≤ first.val ∧ first.val ≤ 0xFDFF) ∨
        (0xFF00 ≤ first.val ∧ first.val ≤ 0xFFFF) := by
    rcases ranged with ⟨first, isFirst, range⟩ | ⟨first, isFirst, range⟩ |
      ⟨first, isFirst, range⟩
    · exact ⟨first, isFirst, Or.inl range⟩
    · exact ⟨first, isFirst, Or.inr (Or.inl range)⟩
    · exact ⟨first, isFirst, Or.inr (Or.inr range)⟩
  obtain ⟨first, isFirst, range⟩ := digits
  rcases spelled.starts with
    ⟨group, rest, piece, rfl, isGroup, head⟩ | ⟨rest, _, head⟩
  · rw [head] at isFirst
    cases isFirst
    obtain ⟨highest, higher, high, value, lowered, bound₃, bound₂, bound₁,
      bound₀, sum⟩ := four_digits isGroup (by omega)
    rw [asciiLower_append, lowered]
    have isF : highest = 15 := by omega
    subst isF
    have second : higher = 12 ∨ higher = 13 ∨ higher = 15 ∨
        (higher = 14 ∧ (high = 8 ∨ high = 9 ∨ high = 10 ∨ high = 11)) := by
      omega
    rcases second with rfl | rfl | rfl | ⟨rfl, rfl | rfl | rfl | rfl⟩
    · exact ⟨js "fc", by decide +kernel, _, rfl⟩
    · exact ⟨js "fd", by decide +kernel, _, rfl⟩
    · exact ⟨js "ff", by decide +kernel, _, rfl⟩
    · exact ⟨js "fe8", by decide +kernel, _, rfl⟩
    · exact ⟨js "fe9", by decide +kernel, _, rfl⟩
    · exact ⟨js "fea", by decide +kernel, _, rfl⟩
    · exact ⟨js "feb", by decide +kernel, _, rfl⟩
  · rw [head] at isFirst
    cases isFirst
    have zero : (0 : Piece).val = 0 := rfl
    omega

theorem head_of_knownByText
    (known : KnownByText address) :
    address.pieces.head? = some 0 ∨ address.pieces.head? = some 0x2001 := by
  rcases known with unspecified | loopback | documentation | ⟨inner, _, mapped⟩
  · rw [Ipv6.IsUnspecified] at unspecified
    rw [unspecified]
    exact Or.inl rfl
  · rw [Ipv6.IsLoopback] at loopback
    rw [loopback]
    exact Or.inl rfl
  · rw [Ipv6.IsDocumentation] at documentation
    cases shape : address.pieces with
    | nil =>
        rw [shape] at documentation
        cases documentation
    | cons first rest =>
        rw [shape, List.take_succ_cons] at documentation
        exact Or.inr (congrArg some (List.cons.inj documentation).1)
  · rw [mapped]
    exact Or.inl rfl

theorem not_f_of_small
    {rest : JsString}
    (isGroup : hexGroup? group = some piece)
    (small : piece.val = 0 ∨ piece.val = 0x2001) :
    (asciiLower (group ++ rest)).head? ≠ some 0x66 := by
  have digit : ∀ value : Fin 16, hexDigit value = 0x66 → value = 15 := by
    decide +kernel
  have first : ∀ {unit : CodeUnit} {value : Nat} {more : JsString},
      hexValue unit = some value →
        (asciiLower (unit :: more)).head? = some 0x66 → value = 15 := by
    intro unit value more isValue starts
    have lowered := asciiLower_of_hexValue isValue
    have split : asciiLower (unit :: more) =
        asciiLower [unit] ++ asciiLower more := rfl
    rw [split, lowered] at starts
    have found := digit ⟨value, hexValue_lt isValue⟩ (Option.some.inj starts)
    exact congrArg Fin.val found
  intro starts
  rcases hexGroup?_eq_some isGroup with
    ⟨_, _, rfl, isValue, sum⟩ | ⟨_, _, _, _, rfl, isHigh, isValue, sum⟩ |
      ⟨_, _, _, _, _, _, rfl, isHigher, isHigh, isValue, sum⟩ |
      ⟨_, _, _, _, _, _, _, _, rfl, isHighest, isHigher, isHigh, isValue, sum⟩
  · have top := first isValue starts
    omega
  · have top := first isHigh starts
    have bound := hexValue_lt isValue
    omega
  · have top := first isHigher starts
    have bound := hexValue_lt isValue
    have bound₁ := hexValue_lt isHigh
    omega
  · have top := first isHighest starts
    omega

theorem knownText_of_refused
    (spelled : SpellsIpv6 text address)
    (known : KnownByText address)
    (refused : asciiLower text = js "::" ∨ asciiLower text = js "::1" ∨
      ∃ start ∈ refusedStarts, start <+: asciiLower text) :
    IsKnownText text := by
  have notF : (asciiLower text).head? ≠ some 0x66 := by
    have head := head_of_knownByText known
    rcases spelled.starts with
      ⟨group, rest, piece, rfl, isGroup, isPiece⟩ | ⟨rest, rfl, _⟩
    · refine not_f_of_small isGroup ?_
      rw [isPiece] at head
      rcases head with same | same
      · exact Or.inl (congrArg Fin.val (Option.some.inj same))
      · exact Or.inr (congrArg Fin.val (Option.some.inj same))
    · intro same
      cases same
  rcases refused with whole | whole | ⟨start, isStart, isPrefix⟩
  · exact Or.inl whole
  · exact Or.inr (Or.inl whole)
  · have starts : start = js "::ffff:" ∨ start = js "2001:db8" ∨
        start.head? = some 0x66 := by
      have every : ∀ start ∈ refusedStarts, start = js "::ffff:" ∨
          start = js "2001:db8" ∨ start.head? = some 0x66 := by
        decide +kernel
      exact every start isStart
    rcases starts with rfl | rfl | isF
    · exact Or.inr (Or.inr (Or.inl isPrefix))
    · exact Or.inr (Or.inr (Or.inr isPrefix))
    · refine absurd ?_ notF
      obtain ⟨more, whole⟩ := isPrefix
      rw [← whole]
      cases start with
      | nil => cases isF
      | cons unit rest => exact isF

theorem refused_of_knownText
    (known : IsKnownText text) :
    asciiLower text = js "::" ∨ asciiLower text = js "::1" ∨
      ∃ start ∈ refusedStarts, start <+: asciiLower text := by
  rcases known with whole | whole | isPrefix | isPrefix
  · exact Or.inl whole
  · exact Or.inr (Or.inl whole)
  · exact Or.inr (Or.inr ⟨_, by decide +kernel, isPrefix⟩)
  · exact Or.inr (Or.inr ⟨_, by decide +kernel, isPrefix⟩)

/-! ## Dotted addresses -/

theorem asciiLower_of_spellsIpv4
    {address : Ipv4}
    (spelled : SpellsIpv4 text address) :
    asciiLower text = text := by
  refine (List.map_congr_left fun unit member => ?_).trans (List.map_id _)
  rw [if_neg]
  · rfl
  · rintro ⟨low, high⟩
    rcases mem_spellsIpv4 spelled unit member with digit | rfl
    · omega
    · revert low
      decide

theorem octetOf_decimal
    (isOctet : octet? text = some octet) :
    octetOf (conversions.toNumber text) = some octet.val := by
  obtain ⟨some, digits, value⟩ := octet?_eq_some isOctet
  have bound := octet.isLt
  rw [conversions.number_decimal text some digits, value, octetOf,
    JsNumber.safeInteger?_ofNat (by unfold JsNumber.maxSafeInteger; omega)]
  simp only [Int.toNat_natCast]
  rw [if_pos (by omega)]

theorem not_mem_dot
    (isOctet : octet? text = some octet) :
    (0x2E : CodeUnit) ∉ text := by
  intro member
  have bounds := bounds_of_digits (octet?_eq_some isOctet).2.1 _ member
  revert bounds
  decide

theorem isPrivateAddress_dotted
    {address : Ipv4}
    (spelled : SpellsIpv4 text address) :
    isPrivateAddress conversions text =
      isRefusedOctets address.first.val address.second.val
        address.third.val := by
  have ascii : ∀ unit ∈ text, unit.val ≤ 0x7F := by
    intro unit member
    rcases mem_spellsIpv4 spelled unit member with digit | rfl
    · omega
    · decide
  have noColon : (0x3A : CodeUnit) ∉ text := by
    intro member
    rcases mem_spellsIpv4 spelled _ member with digit | same
    · revert digit
      decide
    · cases same
  have lowered : conversions.toLowerCase text = text := by
    rw [conversions.lower_ascii text ascii, asciiLower_of_spellsIpv4 spelled]
  rw [isPrivateAddress, lowered]
  simp only [if_neg noColon]
  obtain ⟨isFirst, isSecond, isThird, isFourth⟩ := spelled
  rw [List.splitOn_append_cons_self_of_not_mem (not_mem_dot isFirst),
    List.splitOn_append_cons_self_of_not_mem (not_mem_dot isSecond),
    List.splitOn_append_cons_self_of_not_mem (not_mem_dot isThird),
    List.splitOn_eq_singleton (not_mem_dot isFourth)]
  simp only [List.map_cons, List.map_nil, octetOf_decimal isFirst,
    octetOf_decimal isSecond, octetOf_decimal isThird,
    octetOf_decimal isFourth]

theorem isRefusedOctets_of_reserved
    {address : Ipv4}
    (reserved : address.IsReserved) :
    isRefusedOctets address.first.val address.second.val address.third.val =
      true := by
  rw [isRefusedOctets, decide_eq_true_eq]
  rcases reserved with unspecified | loopback | (ten | ⟨first, low, high⟩ |
    ⟨first, second⟩) | ⟨first, low, high⟩ | ⟨first, second⟩ | ⟨low, high⟩ |
    (⟨first, second, third⟩ | ⟨first, second, third⟩ | ⟨first, second, third⟩)
  · rw [Ipv4.IsUnspecified] at unspecified
    rw [unspecified]
    exact Or.inl rfl
  · rw [Ipv4.IsLoopback] at loopback
    simp [loopback]
  · simp [ten]
  · have range : 16 ≤ address.second.val ∧ address.second.val ≤ 31 :=
      ⟨low, high⟩
    simp [first, range]
  · simp [first, second]
  · have range : 64 ≤ address.second.val ∧ address.second.val ≤ 127 :=
      ⟨low, high⟩
    simp [first, range]
  · simp [first, second]
  · have range : 224 ≤ address.first.val := low
    simp [range]
  · simp [first, second]
  · simp [first, second]
  · simp [first, second, third]

/-! ## What the screen is right about -/

theorem assertPublicOidcAddress_eq_ok
    {passed : Unit} :
    assertPublicOidcAddress conversions text = .ok passed ↔
      isPrivateAddress conversions text = false :=
  check_eq_ok

/-- When an accepted text denotes no reserved address. -/
theorem notReserved_iff_screened
    {address : Address}
    (spelled : Spells text address) :
    (assertPublicOidcAddress conversions text = .ok () →
        ¬address.IsReserved) ↔
      IsScreened text address := by
  rw [assertPublicOidcAddress_eq_ok]
  cases spelled with
  | v4 dotted =>
      refine ⟨fun _ => trivial, fun _ accepted reserved => ?_⟩
      rw [isPrivateAddress_dotted dotted,
        isRefusedOctets_of_reserved reserved] at accepted
      cases accepted
  | @v6 address pieces =>
      have refuses := @isPrivateAddress_iff conversions _ _ pieces
      constructor
      · intro right known
        have reserved : address.IsReserved := by
          rcases known with zero | one | documentation | mapped
          · exact Or.inl zero
          · exact Or.inr (Or.inl one)
          · exact Or.inr (Or.inr (Or.inr (Or.inr (Or.inr
              (Or.inl documentation)))))
          · exact Or.inr (Or.inr (Or.inr (Or.inr (Or.inr (Or.inr mapped)))))
        refine knownText_of_refused pieces known (refuses.mp ?_)
        by_contra accepted
        exact right (Bool.eq_false_iff.mpr accepted) reserved
      · intro screened accepted reserved
        have refused : isPrivateAddress conversions text = true := by
          refine refuses.mpr ?_
          rcases reserved with zero | one | linkLocal | unique | multicast |
            documentation | mapped
          · exact refused_of_knownText (screened (Or.inl zero))
          · exact refused_of_knownText (screened (Or.inr (Or.inl one)))
          · exact Or.inr (Or.inr (refused_of_firstPiece pieces (Or.inl linkLocal)))
          · exact Or.inr (Or.inr (refused_of_firstPiece pieces
              (Or.inr (Or.inl unique))))
          · exact Or.inr (Or.inr (refused_of_firstPiece pieces
              (Or.inr (Or.inr multicast))))
          · exact refused_of_knownText
              (screened (Or.inr (Or.inr (Or.inl documentation))))
          · exact refused_of_knownText
              (screened (Or.inr (Or.inr (Or.inr mapped))))
        rw [accepted] at refused
        cases refused

theorem accepted_of_ssrfSafeFetch
    {allowed addresses : List JsString}
    {target : Option FetchTarget}
    {answer : Option JsValue}
    (handed : ssrfSafeFetch conversions allowed target answer =
      .ok addresses) :
    ∀ text ∈ addresses, assertPublicOidcAddress conversions text = .ok () := by
  cases target with
  | none => cases handed
  | some target =>
      obtain ⟨_, resolved⟩ := check_bind_eq_ok.mp handed
      cases answer with
      | none => cases resolved
      | some rawAddresses =>
          simp only [validatedResolvedAddresses, bind_eq_ok] at resolved
          obtain ⟨listed, _, passed, checked, same⟩ := resolved
          cases same
          exact forM_eq_ok.mp checked

/--
The screen and the fetch keep reserved addresses out exactly where the address
is not one that is known by its text, or has one of the known texts.
-/
theorem publicAddresses_iff (conversions : Conversions) :
    (∀ text address, Spells text address →
      ((assertPublicOidcAddress conversions text = .ok () →
          ¬address.IsReserved) ↔
        IsScreened text address)) ∧
      ∀ allowed target answer addresses,
        ssrfSafeFetch conversions allowed target answer = .ok addresses →
          ((∀ text ∈ addresses, ∀ address, Spells text address →
              ¬address.IsReserved) ↔
            ∀ text ∈ addresses, ∀ address, Spells text address →
              IsScreened text address) := by
  refine ⟨fun text address => notReserved_iff_screened, ?_⟩
  intro allowed target answer addresses handed
  have accepted := accepted_of_ssrfSafeFetch handed
  constructor
  · intro clean text member address spelled
    exact (@notReserved_iff_screened conversions _ _ spelled).mp fun _ =>
      clean text member address spelled
  · intro screened text member address spelled
    exact (notReserved_iff_screened spelled).mpr
      (screened text member address spelled) (accepted text member)

end

/-- Conversions of ASCII text and of decimal digits. -/
def asciiConversions : Conversions where
  toLowerCase := asciiLower
  toNumber text :=
    if text ≠ [] ∧ text.all isDecimalDigit = true then
      .ofNat (decimalNumber text)
    else .nan
  lower_ascii _ _ := rfl
  number_decimal _ some digits := if_pos ⟨some, digits⟩

/-- 2606:4700::1111. -/
def publicIpv6 : Ipv6 :=
  ⟨[0x2606, 0x4700, 0, 0, 0, 0, 0, 0x1111], rfl⟩

theorem spells_publicIpv6 :
    Spells (js "2606:4700::1111") (.v6 publicIpv6) := by
  have first : hexGroup? (js "2606") = some 0x2606 := by decide +kernel
  have second : hexGroup? (js "4700") = some 0x4700 := by decide +kernel
  have last : hexGroup? (js "1111") = some 0x1111 := by decide +kernel
  exact .v6 (@SpellsIpv6.compressed (js "2606:4700") (js "1111")
    [0x2606, 0x4700] [0x1111] 5 publicIpv6
    (.pieces (.cons first (.group second))) (.pieces (.group last))
    (by decide) rfl)

theorem isScreened_publicIpv6 (text : JsString) :
    IsScreened text (.v6 publicIpv6) := by
  rintro (zero | one | documentation | ⟨inner, -, mapped⟩)
  · exact absurd (congrArg List.head? zero) (by decide)
  · exact absurd (congrArg List.head? one) (by decide)
  · exact absurd (congrArg List.head? documentation) (by decide)
  · exact absurd (congrArg List.head? mapped) (by simp [publicIpv6])

/-- Two public addresses are accepted, and are public. -/
theorem publicAddress_accepted :
    (assertPublicOidcAddress asciiConversions (js "8.8.4.4") = .ok () ∧
      ¬(Address.v4 ⟨8, 8, 4, 4⟩).IsReserved) ∧
    (assertPublicOidcAddress asciiConversions (js "2606:4700::1111") =
        .ok () ∧
      ¬(Address.v6 publicIpv6).IsReserved) := by
  have accepted : assertPublicOidcAddress asciiConversions (js "8.8.4.4") =
      .ok () := by
    decide +kernel
  have acceptedIpv6 : assertPublicOidcAddress asciiConversions
      (js "2606:4700::1111") = .ok () := by
    decide +kernel
  have spelled : Spells (js "8.8.4.4") (.v4 ⟨8, 8, 4, 4⟩) :=
    .v4 (@SpellsIpv4.dotted (js "8") (js "8") (js "4") (js "4") ⟨8, 8, 4, 4⟩
      (by decide +kernel) (by decide +kernel) (by decide +kernel)
      (by decide +kernel))
  have screens := (publicAddresses_iff asciiConversions).1
  exact ⟨⟨accepted, (screens _ _ spelled).mpr trivial accepted⟩, acceptedIpv6,
    (screens _ _ spells_publicIpv6).mpr (isScreened_publicIpv6 _)
      acceptedIpv6⟩

/-- The loopback address in full is accepted and handed to the transport. -/
theorem loopbackInFull_accepted :
    ∃ address : Address, Spells (js "0:0:0:0:0:0:0:1") address ∧
      address.IsReserved ∧
      assertPublicOidcAddress asciiConversions (js "0:0:0:0:0:0:0:1") =
        .ok () ∧
      ssrfSafeFetch asciiConversions [js "id.example"]
        (some ⟨js "https:", [], js "id.example"⟩)
        (some (.array [.string (js "0:0:0:0:0:0:0:1")])) =
          .ok [js "0:0:0:0:0:0:0:1"] := by
  have zero : hexGroup? (js "0") = some 0 := by decide +kernel
  have one : hexGroup? (js "1") = some 1 := by decide +kernel
  refine ⟨.v6 ⟨List.replicate 7 0 ++ [1], rfl⟩, .v6 (.full ?_),
    Or.inr (Or.inl rfl), by decide +kernel, by decide +kernel⟩
  exact .cons zero (.cons zero (.cons zero (.cons zero (.cons zero (.cons zero
    (.cons zero (.group one)))))))

end Selene.Identity
