import Selene.JsonParse
import Selene.UrlReference

/-!
# Addresses and their textual forms

IPv4 and IPv6 addresses, the ranges that are not public, and the texts that
denote an address: four decimal octets, or eight hexadecimal pieces of which one
run of zeros may be compressed and the last two may be written as octets.  One
IPv6 address has many texts.
-/

namespace Ip

open Js Js.Url

/-! ## Addresses -/

structure Ipv4 where
  first : Fin 256
  second : Fin 256
  third : Fin 256
  fourth : Fin 256
  deriving DecidableEq

/-- One of the 16-bit pieces of an address. -/
abbrev Piece := Fin 65536

structure Ipv6 where
  pieces : List Piece
  eight : pieces.length = 8
  deriving DecidableEq

/-- The pieces that an embedded address takes. -/
def Ipv4.pieces (address : Ipv4) : List Piece :=
  [Fin.ofNat 65536 (address.first * 256 + address.second),
    Fin.ofNat 65536 (address.third * 256 + address.fourth)]

/-! ## Ranges -/

namespace Ipv4

variable (address : Ipv4)

def IsUnspecified : Prop :=
  address = ⟨0, 0, 0, 0⟩

/-- 127.0.0.0/8. -/
def IsLoopback : Prop :=
  address.first = 127

/-- 10.0.0.0/8, 172.16.0.0/12 and 192.168.0.0/16. -/
def IsPrivate : Prop :=
  address.first = 10 ∨
    (address.first = 172 ∧ 16 ≤ address.second ∧ address.second ≤ 31) ∨
    (address.first = 192 ∧ address.second = 168)

/-- 100.64.0.0/10. -/
def IsShared : Prop :=
  address.first = 100 ∧ 64 ≤ address.second ∧ address.second ≤ 127

/-- 169.254.0.0/16. -/
def IsLinkLocal : Prop :=
  address.first = 169 ∧ address.second = 254

/-- 224.0.0.0/4. -/
def IsMulticast : Prop :=
  224 ≤ address.first ∧ address.first ≤ 239

/-- 192.0.2.0/24, 198.51.100.0/24 and 203.0.113.0/24. -/
def IsDocumentation : Prop :=
  (address.first = 192 ∧ address.second = 0 ∧ address.third = 2) ∨
    (address.first = 198 ∧ address.second = 51 ∧ address.third = 100) ∨
    (address.first = 203 ∧ address.second = 0 ∧ address.third = 113)

/-- Not a public address. -/
def IsReserved : Prop :=
  address.IsUnspecified ∨ address.IsLoopback ∨ address.IsPrivate ∨
    address.IsShared ∨ address.IsLinkLocal ∨ address.IsMulticast ∨
    address.IsDocumentation

end Ipv4

namespace Ipv6

variable (address : Ipv6)

/-- The first piece is in a range. -/
def StartsBetween (low high : Nat) : Prop :=
  ∃ piece ∈ address.pieces.head?, low ≤ piece.val ∧ piece.val ≤ high

def IsUnspecified : Prop :=
  address.pieces = List.replicate 8 0

/-- ::1. -/
def IsLoopback : Prop :=
  address.pieces = List.replicate 7 0 ++ [1]

/-- fe80::/10. -/
def IsLinkLocal : Prop :=
  address.StartsBetween 0xFE80 0xFEBF

/-- fc00::/7. -/
def IsUniqueLocal : Prop :=
  address.StartsBetween 0xFC00 0xFDFF

/-- ff00::/8. -/
def IsMulticast : Prop :=
  address.StartsBetween 0xFF00 0xFFFF

/-- 2001:db8::/32. -/
def IsDocumentation : Prop :=
  address.pieces.take 2 = [0x2001, 0xDB8]

/-- ::ffff:0:0/96, around an address that is not public. -/
def IsMappedReserved : Prop :=
  ∃ inner : Ipv4, inner.IsReserved ∧
    address.pieces = List.replicate 5 0 ++ 0xFFFF :: inner.pieces

/-- Not a public address. -/
def IsReserved : Prop :=
  address.IsUnspecified ∨ address.IsLoopback ∨ address.IsLinkLocal ∨
    address.IsUniqueLocal ∨ address.IsMulticast ∨ address.IsDocumentation ∨
    address.IsMappedReserved

end Ipv6

inductive Address where
  | v4 (address : Ipv4)
  | v6 (address : Ipv6)

/-- Not a public address. -/
def Address.IsReserved : Address → Prop
  | .v4 address => address.IsReserved
  | .v6 address => address.IsReserved

/-! ## Texts -/

/-- The value of decimal digits. -/
def decimalNumber (text : JsString) : Nat :=
  text.foldl (fun value unit => 10 * value + (unit.val - 0x30)) 0

/-- An octet in at most three decimal digits. -/
def octet? (text : JsString) : Option (Fin 256) :=
  if text ≠ [] ∧ text.length ≤ 3 ∧ text.all isDecimalDigit = true ∧
      decimalNumber text ≤ 255 then
    some (Fin.ofNat 256 (decimalNumber text))
  else
    none

/-- A piece in one to four hexadecimal digits. -/
def hexGroup? : JsString → Option Piece
  | [unit] => do
      let value ← hexValue unit
      some (Fin.ofNat 65536 value)
  | [first, unit] => do
      let high ← hexValue first
      let value ← hexValue unit
      some (Fin.ofNat 65536 (16 * high + value))
  | [first, second, unit] => do
      let higher ← hexValue first
      let high ← hexValue second
      let value ← hexValue unit
      some (Fin.ofNat 65536 (256 * higher + 16 * high + value))
  | [first, second, third, unit] => do
      let highest ← hexValue first
      let higher ← hexValue second
      let high ← hexValue third
      let value ← hexValue unit
      some (Fin.ofNat 65536
        (4096 * highest + 256 * higher + 16 * high + value))
  | _ => none

/-- Four octets with dots between them. -/
inductive SpellsIpv4 : JsString → Ipv4 → Prop where
  | dotted
      {first second third fourth : JsString}
      {address : Ipv4}
      (isFirst : octet? first = some address.first)
      (isSecond : octet? second = some address.second)
      (isThird : octet? third = some address.third)
      (isFourth : octet? fourth = some address.fourth) :
      SpellsIpv4
        (first ++ 0x2E :: (second ++ 0x2E :: (third ++ 0x2E :: fourth)))
        address

/-- Pieces with colons between them; the last two may be `dotted`. -/
inductive SpellsPieces : Bool → JsString → List Piece → Prop where
  | group
      {dotted : Bool}
      {text : JsString}
      {piece : Piece}
      (isGroup : hexGroup? text = some piece) :
      SpellsPieces dotted text [piece]
  | address
      {text : JsString}
      {inner : Ipv4}
      (isAddress : SpellsIpv4 text inner) :
      SpellsPieces true text inner.pieces
  | cons
      {dotted : Bool}
      {text rest : JsString}
      {piece : Piece}
      {pieces : List Piece}
      (isGroup : hexGroup? text = some piece)
      (others : SpellsPieces dotted rest pieces) :
      SpellsPieces dotted (text ++ 0x3A :: rest) (piece :: pieces)

/-- One side of compressed zeros, which may be empty. -/
inductive SpellsSide (dotted : Bool) : JsString → List Piece → Prop where
  | empty : SpellsSide dotted [] []
  | pieces
      {text : JsString}
      {pieces : List Piece}
      (spelled : SpellsPieces dotted text pieces) :
      SpellsSide dotted text pieces

/-- All eight pieces, or fewer around `::`. -/
inductive SpellsIpv6 : JsString → Ipv6 → Prop where
  | full
      {text : JsString}
      {address : Ipv6}
      (spelled : SpellsPieces true text address.pieces) :
      SpellsIpv6 text address
  | compressed
      {left right : JsString}
      {before after : List Piece}
      {zeros : Nat}
      {address : Ipv6}
      (isLeft : SpellsSide false left before)
      (isRight : SpellsSide true right after)
      (some : 1 ≤ zeros)
      (shape : address.pieces = before ++ (List.replicate zeros 0 ++ after)) :
      SpellsIpv6 (left ++ 0x3A :: 0x3A :: right) address

/-- The texts that denote an address. -/
inductive Spells : JsString → Address → Prop where
  | v4
      {text : JsString}
      {address : Ipv4}
      (spelled : SpellsIpv4 text address) :
      Spells text (.v4 address)
  | v6
      {text : JsString}
      {address : Ipv6}
      (spelled : SpellsIpv6 text address) :
      Spells text (.v6 address)

/-! ## How texts start -/

theorem SpellsIpv6.starts
    {text : JsString}
    {address : Ipv6}
    (spelled : SpellsIpv6 text address) :
    (∃ group rest piece, text = group ++ 0x3A :: rest ∧
        hexGroup? group = some piece ∧
        address.pieces.head? = some piece) ∨
      (∃ rest, text = 0x3A :: rest ∧ address.pieces.head? = some 0) := by
  have eight := address.eight
  cases spelled with
  | full pieces =>
      generalize address.pieces = all at pieces eight
      cases pieces with
      | group isGroup => cases eight
      | address isAddress => cases eight
      | @cons _ group rest piece others isGroup later =>
          exact Or.inl ⟨group, rest, piece, rfl, isGroup, rfl⟩
  | @compressed left right before after zeros _ isLeft isRight some shape =>
      obtain ⟨count, rfl⟩ : ∃ count, zeros = count + 1 :=
        ⟨zeros - 1, by omega⟩
      rw [shape]
      cases isLeft with
      | empty => exact Or.inr ⟨0x3A :: right, rfl, rfl⟩
      | pieces spelledLeft =>
          cases spelledLeft with
          | group isGroup =>
              exact Or.inl ⟨left, 0x3A :: right, _, rfl, isGroup, rfl⟩
          | @cons _ group rest piece others isGroup later =>
              refine Or.inl ⟨group, rest ++ 0x3A :: 0x3A :: right, piece, ?_,
                isGroup, rfl⟩
              rw [List.append_assoc, List.cons_append]

theorem hexValue_lt
    {unit : CodeUnit}
    {value : Nat}
    (isDigit : hexValue unit = some value) :
    value < 16 := by
  unfold hexValue at isDigit
  split at isDigit
  · cases isDigit
    omega
  · split at isDigit
    · cases isDigit
      omega
    · split at isDigit
      · cases isDigit
        omega
      · cases isDigit

theorem asciiLower_of_hexValue
    {unit : CodeUnit}
    {value : Nat}
    (isDigit : hexValue unit = some value) :
    asciiLower [unit] = [hexDigit value] := by
  unfold hexValue at isDigit
  simp only [asciiLower, List.map_cons, List.map_nil, hexDigit]
  congr 1
  split at isDigit
  · cases isDigit
    rw [if_neg (by omega), if_pos (by omega)]
    apply Fin.ext
    rw [Fin.val_ofNat]
    omega
  · split at isDigit
    · cases isDigit
      rw [if_neg (by omega), if_neg (by omega)]
      apply Fin.ext
      rw [Fin.val_ofNat]
      omega
    · split at isDigit
      · cases isDigit
        rw [if_pos (by omega), if_neg (by omega)]
        apply Fin.ext
        rw [Fin.val_ofNat, Fin.val_add]
        change (unit.val + 32) % 65536 = _
        omega
      · cases isDigit

theorem hexGroup?_eq_some
    {group : JsString}
    {piece : Piece}
    (isGroup : hexGroup? group = some piece) :
    (∃ unit value, group = [unit] ∧ hexValue unit = some value ∧
        piece.val = value) ∨
      (∃ first unit high value, group = [first, unit] ∧
        hexValue first = some high ∧ hexValue unit = some value ∧
        piece.val = 16 * high + value) ∨
      (∃ first second unit higher high value,
        group = [first, second, unit] ∧ hexValue first = some higher ∧
        hexValue second = some high ∧ hexValue unit = some value ∧
        piece.val = 256 * higher + 16 * high + value) ∨
      (∃ first second third unit highest higher high value,
        group = [first, second, third, unit] ∧
        hexValue first = some highest ∧ hexValue second = some higher ∧
        hexValue third = some high ∧ hexValue unit = some value ∧
        piece.val = 4096 * highest + 256 * higher + 16 * high + value) := by
  unfold hexGroup? at isGroup
  split at isGroup
  · rename_i unit
    obtain ⟨value, isValue, same⟩ := Option.bind_eq_some_iff.mp isGroup
    cases same
    have small := hexValue_lt isValue
    refine Or.inl ⟨unit, value, rfl, isValue, ?_⟩
    rw [Fin.val_ofNat, Nat.mod_eq_of_lt (by omega)]
  · rename_i first unit
    obtain ⟨high, isHigh, later⟩ := Option.bind_eq_some_iff.mp isGroup
    obtain ⟨value, isValue, same⟩ := Option.bind_eq_some_iff.mp later
    cases same
    have small := hexValue_lt isValue
    have small₁ := hexValue_lt isHigh
    refine Or.inr (Or.inl ⟨first, unit, high, value, rfl, isHigh, isValue, ?_⟩)
    rw [Fin.val_ofNat, Nat.mod_eq_of_lt (by omega)]
  · rename_i first second unit
    obtain ⟨higher, isHigher, later⟩ := Option.bind_eq_some_iff.mp isGroup
    obtain ⟨high, isHigh, last⟩ := Option.bind_eq_some_iff.mp later
    obtain ⟨value, isValue, same⟩ := Option.bind_eq_some_iff.mp last
    cases same
    have small := hexValue_lt isValue
    have small₁ := hexValue_lt isHigh
    have small₂ := hexValue_lt isHigher
    refine Or.inr (Or.inr (Or.inl ⟨first, second, unit, higher, high, value,
      rfl, isHigher, isHigh, isValue, ?_⟩))
    rw [Fin.val_ofNat, Nat.mod_eq_of_lt (by omega)]
  · rename_i first second third unit
    obtain ⟨highest, isHighest, rest⟩ := Option.bind_eq_some_iff.mp isGroup
    obtain ⟨higher, isHigher, later⟩ := Option.bind_eq_some_iff.mp rest
    obtain ⟨high, isHigh, last⟩ := Option.bind_eq_some_iff.mp later
    obtain ⟨value, isValue, same⟩ := Option.bind_eq_some_iff.mp last
    cases same
    have small := hexValue_lt isValue
    have small₁ := hexValue_lt isHigh
    have small₂ := hexValue_lt isHigher
    have small₃ := hexValue_lt isHighest
    refine Or.inr (Or.inr (Or.inr ⟨first, second, third, unit, highest, higher,
      high, value, rfl, isHighest, isHigher, isHigh, isValue, ?_⟩))
    rw [Fin.val_ofNat, Nat.mod_eq_of_lt (by omega)]
  · cases isGroup

end Ip
