import Selene.EnterpriseFields
import Selene.EnterprisePolicy
import Mathlib.Data.List.Chain

/-!
# Addresses and address ranges that are admitted

Which texts `parseIp` takes, and the number of each: the four octets of IPv4 in
decimal, and IPv6 in hexadecimal groups, of which `::` leaves out some that are
zero.  The parser also takes eight groups with a `::` among them that leaves
out none; these are all the texts that it takes in excess.

`cidrMatches` compares the leading bits of two such numbers.
-/

namespace Selene.Enterprise

open Js

/-! ## What texts denote -/

/-- The number of big-endian pieces of 16 bits. -/
def piecesNumber (pieces : List Nat) : Nat :=
  pieces.foldl (fun total piece => total * 65536 + piece) 0

/-- One to four hexadecimal digits. -/
structure IsGroup (group : JsString) : Prop where
  nonempty : group ≠ []
  short : group.length ≤ 4
  digits : ∀ unit ∈ group, isHexUnit unit = true

/-- The number of a group. -/
def groupNumber : JsString → Nat :=
  digitsValue 16 hexUnitValue

/-- Groups with colons between them. -/
def joined (groups : List JsString) : JsString :=
  [0x3A].intercalate groups

/-- Four octets in decimal, without leading zeros. -/
inductive DenotesIpv4 : JsString → Nat → Prop where
  | dotted {first second third fourth : Nat}
      (isFirst : first ≤ 255) (isSecond : second ≤ 255)
      (isThird : third ≤ 255) (isFourth : fourth ≤ 255) :
      DenotesIpv4
        ([0x2E].intercalate [decimalDigits first, decimalDigits second,
          decimalDigits third, decimalDigits fourth])
        (((first * 256 + second) * 256 + third) * 256 + fourth)

/-- Eight groups, or fewer around a `::` that stands for the others. -/
inductive DenotesIpv6 : JsString → Nat → Prop where
  | full {groups : List JsString}
      (each : ∀ group ∈ groups, IsGroup group)
      (count : groups.length = 8) :
      DenotesIpv6 (joined groups) (piecesNumber (groups.map groupNumber))
  | compressed {left right : List JsString}
      (each : ∀ group ∈ left ++ right, IsGroup group)
      (fewer : left.length + right.length < 8) :
      DenotesIpv6 (joined left ++ 0x3A :: 0x3A :: joined right)
        (piecesNumber (left.map groupNumber ++
          List.replicate (8 - (left.length + right.length)) 0 ++
          right.map groupNumber))

/-- The address that a text denotes, with its width. -/
inductive Denotes : JsString → ParsedIp → Prop where
  | v4 {text : JsString} {number : Nat} (denotes : DenotesIpv4 text number) :
      Denotes text ⟨32, number⟩
  | v6 {text : JsString} {number : Nat} (denotes : DenotesIpv6 text number) :
      Denotes text ⟨128, number⟩

/-- Eight groups with a `::` among them, which stands for no group. -/
structure Overfull (text : JsString) (left right : List JsString) : Prop where
  each : ∀ group ∈ left ++ right, IsGroup group
  count : left.length + right.length = 8
  shape : text = joined left ++ 0x3A :: 0x3A :: joined right

/-! ## Splitting at `::` -/

/-- Not both units are colons. -/
def Apart (first second : CodeUnit) : Prop :=
  ¬ (first = 0x3A ∧ second = 0x3A)

theorem intercalate_splitDouble (text : JsString) :
    [0x3A, 0x3A].intercalate (splitDouble text) = text := by
  have nonempty : ∀ text : JsString, splitDouble text ≠ [] := by
    intro text
    fun_cases splitDouble text <;> simp_all
  fun_induction splitDouble text with
  | case1 => rfl
  | case2 unit => rfl
  | case3 unit next rest isDouble inductionHypothesis =>
      obtain ⟨rfl, rfl⟩ := isDouble
      rw [List.intercalate_cons_of_ne_nil (nonempty rest), inductionHypothesis]
      rfl
  | case4 unit next rest notDouble head others isSplit inductionHypothesis =>
      rw [isSplit] at inductionHypothesis
      cases others with
      | nil => simpa using inductionHypothesis
      | cons part more =>
          rw [List.intercalate_cons_cons] at inductionHypothesis ⊢
          rw [← inductionHypothesis]
          rfl
  | case5 unit next rest notDouble isNil inductionHypothesis =>
      exact absurd isNil (nonempty _)

variable {text : JsString}

theorem splitDouble_of_chain
    (chain : text.IsChain Apart) :
    splitDouble text = [text] := by
  fun_induction splitDouble text with
  | case1 => rfl
  | case2 unit => rfl
  | case3 unit next rest isDouble _ =>
      exact absurd isDouble (List.isChain_cons_cons.mp chain).1
  | case4 unit next rest notDouble head others isSplit inductionHypothesis =>
      have rested := inductionHypothesis (List.isChain_cons_cons.mp chain).2
      rw [isSplit] at rested
      obtain ⟨rfl, rfl⟩ := List.cons.inj rested
      rfl
  | case5 unit next rest notDouble isNil inductionHypothesis =>
      have rested := inductionHypothesis (List.isChain_cons_cons.mp chain).2
      rw [isNil] at rested
      cases rested

theorem splitDouble_append
    {left : JsString}
    (right : JsString)
    (chain : (left ++ [0x3A]).IsChain Apart) :
    splitDouble (left ++ 0x3A :: 0x3A :: right) =
      left :: splitDouble right := by
  induction left with
  | nil => rfl
  | cons unit rest inductionHypothesis =>
      have rested := inductionHypothesis
        (List.isChain_cons.mp chain).2
      cases rest with
      | nil =>
          have apart := (List.isChain_cons_cons.mp chain).1
          simp only [List.cons_append, List.nil_append] at rested ⊢
          rw [splitDouble, if_neg apart, rested]
      | cons next more =>
          have apart := (List.isChain_cons_cons.mp chain).1
          simp only [List.cons_append] at rested ⊢
          rw [splitDouble, if_neg apart, rested]

variable {group : JsString}

theorem chain_append
    {rest : JsString}
    (noColon : 0x3A ∉ group)
    (chain : rest.IsChain Apart) :
    (group ++ rest).IsChain Apart := by
  induction group with
  | nil => exact chain
  | cons unit more inductionHypothesis =>
      rw [List.mem_cons, not_or] at noColon
      refine (inductionHypothesis noColon.2).cons fun next _ both => ?_
      exact noColon.1 both.1.symm

theorem IsGroup.noColon
    (isGroup : IsGroup group) :
    0x3A ∉ group := by
  intro member
  have digit := isGroup.digits _ member
  exact absurd digit (by decide)

theorem joined_cons
    (isGroup : IsGroup group)
    (rest : List JsString) :
    ∃ unit text, joined (group :: rest) = unit :: text ∧
      isHexUnit unit = true := by
  cases group with
  | nil => exact absurd rfl isGroup.nonempty
  | cons unit digits =>
      have isDigit := isGroup.digits unit List.mem_cons_self
      cases rest with
      | nil => exact ⟨unit, digits, List.intercalate_singleton, isDigit⟩
      | cons next more =>
          rw [joined, List.intercalate_cons_cons, List.append_assoc]
          exact ⟨unit, _, rfl, isDigit⟩

variable {groups : List JsString}

theorem chain_joined
    (each : ∀ group ∈ groups, IsGroup group) :
    (joined groups ++ [0x3A]).IsChain Apart := by
  induction groups with
  | nil => exact .singleton _
  | cons group rest inductionHypothesis =>
      rw [List.forall_mem_cons] at each
      have rested := inductionHypothesis each.2
      have noColon := each.1.noColon
      cases rest with
      | nil =>
          rw [joined, List.intercalate_singleton]
          exact chain_append noColon (.singleton _)
      | cons next more =>
          obtain ⟨unit, text, shape, isDigit⟩ :=
            joined_cons (each.2 next List.mem_cons_self) more
          have whole : joined (group :: next :: more) =
              group ++ 0x3A :: joined (next :: more) := by
            rw [joined, List.intercalate_cons_cons, List.append_assoc]
            rfl
          rw [whole, List.append_assoc, List.cons_append]
          refine chain_append noColon (rested.cons fun first isFirst both => ?_)
          rw [shape, List.cons_append, List.head?_cons] at isFirst
          cases isFirst
          rw [both.2] at isDigit
          exact absurd isDigit (by decide)

theorem splitDouble_joined
    (each : ∀ group ∈ groups, IsGroup group) :
    splitDouble (joined groups) = [joined groups] :=
  splitDouble_of_chain (chain_joined each).left_of_append

variable {left right : List JsString}

theorem splitDouble_around
    (each : ∀ group ∈ left ++ right, IsGroup group) :
    splitDouble (joined left ++ 0x3A :: 0x3A :: joined right) =
      [joined left, joined right] := by
  rw [List.forall_mem_append] at each
  rw [splitDouble_append _ (chain_joined each.1), splitDouble_joined each.2]

theorem ipv6Groups_joined
    (each : ∀ group ∈ groups, IsGroup group) :
    ipv6Groups (joined groups) = groups := by
  cases groups with
  | nil => rfl
  | cons group rest =>
      obtain ⟨unit, text, shape, _⟩ :=
        joined_cons (each group List.mem_cons_self) rest
      rw [ipv6Groups, if_neg (by rw [shape]; exact List.cons_ne_nil _ _)]
      exact List.splitOn_intercalate 0x3A
        (fun other member => (each other member).noColon)
        (List.cons_ne_nil _ _)

theorem joined_ipv6Groups (half : JsString) :
    joined (ipv6Groups half) = half := by
  rw [ipv6Groups]
  split
  · rename_i empty
    rw [empty]
    rfl
  · exact List.intercalate_splitOn 0x3A

/-! ## The numbers of IPv6 addresses -/

theorem isWord_hex :
    isWord isHexUnit isHexUnit 3 group = true ↔ IsGroup group := by
  cases group with
  | nil =>
      constructor
      · intro isGroup
        cases isGroup
      · intro isGroup
        exact absurd rfl isGroup.nonempty
  | cons unit rest =>
      rw [isWord, Bool.and_eq_true, Bool.and_eq_true, decide_eq_true_eq,
        List.all_eq_true]
      constructor
      · rintro ⟨⟨first, short⟩, others⟩
        exact ⟨List.cons_ne_nil _ _, Nat.succ_le_succ short,
          List.forall_mem_cons.mpr ⟨first, others⟩⟩
      · intro isGroup
        obtain ⟨first, others⟩ := List.forall_mem_cons.mp isGroup.digits
        exact ⟨⟨first, Nat.le_of_succ_le_succ isGroup.short⟩, others⟩

theorem foldl_groups (groups : List JsString) :
    groups.foldl
        (fun total group => total * 65536 + digitsValue 16 hexUnitValue group)
        0 =
      piecesNumber (groups.map groupNumber) := by
  rw [piecesNumber, List.foldl_map]
  rfl

theorem joined_units
    (each : ∀ group ∈ groups, IsGroup group) :
    (∀ unit ∈ joined groups, unit = 0x3A ∨ isHexUnit unit = true) ∧
      (joined groups).length ≤ 5 * groups.length := by
  induction groups with
  | nil => exact ⟨by simp [joined], Nat.le_refl _⟩
  | cons group rest inductionHypothesis =>
      rw [List.forall_mem_cons] at each
      obtain ⟨units, length⟩ := inductionHypothesis each.2
      have short := each.1.short
      cases rest with
      | nil =>
          rw [joined, List.intercalate_singleton]
          refine ⟨fun unit member => .inr (each.1.digits unit member), ?_⟩
          exact short.trans (by simp)
      | cons next more =>
          have whole : joined (group :: next :: more) =
              group ++ 0x3A :: joined (next :: more) := by
            rw [joined, List.intercalate_cons_cons, List.append_assoc]
            rfl
          rw [whole]
          constructor
          · intro unit member
            rcases List.mem_append.mp member with inGroup | behind
            · exact .inr (each.1.digits unit inGroup)
            · rcases List.mem_cons.mp behind with colon | later
              · exact .inl colon
              · exact units unit later
          · simp only [List.length_append, List.length_cons] at length ⊢
            omega

theorem dot_not_mem_joined
    (each : ∀ group ∈ groups, IsGroup group) :
    0x2E ∉ joined groups := by
  intro member
  rcases (joined_units each).1 _ member with colon | digit
  · exact absurd colon (by decide)
  · exact absurd digit (by decide)

theorem dot_not_mem_around
    (each : ∀ group ∈ left ++ right, IsGroup group) :
    0x2E ∉ joined left ++ 0x3A :: 0x3A :: joined right := by
  rw [List.forall_mem_append] at each
  intro member
  simp only [List.mem_append, List.mem_cons] at member
  rcases member with inLeft | colon | colon | inRight
  · exact dot_not_mem_joined each.1 inLeft
  · exact absurd colon (by decide)
  · exact absurd colon (by decide)
  · exact dot_not_mem_joined each.2 inRight

theorem parseIpv6_of_groups
    (noDot : 0x2E ∉ text)
    (isAddress : ipv6Address (splitDouble text) = some groups)
    (count : groups.length = 8)
    (each : ∀ group ∈ groups, IsGroup group) :
    parseIpv6 text = some (piecesNumber (groups.map groupNumber)) := by
  have all : groups.all (isWord isHexUnit isHexUnit 3) = true :=
    List.all_eq_true.mpr fun group member => isWord_hex.mpr (each group member)
  rw [parseIpv6, if_neg noDot, isAddress, Option.bind_eq_bind,
    Option.bind_some, if_pos ⟨count, all⟩, foldl_groups]

theorem isGroup_zero : IsGroup [0x30] :=
  ⟨List.cons_ne_nil _ _, by decide, List.forall_mem_singleton.mpr (by decide)⟩

theorem parseIpv6_around
    (each : ∀ group ∈ left ++ right, IsGroup group)
    (count : left.length + right.length ≤ 8) :
    parseIpv6 (joined left ++ 0x3A :: 0x3A :: joined right) =
      some (piecesNumber (left.map groupNumber ++
        List.replicate (8 - (left.length + right.length)) 0 ++
        right.map groupNumber)) := by
  have sides := List.forall_mem_append.mp each
  have isAddress :
      ipv6Address (splitDouble (joined left ++ 0x3A :: 0x3A :: joined right)) =
        some (left ++ List.replicate (8 - left.length - right.length) [0x30] ++
          right) := by
    rw [splitDouble_around each, ipv6Address, ipv6Groups_joined sides.1,
      ipv6Groups_joined sides.2, if_pos count]
  rw [parseIpv6_of_groups (dot_not_mem_around each) isAddress]
  · rw [List.map_append, List.map_append, List.map_replicate, Nat.sub_sub]
    rfl
  · simp only [List.length_append, List.length_replicate]
    omega
  · intro group member
    rcases List.mem_append.mp member with early | inRight
    · rcases List.mem_append.mp early with inLeft | zero
      · exact sides.1 group inLeft
      · rw [List.eq_of_mem_replicate zero]
        exact isGroup_zero
    · exact sides.2 group inRight

theorem around_of_groups
    (each : ∀ group ∈ left ++
      List.replicate (8 - left.length - right.length) [0x30] ++ right,
      IsGroup group)
    (room : left.length + right.length ≤ 8) :
    DenotesIpv6 (joined left ++ 0x3A :: 0x3A :: joined right)
        (piecesNumber ((left ++
          List.replicate (8 - left.length - right.length) [0x30] ++
          right).map groupNumber)) ∨
      ∃ before after,
        Overfull (joined left ++ 0x3A :: 0x3A :: joined right) before after ∧
          piecesNumber ((left ++
            List.replicate (8 - left.length - right.length) [0x30] ++
            right).map groupNumber) =
            piecesNumber ((before ++ after).map groupNumber) := by
  have sides : ∀ group ∈ left ++ right, IsGroup group := by
    intro group member
    refine each group ?_
    simp only [List.mem_append] at member ⊢
    rcases member with inLeft | inRight
    · exact .inl (.inl inLeft)
    · exact .inr inRight
  rcases Nat.lt_or_eq_of_le room with fewer | count
  · refine .inl ?_
    have denotes := DenotesIpv6.compressed sides fewer
    rw [List.map_append, List.map_append, List.map_replicate, Nat.sub_sub]
    exact denotes
  · refine .inr ⟨left, right, ⟨sides, count, rfl⟩, ?_⟩
    rw [Nat.sub_sub, count]
    simp

variable {number : Nat}

/-- What the parser takes: eight groups, or at most eight around `::`. -/
theorem parseIpv6_eq_some :
    parseIpv6 text = some number ↔
      DenotesIpv6 text number ∨
        ∃ left right, Overfull text left right ∧
          number = piecesNumber ((left ++ right).map groupNumber) := by
  constructor
  · intro parsed
    have whole := intercalate_splitDouble text
    rw [parseIpv6] at parsed
    split at parsed
    · cases parsed
    · obtain ⟨groups, isAddress, isNumber⟩ := Option.bind_eq_some_iff.mp parsed
      split at isNumber
      · rename_i fits
        have each : ∀ group ∈ groups, IsGroup group := fun group member =>
          isWord_hex.mp (List.all_eq_true.mp fits.2 group member)
        cases isNumber
        cases parts : splitDouble text with
        | nil =>
            rw [parts] at isAddress
            cases isAddress
        | cons first others =>
            rw [parts] at isAddress whole
            cases others with
            | nil =>
                rw [List.intercalate_singleton] at whole
                subst whole
                rw [ipv6Address] at isAddress
                split at isAddress
                · cases isAddress
                  have denotes := DenotesIpv6.full each fits.1
                  rw [joined_ipv6Groups] at denotes
                  rw [foldl_groups]
                  exact .inl denotes
                · cases isAddress
            | cons second more =>
                cases more with
                | cons third more => cases isAddress
                | nil =>
                    rw [List.intercalate_cons_cons,
                      List.intercalate_singleton, List.append_assoc] at whole
                    subst whole
                    rw [← joined_ipv6Groups first, ← joined_ipv6Groups second]
                    dsimp only [ipv6Address] at isAddress
                    split at isAddress
                    · rename_i room
                      cases isAddress
                      rw [foldl_groups]
                      exact around_of_groups each room
                    · cases isAddress
      · cases isNumber
  · rintro (denotes | ⟨left, right, overfull, rfl⟩)
    · cases denotes with
      | full each count =>
          refine parseIpv6_of_groups (dot_not_mem_joined each) ?_ count each
          rw [splitDouble_joined each, ipv6Address, ipv6Groups_joined each,
            if_pos (Nat.le_of_eq count)]
      | compressed each fewer => exact parseIpv6_around each fewer.le
    · rw [overfull.shape, parseIpv6_around overfull.each overfull.count.le,
        overfull.count, List.map_append]
      simp

/-! ## The numbers of IPv4 addresses -/

theorem isIpv4Part_decimalDigits :
    ∀ octet < 256,
      isIpv4Part (decimalDigits octet) = true ∧
        (decimalDigits octet).length ≤ 3 := by
  decide +kernel

/-- The digit of a number below ten. -/
def digitUnit (digit : Nat) : CodeUnit :=
  Fin.ofNat 65536 (0x30 + digit)

theorem exists_digitUnit
    {unit : CodeUnit}
    (isDigit : isDecimalDigit unit = true) :
    ∃ digit < 10, unit = digitUnit digit := by
  have range : 0x30 ≤ unit.val ∧ unit.val ≤ 0x39 := by
    simpa [isDecimalDigit] using isDigit
  refine ⟨unit.val - 0x30, by omega, Fin.ext ?_⟩
  rw [digitUnit, Fin.val_ofNat]
  omega

theorem decimalDigits_digit :
    ∀ digit < 10, decimalDigits digit = [digitUnit digit] := by
  decide +kernel

theorem decimalDigits_concat
    {number digit : Nat}
    (positive : 0 < number)
    (small : digit < 10) :
    decimalDigits (10 * number + digit) =
      decimalDigits number ++ [digitUnit digit] := by
  rw [decimalDigits,
    ← Nat.toDigits_append_toDigits (by decide) positive small,
    List.flatMap_append]
  exact congrArg _ (decimalDigits_digit digit small)

theorem decimalValue_decimalDigits (number : Nat) :
    decimalValue (decimalDigits number) = number := by
  have digitValue : ∀ digit < 10, (digitUnit digit).val - 0x30 = digit := by
    intro digit small
    rw [digitUnit, Fin.val_ofNat]
    omega
  induction number using Nat.strong_induction_on with
  | _ number inductionHypothesis =>
  rcases Nat.lt_or_ge number 10 with small | large
  · rw [decimalDigits_digit number small, decimalValue, digitsValue,
      List.foldl_cons, digitValue number small]
    exact Nat.zero_add number
  · have tenth := inductionHypothesis (number / 10) (by omega)
    have last : number % 10 < 10 := by omega
    have parts : 10 * (number / 10) + number % 10 = number :=
      Nat.div_add_mod number 10
    rw [← parts, decimalDigits_concat (by omega) last, parts, decimalValue,
      digitsValue, List.foldl_append, ← digitsValue, ← decimalValue, tenth,
      List.foldl_cons, List.foldl_nil, digitValue _ last]
    omega

theorem decimalDigits_of_digits :
    (∀ first < 10, [digitUnit first] = decimalDigits first) ∧
    (∀ first < 10, 0 < first → ∀ second < 10,
      [digitUnit first, digitUnit second] =
        decimalDigits (10 * first + second)) ∧
    ∀ first < 10, 0 < first → ∀ second < 10, ∀ third < 10,
      [digitUnit first, digitUnit second, digitUnit third] =
        decimalDigits (100 * first + 10 * second + third) := by
  refine ⟨fun first small => (decimalDigits_digit first small).symm, ?_, ?_⟩
  · intro first small positive second secondSmall
    rw [decimalDigits_concat positive secondSmall,
      decimalDigits_digit first small]
    rfl
  · intro first small positive second secondSmall third thirdSmall
    have parts : 100 * first + 10 * second + third =
        10 * (10 * first + second) + third := by omega
    rw [parts, decimalDigits_concat (by omega) thirdSmall,
      decimalDigits_concat positive secondSmall,
      decimalDigits_digit first small]
    rfl

theorem isIpv4Part_iff
    {part : JsString} :
    isIpv4Part part = true ↔ ∃ octet ≤ 255, part = decimalDigits octet := by
  constructor
  · intro isPart
    rw [isIpv4Part, Bool.and_eq_true, Bool.or_eq_true, decide_eq_true_eq,
      decide_eq_true_eq] at isPart
    obtain ⟨shape, small⟩ := isPart
    have value := decimalValue_decimalDigits
    have written : ∃ number, part = decimalDigits number ∧
        decimalValue part = number := by
      rcases shape with rfl | word
      · exact ⟨0, by decide +kernel, by decide⟩
      · cases part with
        | nil => cases word
        | cons first rest =>
            simp only [isWord, Bool.and_eq_true, decide_eq_true_eq,
              List.all_eq_true] at word
            obtain ⟨⟨⟨isFirst, nonzero⟩, short⟩, others⟩ := word
            obtain ⟨high, highSmall, rfl⟩ := exists_digitUnit isFirst
            have positive : 0 < high := by
              rcases Nat.eq_zero_or_pos high with rfl | positive
              · exact absurd rfl nonzero
              · exact positive
            obtain ⟨one, two, three⟩ := decimalDigits_of_digits
            rcases rest with _ | ⟨second, _ | ⟨third, _ | ⟨more, longer⟩⟩⟩
            · refine ⟨high, one high highSmall, ?_⟩
              rw [one high highSmall]
              exact value high
            · obtain ⟨middle, middleSmall, rfl⟩ :=
                exists_digitUnit (others second (by simp))
              have shape := two high highSmall positive middle middleSmall
              refine ⟨_, shape, ?_⟩
              rw [shape]
              exact value _
            · obtain ⟨middle, middleSmall, rfl⟩ :=
                exists_digitUnit (others second (by simp))
              obtain ⟨low, lowSmall, rfl⟩ :=
                exists_digitUnit (others third (by simp))
              have shape := three high highSmall positive middle middleSmall low
                lowSmall
              refine ⟨_, shape, ?_⟩
              rw [shape]
              exact value _
            · simp at short
    obtain ⟨number, isWritten, isNumber⟩ := written
    exact ⟨number, isNumber ▸ small, isWritten⟩
  · rintro ⟨octet, small, rfl⟩
    exact (isIpv4Part_decimalDigits octet (Nat.lt_succ_of_le small)).1

theorem parseIpv4_eq_some :
    parseIpv4 text = some number ↔ DenotesIpv4 text number := by
  have value := decimalValue_decimalDigits
  have noDot : ∀ octet, 0x2E ∉ decimalDigits octet := by
    intro octet member
    exact absurd (digit_of_mem_decimalDigits member) (by decide)
  rw [parseIpv4]
  constructor
  · intro parsed
    split at parsed
    · rename_i accepted
      cases parsed
      have whole : [0x2E].intercalate (text.splitOn 0x2E) = text :=
        List.intercalate_splitOn 0x2E
      obtain ⟨count, each⟩ := accepted
      rw [List.all_eq_true] at each
      rcases parts : text.splitOn 0x2E with
        _ | ⟨first, _ | ⟨second, _ | ⟨third, _ | ⟨fourth, _ | more⟩⟩⟩⟩ <;>
        rw [parts] at count each whole <;> try cases count
      simp only [List.forall_mem_cons, List.not_mem_nil, false_implies,
        implies_true, and_true, isIpv4Part_iff] at each
      obtain ⟨⟨_, isFirst, rfl⟩, ⟨_, isSecond, rfl⟩, ⟨_, isThird, rfl⟩, _,
        isFourth, rfl⟩ := each
      rw [← whole]
      have denotes := DenotesIpv4.dotted isFirst isSecond isThird isFourth
      simpa [value] using denotes
    · cases parsed
  · intro denotes
    cases denotes with
    | @dotted first second third fourth isFirst isSecond isThird isFourth =>
        have parts : ([0x2E].intercalate [decimalDigits first,
              decimalDigits second, decimalDigits third,
              decimalDigits fourth]).splitOn 0x2E =
            [decimalDigits first, decimalDigits second, decimalDigits third,
              decimalDigits fourth] :=
          List.splitOn_intercalate 0x2E (by simp [noDot]) (List.cons_ne_nil _ _)
        rw [parts, if_pos]
        · simp [value]
        · have part : ∀ octet ≤ 255,
              isIpv4Part (decimalDigits octet) = true :=
            fun octet small => isIpv4Part_iff.mpr ⟨octet, small, rfl⟩
          simp [part _ isFirst, part _ isSecond, part _ isThird,
            part _ isFourth]

/-! ## Addresses -/

theorem range_of_joined
    {unit : CodeUnit}
    (isUnit : unit = 0x3A ∨ isHexUnit unit = true) :
    0x20 < unit.val ∧ unit.val < 0x7F := by
  rcases isUnit with rfl | digit
  · decide
  · simp only [isHexUnit, isDecimalDigit, Bool.or_eq_true,
      decide_eq_true_eq] at digit
    omega

theorem isText_around
    (each : ∀ group ∈ left ++ right, IsGroup group)
    (count : left.length + right.length ≤ 8) :
    isText 64 (joined left ++ 0x3A :: 0x3A :: joined right) = true := by
  rw [List.forall_mem_append] at each
  obtain ⟨leftUnits, leftLength⟩ := joined_units each.1
  obtain ⟨rightUnits, rightLength⟩ := joined_units each.2
  refine isText_of_printable ?_ (by simp) ?_
  · intro unit member
    simp only [List.mem_append, List.mem_cons] at member
    refine range_of_joined ?_
    rcases member with inLeft | colon | colon | inRight
    · exact leftUnits unit inLeft
    · exact .inl colon
    · exact .inl colon
    · exact rightUnits unit inRight
  · simp only [List.length_append, List.length_cons]
    omega

theorem DenotesIpv6.isText
    (denotes : DenotesIpv6 text number) :
    isText 64 text = true := by
  cases denotes with
  | @full groups each count =>
      obtain ⟨units, length⟩ := joined_units each
      refine isText_of_printable
        (fun unit member => range_of_joined (units unit member)) ?_ (by omega)
      cases groups with
      | nil => cases count
      | cons group rest =>
          obtain ⟨unit, more, shape, _⟩ :=
            joined_cons (each group List.mem_cons_self) rest
          rw [shape]
          exact List.cons_ne_nil _ _
  | compressed each fewer => exact isText_around each fewer.le

theorem DenotesIpv4.isText
    (denotes : DenotesIpv4 text number) :
    isText 64 text = true ∧ 0x2E ∈ text := by
  cases denotes with
  | @dotted first second third fourth isFirst isSecond isThird isFourth =>
      have short : ∀ octet ≤ 255, (decimalDigits octet).length ≤ 3 :=
        fun octet small =>
          (isIpv4Part_decimalDigits octet (Nat.lt_succ_of_le small)).2
      have firstShort := short first isFirst
      have secondShort := short second isSecond
      have thirdShort := short third isThird
      have fourthShort := short fourth isFourth
      have whole : [0x2E].intercalate [decimalDigits first,
            decimalDigits second, decimalDigits third,
            decimalDigits fourth] =
          decimalDigits first ++ 0x2E :: (decimalDigits second ++
            0x2E :: (decimalDigits third ++ 0x2E :: decimalDigits fourth)) := by
        simp [List.intercalate_cons_cons]
      rw [whole]
      refine ⟨isText_of_printable ?_ (by simp) ?_, by simp⟩
      · intro unit member
        simp only [List.mem_append, List.mem_cons] at member
        have digit : ∀ octet, unit ∈ decimalDigits octet →
            0x20 < unit.val ∧ unit.val < 0x7F := by
          intro octet inOctet
          have range := digit_of_mem_decimalDigits inOctet
          omega
        have dot : unit = 0x2E → 0x20 < unit.val ∧ unit.val < 0x7F := by
          rintro rfl
          decide
        rcases member with part | isDot | part | isDot | part | isDot | part
        · exact digit _ part
        · exact dot isDot
        · exact digit _ part
        · exact dot isDot
        · exact digit _ part
        · exact dot isDot
        · exact digit _ part
      · simp only [List.length_append, List.length_cons]
        omega

theorem parseIp_eq_ok
    {field : String}
    {ip : ParsedIp} :
    parseIp (.string text) field = .ok ip ↔
      isText 64 text = true ∧
        ((∃ number, parseIpv4 text = some number ∧ ip = ⟨32, number⟩) ∨
          parseIpv4 text = none ∧
            ∃ number, parseIpv6 text = some number ∧ ip = ⟨128, number⟩) := by
  rw [parseIp, bind_eq_ok]
  constructor
  · rintro ⟨candidate, accepted, parsed⟩
    obtain ⟨same, plain⟩ := text_eq_ok.mp accepted
    cases same
    refine ⟨plain, ?_⟩
    split at parsed
    · rename_i number isNumber
      cases parsed
      exact .inl ⟨number, isNumber, rfl⟩
    · rename_i notIpv4
      split at parsed
      · rename_i number isNumber
        cases parsed
        exact .inr ⟨notIpv4, number, isNumber, rfl⟩
      · cases parsed
  · rintro ⟨plain, ⟨number, isNumber, rfl⟩ | ⟨notIpv4, number, isNumber, rfl⟩⟩
    · refine ⟨text, text_eq_ok.mpr ⟨rfl, plain⟩, ?_⟩
      rw [isNumber]
      rfl
    · refine ⟨text, text_eq_ok.mpr ⟨rfl, plain⟩, ?_⟩
      rw [notIpv4, isNumber]
      rfl

theorem DenotesIpv6.noDot
    (denotes : DenotesIpv6 text number) :
    0x2E ∉ text := by
  cases denotes with
  | full each _ => exact dot_not_mem_joined each
  | compressed each _ => exact dot_not_mem_around each

theorem parseIpv4_of_noDot
    (noDot : 0x2E ∉ text) :
    parseIpv4 text = none := by
  cases parsed : parseIpv4 text with
  | none => rfl
  | some number =>
      exact absurd (parseIpv4_eq_some.mp parsed).isText.2 noDot

/-- The texts that are admitted: those that denote, and the overfull. -/
theorem parseIp_iff
    {field : String}
    {ip : ParsedIp} :
    parseIp (.string text) field = .ok ip ↔
      Denotes text ip ∨
        ∃ left right, Overfull text left right ∧
          ip = ⟨128, piecesNumber ((left ++ right).map groupNumber)⟩ := by
  rw [parseIp_eq_ok]
  constructor
  · rintro ⟨_, ⟨number, isNumber, rfl⟩ | ⟨_, number, isNumber, rfl⟩⟩
    · exact .inl (.v4 (parseIpv4_eq_some.mp isNumber))
    · rcases parseIpv6_eq_some.mp isNumber with
        denotes | ⟨left, right, overfull, rfl⟩
      · exact .inl (.v6 denotes)
      · exact .inr ⟨left, right, overfull, rfl⟩
  · rintro (denotes | ⟨left, right, overfull, rfl⟩)
    · cases denotes with
      | v4 denotes =>
          exact ⟨denotes.isText.1,
            .inl ⟨_, parseIpv4_eq_some.mpr denotes, rfl⟩⟩
      | v6 denotes =>
          exact ⟨denotes.isText, .inr ⟨parseIpv4_of_noDot denotes.noDot, _,
            parseIpv6_eq_some.mpr (.inl denotes), rfl⟩⟩
    · obtain ⟨each, count, shape⟩ := overfull
      have parsed := parseIpv6_eq_some.mpr
        (.inr ⟨left, right, ⟨each, count, shape⟩, rfl⟩)
      have noDot : 0x2E ∉ text := by
        rw [shape]
        exact dot_not_mem_around each
      refine ⟨?_, .inr ⟨parseIpv4_of_noDot noDot, _, parsed, rfl⟩⟩
      rw [shape]
      exact isText_around each count.le

theorem Overfull.not_denotes
    (overfull : Overfull text left right)
    (ip : ParsedIp) :
    ¬ Denotes text ip := by
  obtain ⟨each, count, shape⟩ := overfull
  have split_ := splitDouble_around each
  rw [← shape] at split_
  intro denotes
  cases denotes with
  | v4 denotes =>
      have noDot := dot_not_mem_around each
      rw [← shape] at noDot
      exact noDot denotes.isText.2
  | v6 denotes =>
      cases denotes with
      | full others _ =>
          rw [splitDouble_joined others] at split_
          exact absurd (congrArg List.length split_) (by simp)
      | @compressed before after others fewer =>
          rw [splitDouble_around others] at split_
          obtain ⟨sameLeft, sameRight⟩ := List.cons.inj split_
          have sides := List.forall_mem_append.mp each
          have otherSides := List.forall_mem_append.mp others
          have isLeft := congrArg ipv6Groups sameLeft
          have isRight := congrArg ipv6Groups (List.cons.inj sameRight).1
          rw [ipv6Groups_joined otherSides.1, ipv6Groups_joined sides.1]
            at isLeft
          rw [ipv6Groups_joined otherSides.2, ipv6Groups_joined sides.2]
            at isRight
          rw [isLeft, isRight, count] at fewer
          exact absurd fewer (by decide)

/-! ## Ranges -/

theorem testBit_networkMask
    {bits prefixLength : Nat}
    (inside : prefixLength ≤ bits)
    (position : Nat) :
    (networkMask bits prefixLength).testBit position =
      decide (bits - prefixLength ≤ position ∧ position < bits) := by
  rw [networkMask, Nat.testBit_shiftLeft, Nat.testBit_two_pow_sub_one,
    ← Bool.decide_and]
  refine decide_eq_decide.mpr ?_
  omega

theorem compileCidr_eq_ok
    {source : JsString}
    {cidr : CompiledCidr}
    (compiled : compileCidr source = .ok cidr) :
    (∃ address digits, source = address ++ 0x2F :: digits ∧
        parseIp (.string address) "CIDR address" =
          .ok ⟨cidr.bits, cidr.network⟩ ∧
        cidr.prefixLength = decimalValue digits) ∧
      cidr.prefixLength ≤ cidr.bits ∧
      cidr.network &&& networkMask cidr.bits cidr.prefixLength =
        cidr.network := by
  rw [compileCidr] at compiled
  obtain ⟨text, accepted, compiled⟩ := bind_eq_ok.mp compiled
  cases (text_eq_ok.mp accepted).1
  have whole : [0x2F].intercalate (source.splitOn 0x2F) = source :=
    List.intercalate_splitOn 0x2F
  split at compiled
  · rename_i address digits parts
    obtain ⟨_, compiled⟩ := check_bind_eq_ok.mp compiled
    obtain ⟨parsed, isParsed, compiled⟩ := bind_eq_ok.mp compiled
    obtain ⟨inside, compiled⟩ := check_bind_eq_ok.mp compiled
    obtain ⟨canonical, compiled⟩ := check_bind_eq_ok.mp compiled
    cases compiled
    rw [parts, List.intercalate_cons_cons, List.intercalate_singleton,
      List.append_assoc] at whole
    exact ⟨⟨address, digits, whole.symm, isParsed, rfl⟩, inside, canonical⟩
  · cases compiled

/--
Admission is exact but for overfull texts, and a range matches the addresses
of its family whose leading bits are those of the network.
-/
theorem address_admission (text : JsString) (field : String) :
    ((∀ ip, parseIp (.string text) field = .ok ip ↔ Denotes text ip) ↔
      ¬ ∃ left right, Overfull text left right) ∧
    ∀ (source : JsString) (cidr : CompiledCidr),
      compileCidr source = .ok cidr →
        (∃ address digits, source = address ++ 0x2F :: digits ∧
          parseIp (.string address) "CIDR address" =
            .ok ⟨cidr.bits, cidr.network⟩ ∧
          cidr.prefixLength = decimalValue digits) ∧
        ∀ (value : JsValue) (field : String) (ip : ParsedIp),
          parseIp value field = .ok ip →
            (cidrMatches ip cidr = true ↔
              ip.bits = cidr.bits ∧
                ∀ position, cidr.bits - cidr.prefixLength ≤ position →
                  position < cidr.bits →
                    ip.value.testBit position =
                      cidr.network.testBit position) := by
  constructor
  · constructor
    · rintro exact_ ⟨left, right, overfull⟩
      have parsed := (@parseIp_iff text field _).mpr
        (.inr ⟨left, right, overfull, rfl⟩)
      exact overfull.not_denotes _ ((exact_ _).mp parsed)
    · intro proper ip
      rw [parseIp_iff, or_iff_left]
      rintro ⟨left, right, overfull, _⟩
      exact proper ⟨left, right, overfull⟩
  · intro source cidr compiled
    obtain ⟨named, inside, canonical⟩ := compileCidr_eq_ok compiled
    refine ⟨named, fun value field ip _ => ?_⟩
    rw [cidrMatches, Bool.and_eq_true, decide_eq_true_eq, decide_eq_true_eq]
    refine and_congr_right fun family => ?_
    rw [family]
    have masked := testBit_networkMask inside
    constructor
    · intro same position above below
      rw [← same, Nat.testBit_and, masked, decide_eq_true ⟨above, below⟩,
        Bool.and_true]
    · intro agrees
      refine Nat.eq_of_testBit_eq fun position => ?_
      rw [← canonical, Nat.testBit_and, Nat.testBit_and, masked]
      by_cases leading :
          cidr.bits - cidr.prefixLength ≤ position ∧ position < cidr.bits
      · rw [agrees position leading.1 leading.2]
      · rw [decide_eq_false leading, Bool.and_false, Bool.and_false]

/-- Eight groups with a `::` in the middle. -/
def overfullText : JsString :=
  js "1:2:3:4::5:6:7:8"

/-- The overfull text is taken as the address without the `::`. -/
theorem parseIp_overfull :
    parseIp (.string overfullText) "IP address" =
        .ok ⟨128, 0x00010002000300040005000600070008⟩ ∧
      ¬ Denotes overfullText ⟨128, 0x00010002000300040005000600070008⟩ := by
  have groups : ∀ group ∈ [js "1", js "2", js "3", js "4"] ++
      [js "5", js "6", js "7", js "8"], IsGroup group := by
    have digit : ∀ unit : CodeUnit, isHexUnit unit = true →
        IsGroup [unit] := fun unit isDigit =>
      ⟨List.cons_ne_nil _ _, by simp, by simpa using isDigit⟩
    simp only [List.cons_append, List.nil_append, List.forall_mem_cons]
    exact ⟨digit _ rfl, digit _ rfl, digit _ rfl, digit _ rfl, digit _ rfl,
      digit _ rfl, digit _ rfl, digit _ rfl, nofun⟩
  have overfull : Overfull overfullText [js "1", js "2", js "3", js "4"]
      [js "5", js "6", js "7", js "8"] :=
    ⟨groups, rfl, by decide⟩
  exact ⟨by decide +kernel, overfull.not_denotes _⟩

end Selene.Enterprise
