import Selene.JsValue
import Selene.Rejection

/-!
# The budgeted snapshot of an untrusted value

Every parser of the design-revision boundary first copies its input with
`snapshot`, which accepts plain data only and charges one aggregate budget of
nodes and UTF-8 bytes.  The array of processed command identifiers of a state
has a budget of its own.

The copy is the value itself, so the recursion only threads the budget.
`snapshotValue_eq_some` sums the charges up: whether a value is accepted
depends on its shape and on its total cost, not on the order of the visits.
-/

namespace Selene.Revision

open Js

/-- `DesignRevisionValidationCode`. -/
inductive ValidationCode where
  | invalid
  | unsupported
  | unauthorized
  | stale
  | conflict
  | replay
  | recovery
  deriving DecidableEq, Repr

/-- What a parser of this boundary returns. -/
abbrev Checked (α : Type) := Except ValidationCode α

def maxCommands : Nat := 10000

def maxSnapshotBytes : Nat := 1000000

def maxSnapshotNodes : Nat := 10000

def maxStateCommandSnapshotNodes : Nat := maxCommands * 2 + 1

def maxStateCommandBytes : Nat := maxCommands * 128 + 4096

/-- Deepest level `snapshot` visits. -/
def maxSnapshotDepth : Nat := 32

/-- Charges accumulated so far. -/
@[ext] structure SnapshotBudget where
  bytes : Nat
  nodes : Nat
  stateCommandBytes : Nat
  stateCommandNodes : Nat
  deriving DecidableEq, Repr

namespace SnapshotBudget

/-- The budget every snapshot starts from. -/
def zero : SnapshotBudget :=
  { bytes := 0, nodes := 0, stateCommandBytes := 0, stateCommandNodes := 0 }

/-- Charges add up. -/
def add (first second : SnapshotBudget) : SnapshotBudget where
  bytes := first.bytes + second.bytes
  nodes := first.nodes + second.nodes
  stateCommandBytes := first.stateCommandBytes + second.stateCommandBytes
  stateCommandNodes := first.stateCommandNodes + second.stateCommandNodes

instance : Add SnapshotBudget := ⟨add⟩

@[simp] theorem bytes_add (first second : SnapshotBudget) :
    (first + second).bytes = first.bytes + second.bytes :=
  rfl

@[simp] theorem nodes_add (first second : SnapshotBudget) :
    (first + second).nodes = first.nodes + second.nodes :=
  rfl

@[simp] theorem stateCommandBytes_add (first second : SnapshotBudget) :
    (first + second).stateCommandBytes =
      first.stateCommandBytes + second.stateCommandBytes :=
  rfl

@[simp] theorem stateCommandNodes_add (first second : SnapshotBudget) :
    (first + second).stateCommandNodes =
      first.stateCommandNodes + second.stateCommandNodes :=
  rfl

theorem add_assoc (first second third : SnapshotBudget) :
    first + second + third = first + (second + third) := by
  ext <;> simp [Nat.add_assoc]

theorem add_comm (first second : SnapshotBudget) :
    first + second = second + first := by
  ext <;> simp [Nat.add_comm]

@[simp] theorem add_zero (budget : SnapshotBudget) :
    budget + zero = budget := by
  ext <;> simp [zero]

@[simp] theorem zero_add (budget : SnapshotBudget) :
    zero + budget = budget := by
  ext <;> simp [zero]

/-- No limit is exceeded. -/
structure Within (budget : SnapshotBudget) : Prop where
  bytes : budget.bytes ≤ maxSnapshotBytes
  nodes : budget.nodes ≤ maxSnapshotNodes
  stateCommandBytes : budget.stateCommandBytes ≤ maxStateCommandBytes
  stateCommandNodes : budget.stateCommandNodes ≤ maxStateCommandSnapshotNodes

theorem within_zero : Within zero :=
  ⟨Nat.zero_le _, Nat.zero_le _, Nat.zero_le _, Nat.zero_le _⟩

theorem Within.of_add
    {first second : SnapshotBudget}
    (within : (first + second).Within) :
    first.Within where
  bytes := (Nat.le_add_right _ _).trans within.bytes
  nodes := (Nat.le_add_right _ _).trans within.nodes
  stateCommandBytes := (Nat.le_add_right _ _).trans within.stateCommandBytes
  stateCommandNodes := (Nat.le_add_right _ _).trans within.stateCommandNodes

end SnapshotBudget

/-! ## Charging the budget -/

/-- The loop of `boundedUtf8ByteLength`, with the bytes counted so far. -/
def boundedUtf8Loop (limit : Nat) : JsString → Nat → Option Nat
  | [], bytes => some bytes
  | [unit], bytes =>
      let total := bytes + unitBytes unit
      if total > limit then none else some total
  | high :: low :: rest, bytes =>
      if high.IsHighSurrogate ∧ low.IsLowSurrogate then
        let total := bytes + 4
        if total > limit then none else boundedUtf8Loop limit rest total
      else
        let total := bytes + unitBytes high
        if total > limit then none
        else boundedUtf8Loop limit (low :: rest) total

/-- UTF-8 length of a string, rejected when it exceeds `limit`. -/
def boundedUtf8ByteLength (value : JsString) (limit : Nat) : Option Nat :=
  if value.length > limit then none else boundedUtf8Loop limit value 0

theorem boundedUtf8Loop_eq
    (limit : Nat)
    (value : JsString)
    {bytes : Nat}
    (bound : bytes ≤ limit) :
    boundedUtf8Loop limit value bytes =
      if bytes + utf8Length value ≤ limit then
        some (bytes + utf8Length value)
      else
        none := by
  fun_induction boundedUtf8Loop limit value bytes with
  | case1 bytes =>
      rw [utf8Length, Nat.add_zero, if_pos bound]
  | case2 unit bytes total exceeds =>
      rw [utf8Length, if_neg (by omega)]
  | case3 unit bytes total fits =>
      rw [utf8Length, if_pos (by omega)]
  | case4 high low rest bytes pair total exceeds =>
      rw [utf8Length_pair pair, if_neg (by omega)]
  | case5 high low rest bytes pair total fits inductionHypothesis =>
      rw [inductionHypothesis (by omega), utf8Length_pair pair,
        ← Nat.add_assoc]
  | case6 high low rest bytes notPair total exceeds =>
      rw [utf8Length_unpaired notPair, if_neg (by omega)]
  | case7 high low rest bytes notPair total fits inductionHypothesis =>
      rw [inductionHypothesis (by omega), utf8Length_unpaired notPair,
        ← Nat.add_assoc]

theorem boundedUtf8ByteLength_eq
    (value : JsString)
    (limit : Nat) :
    boundedUtf8ByteLength value limit =
      if utf8Length value ≤ limit then some (utf8Length value)
      else none := by
  have shorter := length_le_utf8Length value
  unfold boundedUtf8ByteLength
  split
  · rw [if_neg (by omega)]
  · rw [boundedUtf8Loop_eq limit value (Nat.zero_le _), Nat.zero_add]

/-- Charge the bytes of a string. -/
def countBytes (value : JsString) (budget : SnapshotBudget)
    (stateCommandScalar : Bool) : Option SnapshotBudget := do
  let remaining :=
    if stateCommandScalar then
      maxStateCommandBytes - budget.stateCommandBytes
    else
      maxSnapshotBytes - budget.bytes
  let bytes ← boundedUtf8ByteLength value remaining
  if stateCommandScalar then
    let charged :=
      { budget with stateCommandBytes := budget.stateCommandBytes + bytes }
    if charged.stateCommandBytes > maxStateCommandBytes then none
    else some charged
  else
    let charged := { budget with bytes := budget.bytes + bytes }
    if charged.bytes > maxSnapshotBytes then none else some charged

/-- Charge one scalar. -/
def countScalar (budget : SnapshotBudget) (stateCommandScalar : Bool) :
    Option SnapshotBudget :=
  if stateCommandScalar then
    let charged :=
      { budget with stateCommandNodes := budget.stateCommandNodes + 1 }
    if charged.stateCommandNodes > maxStateCommandSnapshotNodes then none
    else some charged
  else
    let charged := { budget with nodes := budget.nodes + 1 }
    if charged.nodes > maxSnapshotNodes then none else some charged

/-- Charge one object or array. -/
def countContainer (budget : SnapshotBudget) : Option SnapshotBudget :=
  countScalar budget false

/-- Charge the slots of an array. -/
def countSlots (length : Nat) (budget : SnapshotBudget)
    (stateCommandArray : Bool) : Option SnapshotBudget :=
  if stateCommandArray then
    let charged :=
      { budget with stateCommandNodes := budget.stateCommandNodes + length }
    if charged.stateCommandNodes > maxStateCommandSnapshotNodes then none
    else some charged
  else
    let charged := { budget with nodes := budget.nodes + length }
    if charged.nodes > maxSnapshotNodes then none else some charged

/-- Strings of the command array are charged to its own budget. -/
def isStringValue : JsValue → Bool
  | .string _ => true
  | _ => false

/-- The property whose array has a budget of its own. -/
def processedCommandIdsKey : JsString :=
  js "processedCommandIds"

mutual

/-- The visit of one value. -/
def snapshotValue : JsValue → Nat → SnapshotBudget →
    (stateCommandArray recognizesStateCommandIds stateCommandScalar : Bool) →
    Option SnapshotBudget
  | .undefined, _, _, _, _, _ => none
  | .exotic, _, _, _, _, _ => none
  | .null, depth, budget, _, _, stateCommandScalar =>
      if depth > maxSnapshotDepth then none
      else countScalar budget stateCommandScalar
  | .bool _, depth, budget, _, _, stateCommandScalar =>
      if depth > maxSnapshotDepth then none
      else countScalar budget stateCommandScalar
  | .number value, depth, budget, _, _, stateCommandScalar =>
      if depth > maxSnapshotDepth then none
      else
        (countScalar budget stateCommandScalar).bind fun charged =>
          if value.isFinite then some charged else none
  | .string value, depth, budget, _, _, stateCommandScalar =>
      if depth > maxSnapshotDepth then none
      else
        (countScalar budget stateCommandScalar).bind fun charged =>
          countBytes value charged stateCommandScalar
  | .array items, depth, budget, stateCommandArray, _, _ =>
      if depth > maxSnapshotDepth then none
      else
        (countContainer budget).bind fun charged =>
          if items.length > maxCommands then none
          else
            (countSlots items.length charged stateCommandArray).bind
              fun charged =>
                snapshotItems items depth charged stateCommandArray
  | .object entries, depth, budget, _, recognizesStateCommandIds, _ =>
      if depth > maxSnapshotDepth then none
      else
        (countContainer budget).bind fun charged =>
          if entries.length > maxCommands then none
          else
            snapshotEntries entries depth charged recognizesStateCommandIds

/-- The visits of the elements of an array at `depth`. -/
def snapshotItems : List JsValue → Nat → SnapshotBudget →
    (stateCommandArray : Bool) → Option SnapshotBudget
  | [], _, budget, _ => some budget
  | item :: rest, depth, budget, stateCommandArray =>
      (snapshotValue item (depth + 1) budget false false
        (stateCommandArray && isStringValue item)).bind fun charged =>
          snapshotItems rest depth charged stateCommandArray

/-- The visits of the properties of an object at `depth`. -/
def snapshotEntries : Record → Nat → SnapshotBudget →
    (recognizesStateCommandIds : Bool) → Option SnapshotBudget
  | [], _, budget, _ => some budget
  | (name, value) :: rest, depth, budget, recognizesStateCommandIds =>
      (countBytes name budget false).bind fun charged =>
        (snapshotValue value (depth + 1) charged
          (recognizesStateCommandIds && decide (depth = 0) &&
            decide (name = processedCommandIdsKey))
          false false).bind fun charged =>
            snapshotEntries rest depth charged recognizesStateCommandIds

end

/-- `snapshot(value)`: the value itself, once it is accepted. -/
def snapshot (value : JsValue) : Checked JsValue :=
  match snapshotValue value 0 .zero false false false with
  | some _ => .ok value
  | none => .error .invalid

/-- `snapshot` of a state, which recognizes the command array. -/
def stateSnapshot (value : JsValue) : Checked JsValue :=
  match snapshotValue value 0 .zero false true false with
  | some _ => .ok value
  | none => .error .invalid

/-! ## Total cost -/

/-- The charge of one scalar. -/
def scalarCost (stateCommandScalar : Bool) : SnapshotBudget :=
  if stateCommandScalar then { SnapshotBudget.zero with stateCommandNodes := 1 }
  else { SnapshotBudget.zero with nodes := 1 }

/-- The charge of the bytes of a string. -/
def bytesCost (value : JsString) (stateCommandScalar : Bool) :
    SnapshotBudget :=
  if stateCommandScalar then
    { SnapshotBudget.zero with stateCommandBytes := utf8Length value }
  else
    { SnapshotBudget.zero with bytes := utf8Length value }

/-- The charge of the slots of an array. -/
def slotsCost (length : Nat) (stateCommandArray : Bool) : SnapshotBudget :=
  if stateCommandArray then
    { SnapshotBudget.zero with stateCommandNodes := length }
  else
    { SnapshotBudget.zero with nodes := length }

mutual

/-- Everything a value is charged; `commands` marks the command array. -/
def valueCost : JsValue →
    (commands recognizes scalar : Bool) → SnapshotBudget
  | .string value, _, _, scalar => scalarCost scalar + bytesCost value scalar
  | .array items, commands, _, _ =>
      scalarCost false +
        (slotsCost items.length commands + itemsCost items commands)
  | .object entries, _, recognizes, _ =>
      scalarCost false + entriesCost entries recognizes
  | _, _, _, scalar => scalarCost scalar

/-- Everything the elements of an array are charged. -/
def itemsCost : List JsValue → (commands : Bool) → SnapshotBudget
  | [], _ => .zero
  | item :: rest, commands =>
      valueCost item false false (commands && isStringValue item) +
        itemsCost rest commands

/-- Everything the properties of an object are charged. -/
def entriesCost : Record → (recognizes : Bool) → SnapshotBudget
  | [], _ => .zero
  | (name, value) :: rest, recognizes =>
      bytesCost name false +
        (valueCost value
          (recognizes && decide (name = processedCommandIdsKey))
          false false +
        entriesCost rest recognizes)

end

mutual

/-- The shape a snapshot accepts below `depth`. -/
def Snapshotable : JsValue → Nat → Prop
  | .undefined, _ => False
  | .exotic, _ => False
  | .number value, depth =>
      depth ≤ maxSnapshotDepth ∧ value.isFinite = true
  | .array items, depth =>
      depth ≤ maxSnapshotDepth ∧ items.length ≤ maxCommands ∧
        SnapshotableItems items depth
  | .object entries, depth =>
      depth ≤ maxSnapshotDepth ∧ entries.length ≤ maxCommands ∧
        SnapshotableEntries entries depth
  | _, depth => depth ≤ maxSnapshotDepth

/-- The elements of an array at `depth` are accepted. -/
def SnapshotableItems : List JsValue → Nat → Prop
  | [], _ => True
  | item :: rest, depth =>
      Snapshotable item (depth + 1) ∧ SnapshotableItems rest depth

/-- The properties of an object at `depth` are accepted. -/
def SnapshotableEntries : Record → Nat → Prop
  | [], _ => True
  | (_, value) :: rest, depth =>
      Snapshotable value (depth + 1) ∧ SnapshotableEntries rest depth

end

theorem itemsCost_append (first second : List JsValue) :
    itemsCost (first ++ second) false =
      itemsCost first false + itemsCost second false := by
  induction first with
  | nil => rw [List.nil_append, itemsCost, SnapshotBudget.zero_add]
  | cons item rest inductionHypothesis =>
      rw [List.cons_append, itemsCost, itemsCost, inductionHypothesis,
        SnapshotBudget.add_assoc]

theorem entriesCost_append
    (first second : Record)
    (recognizes : Bool) :
    entriesCost (first ++ second) recognizes =
      entriesCost first recognizes + entriesCost second recognizes := by
  induction first with
  | nil => rw [List.nil_append, entriesCost, SnapshotBudget.zero_add]
  | cons entry rest inductionHypothesis =>
      obtain ⟨name, value⟩ := entry
      rw [List.cons_append, entriesCost, entriesCost, inductionHypothesis,
        SnapshotBudget.add_assoc, SnapshotBudget.add_assoc]

theorem snapshotableItems_append
    {first second : List JsValue}
    {depth : Nat} :
    SnapshotableItems (first ++ second) depth ↔
      SnapshotableItems first depth ∧ SnapshotableItems second depth := by
  induction first with
  | nil => simp [SnapshotableItems]
  | cons item rest inductionHypothesis =>
      rw [List.cons_append, SnapshotableItems, SnapshotableItems,
        inductionHypothesis, and_assoc]

theorem snapshotableEntries_append
    {first second : Record}
    {depth : Nat} :
    SnapshotableEntries (first ++ second) depth ↔
      SnapshotableEntries first depth ∧
        SnapshotableEntries second depth := by
  induction first with
  | nil => simp [SnapshotableEntries]
  | cons entry rest inductionHypothesis =>
      obtain ⟨name, value⟩ := entry
      rw [List.cons_append, SnapshotableEntries, SnapshotableEntries,
        inductionHypothesis, and_assoc]

/--
`visit` charges `cost` and fails only when `shape` is violated or a limit is
exceeded.
-/
def Charges (visit : SnapshotBudget → Option SnapshotBudget)
    (shape : Prop) (cost : SnapshotBudget) : Prop :=
  ∀ budget, budget.Within → ∀ after,
    visit budget = some after ↔
      shape ∧ after = budget + cost ∧ after.Within

namespace Charges

protected theorem pure :
    Charges some True .zero := by
  intro budget within after
  simp only [Option.some.injEq, SnapshotBudget.add_zero, true_and]
  constructor
  · rintro rfl
    exact ⟨rfl, within⟩
  · rintro ⟨rfl, _⟩
    rfl

protected theorem bind
    {first second : SnapshotBudget → Option SnapshotBudget}
    {firstShape secondShape : Prop}
    {firstCost secondCost : SnapshotBudget}
    (firstCharges : Charges first firstShape firstCost)
    (secondCharges : Charges second secondShape secondCost) :
    Charges (fun budget => (first budget).bind second)
      (firstShape ∧ secondShape) (firstCost + secondCost) := by
  intro budget within after
  rw [Option.bind_eq_some_iff]
  constructor
  · rintro ⟨middle, firstVisit, secondVisit⟩
    obtain ⟨firstOk, rfl, middleWithin⟩ :=
      (firstCharges budget within middle).mp firstVisit
    obtain ⟨secondOk, rfl, afterWithin⟩ :=
      (secondCharges _ middleWithin after).mp secondVisit
    exact ⟨⟨firstOk, secondOk⟩, SnapshotBudget.add_assoc _ _ _, afterWithin⟩
  · rintro ⟨⟨firstOk, secondOk⟩, rfl, afterWithin⟩
    rw [← SnapshotBudget.add_assoc] at afterWithin ⊢
    exact ⟨budget + firstCost,
      (firstCharges budget within _).mpr ⟨firstOk, rfl, afterWithin.of_add⟩,
      (secondCharges _ afterWithin.of_add _).mpr ⟨secondOk, rfl, afterWithin⟩⟩

protected theorem guard
    {condition : Prop}
    [Decidable condition]
    {visit : SnapshotBudget → Option SnapshotBudget}
    {shape : Prop}
    {cost : SnapshotBudget}
    (charges : Charges visit shape cost) :
    Charges (fun budget => if condition then none else visit budget)
      (¬ condition ∧ shape) cost := by
  intro budget within after
  by_cases fails : condition
  · simp [fails]
  · simp only [fails, ↓reduceIte, not_false_eq_true, true_and]
    exact charges budget within after

protected theorem congr
    {visit : SnapshotBudget → Option SnapshotBudget}
    {shape other : Prop}
    {cost : SnapshotBudget}
    (charges : Charges visit shape cost)
    (same : shape ↔ other) :
    Charges visit other cost := by
  intro budget within after
  rw [← same]
  exact charges budget within after

end Charges

theorem charges_countBytes
    (value : JsString)
    (stateCommandScalar : Bool) :
    Charges (fun budget => countBytes value budget stateCommandScalar) True
      (bytesCost value stateCommandScalar) := by
  intro budget within after
  obtain ⟨bytes, nodes, commandBytes, commandNodes⟩ := within
  cases stateCommandScalar
  · simp only [countBytes, bytesCost, boundedUtf8ByteLength_eq,
      Bool.false_eq_true, ↓reduceIte, Option.bind_eq_bind,
      Option.bind_eq_some_iff, Option.ite_none_right_eq_some,
      Option.ite_none_left_eq_some, Option.some.injEq, true_and]
    constructor
    · rintro ⟨_, ⟨fits, rfl⟩, _, rfl⟩
      exact ⟨rfl, ⟨by simpa using (by omega), nodes, commandBytes,
        commandNodes⟩⟩
    · rintro ⟨rfl, fits⟩
      have fitsBytes :
          budget.bytes + utf8Length value ≤ maxSnapshotBytes := fits.bytes
      exact ⟨_, ⟨by omega, rfl⟩, by omega, rfl⟩
  · simp only [countBytes, bytesCost, boundedUtf8ByteLength_eq,
      ↓reduceIte, Option.bind_eq_bind,
      Option.bind_eq_some_iff, Option.ite_none_right_eq_some,
      Option.ite_none_left_eq_some, Option.some.injEq, true_and]
    constructor
    · rintro ⟨_, ⟨fits, rfl⟩, _, rfl⟩
      exact ⟨rfl, ⟨bytes, nodes, by simpa using (by omega), commandNodes⟩⟩
    · rintro ⟨rfl, fits⟩
      have fitsBytes :
          budget.stateCommandBytes + utf8Length value ≤
            maxStateCommandBytes := fits.stateCommandBytes
      exact ⟨_, ⟨by omega, rfl⟩, by omega, rfl⟩

theorem charges_countSlots
    (length : Nat)
    (stateCommandArray : Bool) :
    Charges (fun budget => countSlots length budget stateCommandArray) True
      (slotsCost length stateCommandArray) := by
  intro budget within after
  obtain ⟨bytes, nodes, commandBytes, commandNodes⟩ := within
  cases stateCommandArray
  · simp only [countSlots, slotsCost, Bool.false_eq_true, ↓reduceIte,
      Option.ite_none_left_eq_some, Option.some.injEq, true_and]
    constructor
    · rintro ⟨fits, rfl⟩
      exact ⟨rfl, ⟨bytes, by simpa using fits, commandBytes, commandNodes⟩⟩
    · rintro ⟨rfl, fits⟩
      exact ⟨by simpa using fits.nodes, rfl⟩
  · simp only [countSlots, slotsCost, ↓reduceIte,
      Option.ite_none_left_eq_some, Option.some.injEq, true_and]
    constructor
    · rintro ⟨fits, rfl⟩
      exact ⟨rfl, ⟨bytes, nodes, commandBytes, by simpa using fits⟩⟩
    · rintro ⟨rfl, fits⟩
      exact ⟨by simpa using fits.stateCommandNodes, rfl⟩

theorem charges_countScalar
    (stateCommandScalar : Bool) :
    Charges (fun budget => countScalar budget stateCommandScalar) True
      (scalarCost stateCommandScalar) :=
  charges_countSlots 1 stateCommandScalar

mutual

theorem charges_snapshotValue :
    ∀ (value : JsValue) (depth : Nat) (commands recognizes scalar : Bool),
      (recognizes = true → depth = 0) →
      Charges
        (fun budget =>
          snapshotValue value depth budget commands recognizes scalar)
        (Snapshotable value depth)
        (valueCost value commands recognizes scalar)
  | .undefined, _, _, _, _, _ => by
      intro budget within after
      simp [snapshotValue, Snapshotable]
  | .exotic, _, _, _, _, _ => by
      intro budget within after
      simp [snapshotValue, Snapshotable]
  | .null, depth, commands, recognizes, scalar, _ => by
      simp only [snapshotValue, Snapshotable, valueCost]
      exact (charges_countScalar scalar).guard.congr (by simp)
  | .bool value, depth, commands, recognizes, scalar, _ => by
      simp only [snapshotValue, Snapshotable, valueCost]
      exact (charges_countScalar scalar).guard.congr (by simp)
  | .number value, depth, commands, recognizes, scalar, _ => by
      simp only [snapshotValue, Snapshotable, valueCost]
      have checked :
          Charges
            (fun budget =>
              if value.isFinite = true then some budget else none)
            (value.isFinite = true) .zero := by
        intro budget within after
        by_cases finite : value.isFinite = true
        · simpa [finite] using Charges.pure budget within after
        · simp [finite]
      have visited :=
        (charges_countScalar scalar).bind checked
      rw [SnapshotBudget.add_zero] at visited
      exact visited.guard.congr (by simp)
  | .string value, depth, commands, recognizes, scalar, _ => by
      simp only [snapshotValue, Snapshotable, valueCost]
      exact ((charges_countScalar scalar).bind
        (charges_countBytes value scalar)).guard.congr (by simp)
  | .array items, depth, commands, recognizes, scalar, _ => by
      simp only [snapshotValue, Snapshotable, valueCost]
      exact ((charges_countScalar false).bind
        ((charges_countSlots items.length commands).bind
          (charges_snapshotItems items depth commands)).guard).guard.congr
            (by simp)
  | .object entries, depth, commands, recognizes, scalar, root => by
      simp only [snapshotValue, Snapshotable, valueCost]
      exact ((charges_countScalar false).bind
        (charges_snapshotEntries entries depth recognizes
          root).guard).guard.congr (by simp)

theorem charges_snapshotItems :
    ∀ (items : List JsValue) (depth : Nat) (commands : Bool),
      Charges (fun budget => snapshotItems items depth budget commands)
        (SnapshotableItems items depth) (itemsCost items commands)
  | [], _, _ => by
      simp only [snapshotItems, SnapshotableItems, itemsCost]
      exact Charges.pure
  | item :: rest, depth, commands => by
      simp only [snapshotItems, SnapshotableItems, itemsCost]
      exact (charges_snapshotValue item (depth + 1) false false _
        (by simp)).bind (charges_snapshotItems rest depth commands)

theorem charges_snapshotEntries :
    ∀ (entries : Record) (depth : Nat) (recognizes : Bool),
      (recognizes = true → depth = 0) →
      Charges (fun budget => snapshotEntries entries depth budget recognizes)
        (SnapshotableEntries entries depth) (entriesCost entries recognizes)
  | [], _, _, _ => by
      simp only [snapshotEntries, SnapshotableEntries, entriesCost]
      exact Charges.pure
  | (name, value) :: rest, depth, recognizes, root => by
      have marked :
          (recognizes && decide (depth = 0) &&
              decide (name = processedCommandIdsKey)) =
            (recognizes && decide (name = processedCommandIdsKey)) := by
        cases recognizes with
        | false => rfl
        | true => simp [root rfl]
      simp only [snapshotEntries, SnapshotableEntries, entriesCost, marked]
      exact ((charges_countBytes name false).bind
        ((charges_snapshotValue value (depth + 1) _ false false
          (by simp)).bind
            (charges_snapshotEntries rest depth recognizes root))).congr
              (by simp)

end

theorem snapshot_eq_ok
    {value captured : JsValue} :
    snapshot value = .ok captured ↔
      captured = value ∧ Snapshotable value 0 ∧
        (valueCost value false false false).Within := by
  have charged :=
    charges_snapshotValue value 0 false false false (by simp)
      .zero SnapshotBudget.within_zero
  unfold snapshot
  cases visited : snapshotValue value 0 .zero false false false with
  | none =>
      simp only [reduceCtorEq, false_iff, not_and]
      rintro rfl shape within
      have accepted :
          snapshotValue captured 0 .zero false false false = some _ :=
        (charged _).mpr ⟨shape, rfl, by simpa using within⟩
      rw [visited] at accepted
      cases accepted
  | some after =>
      obtain ⟨shape, rfl, within⟩ := (charged after).mp visited
      simp only [Except.ok.injEq, eq_comm, shape, true_and]
      constructor
      · rintro rfl
        exact ⟨rfl, by simpa using within⟩
      · rintro ⟨rfl, _⟩
        rfl

theorem stateSnapshot_of_within
    {value : JsValue}
    (shape : Snapshotable value 0)
    (within : (valueCost value false true false).Within) :
    stateSnapshot value = .ok value := by
  have accepted : snapshotValue value 0 .zero false true false = some _ :=
    (charges_snapshotValue value 0 false true false (by simp)
      .zero SnapshotBudget.within_zero _).mpr
        ⟨shape, rfl, by simpa using within⟩
  unfold stateSnapshot
  rw [accepted]

end Selene.Revision
