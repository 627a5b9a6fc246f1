import Selene.JsonTextSize
import Selene.JsValue

/-!
# Bounded inert values

A boundary copies a foreign value before it looks at it, and refuses values
that are not plain data or exceed its budgets: bytes and objects in total,
nesting, properties of one object, units of one string.  `Budgets.charge`
is that traversal with its running totals.

What is admitted as part of a larger value is admitted on its own
(`charge_mono`): a smaller start never runs out earlier.
-/

namespace Js

/-- The budgets of a boundary. -/
structure Budgets where
  maxBytes : Nat
  maxNodes : Nat
  maxDepth : Nat
  maxItems : Nat
  maxText : Nat
  -- Whether property names count as texts.
  boundsNames : Bool

/-- The running totals of a traversal. -/
structure Totals where
  bytes : Nat
  nodes : Nat

namespace Totals

/-- The totals before anything was visited. -/
def zero : Totals := ⟨0, 0⟩

/-- No total is larger. -/
def Within (first second : Totals) : Prop :=
  first.bytes ≤ second.bytes ∧ first.nodes ≤ second.nodes

theorem zero_within (totals : Totals) : zero.Within totals :=
  ⟨Nat.zero_le _, Nat.zero_le _⟩

end Totals

namespace Budgets

/-- Charge bytes. -/
def addBytes (budgets : Budgets) (bytes : Nat) (totals : Totals) :
    Option Totals :=
  if totals.bytes + bytes ≤ budgets.maxBytes then
    some { totals with bytes := totals.bytes + bytes }
  else
    none

/-- Charge the name of a property. -/
def addName (budgets : Budgets) (name : JsString) (totals : Totals) :
    Option Totals :=
  if budgets.boundsNames ∧ budgets.maxText < name.length then none
  else budgets.addBytes (utf8Length name) totals

/-- Charge an object with so many own properties. -/
def addNode (budgets : Budgets) (properties : Nat) (totals : Totals) :
    Option Totals :=
  if totals.nodes + 1 ≤ budgets.maxNodes ∧
      properties ≤ budgets.maxItems then
    some { totals with nodes := totals.nodes + 1 }
  else
    none

mutual

/-- Charge a value at a depth; `none` refuses it. -/
def charge (budgets : Budgets) : JsValue → Nat → Totals → Option Totals
  | .undefined, _, _ => none
  | .exotic, _, _ => none
  | .null, depth, totals =>
      if depth ≤ budgets.maxDepth then budgets.addBytes 4 totals else none
  | .bool _, depth, totals =>
      if depth ≤ budgets.maxDepth then budgets.addBytes 5 totals else none
  | .number value, depth, totals =>
      if depth ≤ budgets.maxDepth ∧ value.isFinite then
        budgets.addBytes 24 totals
      else
        none
  | .string value, depth, totals =>
      if depth ≤ budgets.maxDepth ∧ value.length ≤ budgets.maxText then
        budgets.addBytes (utf8Length value) totals
      else
        none
  | .array items, depth, totals =>
      if depth ≤ budgets.maxDepth then
        -- The own properties of an array are its indices and `length`.
        (budgets.addNode (items.length + 1) totals).bind fun entered =>
          chargeItems budgets 0 items (depth + 1) entered
      else
        none
  | .object entries, depth, totals =>
      if depth ≤ budgets.maxDepth then
        (budgets.addNode entries.length totals).bind fun entered =>
          chargeEntries budgets entries (depth + 1) entered
      else
        none

/-- Charge the items of an array from an index on. -/
def chargeItems (budgets : Budgets) (index : Nat) :
    List JsValue → Nat → Totals → Option Totals
  | [], _, totals => some totals
  | item :: rest, depth, totals =>
      (budgets.addName (decimalDigits index) totals).bind fun named =>
        (charge budgets item depth named).bind fun charged =>
          chargeItems budgets (index + 1) rest depth charged

/-- Charge the properties of an object; one named `length` is not copied. -/
def chargeEntries (budgets : Budgets) :
    Record → Nat → Totals → Option Totals
  | [], _, totals => some totals
  | (name, value) :: rest, depth, totals =>
      if name = js "length" then
        chargeEntries budgets rest depth totals
      else
        (budgets.addName name totals).bind fun named =>
          (charge budgets value depth named).bind fun charged =>
            chargeEntries budgets rest depth charged

end

/-- The boundary takes the value. -/
def Admits (budgets : Budgets) (value : JsValue) : Prop :=
  (budgets.charge value 0 .zero).isSome

instance (budgets : Budgets) (value : JsValue) :
    Decidable (budgets.Admits value) :=
  inferInstanceAs (Decidable (_ = true))

/-! ## A smaller start -/

/--
Whatever the first computation takes, the second takes from smaller totals,
with a smaller result.
-/
def Eases (first second : Totals → Option Totals) : Prop :=
  ∀ totals smaller after,
    first totals = some after →
      smaller.Within totals →
        ∃ smallerAfter, second smaller = some smallerAfter ∧
          smallerAfter.Within after

theorem eases_addBytes
    (budgets : Budgets)
    (bytes : Nat) :
    Eases (budgets.addBytes bytes) (budgets.addBytes bytes) := by
  intro totals smaller after added within
  unfold addBytes at added ⊢
  split at added
  · cases added
    have fewer := within.1
    rw [if_pos (by omega)]
    exact ⟨_, rfl, Nat.add_le_add_right within.1 _, within.2⟩
  · cases added

theorem eases_addName
    (budgets : Budgets)
    (name : JsString) :
    Eases (budgets.addName name) (budgets.addName name) := by
  intro totals smaller after added within
  unfold addName at added ⊢
  split at added
  · cases added
  · rename_i bounded
    rw [if_neg bounded]
    exact eases_addBytes budgets _ _ _ _ added within

theorem eases_addNode
    (budgets : Budgets)
    (properties : Nat) :
    Eases (budgets.addNode properties) (budgets.addNode properties) := by
  intro totals smaller after added within
  unfold addNode at added ⊢
  split at added
  · rename_i bounded
    cases added
    have fewer := within.2
    rw [if_pos ⟨by omega, bounded.2⟩]
    exact ⟨_, rfl, within.1, Nat.add_le_add_right within.2 _⟩
  · cases added

theorem Eases.bind
    {first second firstNext secondNext : Totals → Option Totals}
    (start : Eases first second)
    (next : Eases firstNext secondNext) :
    Eases (fun totals => (first totals).bind firstNext)
      (fun totals => (second totals).bind secondNext) := by
  intro totals smaller after done within
  obtain ⟨middle, firstDone, nextDone⟩ := Option.bind_eq_some_iff.mp done
  obtain ⟨smallerMiddle, smallerFirst, withinMiddle⟩ :=
    start _ _ _ firstDone within
  obtain ⟨smallerAfter, smallerNext, withinAfter⟩ :=
    next _ _ _ nextDone withinMiddle
  exact ⟨smallerAfter, by simp [smallerFirst, smallerNext], withinAfter⟩

theorem Eases.guarded
    {strict weak : Prop}
    [Decidable strict]
    [Decidable weak]
    {first second : Totals → Option Totals}
    (weakens : strict → weak)
    (inside : Eases first second) :
    Eases (fun totals => if strict then first totals else none)
      (fun totals => if weak then second totals else none) := by
  intro totals smaller after done within
  by_cases holds : strict
  · simp only [holds, ↓reduceIte] at done
    simp only [weakens holds, ↓reduceIte]
    exact inside _ _ _ done within
  · simp only [holds, ↓reduceIte, reduceCtorEq] at done

theorem eases_some : Eases some some := by
  intro totals smaller after done within
  cases done
  exact ⟨smaller, rfl, within⟩

theorem eases_none (second : Totals → Option Totals) :
    Eases (fun _ => none) second := by
  intro totals smaller after done
  cases done

mutual

theorem charge_eases (budgets : Budgets) :
    ∀ (value : JsValue) {depth shallower : Nat},
      shallower ≤ depth →
        Eases (budgets.charge value depth) (budgets.charge value shallower)
  | .undefined, _, _, _ => eases_none _
  | .exotic, _, _, _ => eases_none _
  | .null, _, _, nearer =>
      (eases_addBytes budgets 4).guarded nearer.trans
  | .bool _, _, _, nearer =>
      (eases_addBytes budgets 5).guarded nearer.trans
  | .number _, _, _, nearer =>
      (eases_addBytes budgets 24).guarded
        (And.imp_left nearer.trans)
  | .string _, _, _, nearer =>
      (eases_addBytes budgets _).guarded
        (And.imp_left nearer.trans)
  | .array items, _, _, nearer =>
      ((eases_addNode budgets _).bind
        (chargeItems_eases budgets 0 items (Nat.succ_le_succ nearer))).guarded
          nearer.trans
  | .object entries, _, _, nearer =>
      ((eases_addNode budgets _).bind
        (chargeEntries_eases budgets entries
          (Nat.succ_le_succ nearer))).guarded nearer.trans

theorem chargeItems_eases (budgets : Budgets) (index : Nat) :
    ∀ (items : List JsValue) {depth shallower : Nat},
      shallower ≤ depth →
        Eases (budgets.chargeItems index items depth)
          (budgets.chargeItems index items shallower)
  | [], _, _, _ => eases_some
  | item :: rest, _, _, nearer =>
      (eases_addName budgets _).bind
        ((charge_eases budgets item nearer).bind
          (chargeItems_eases budgets (index + 1) rest nearer))

theorem chargeEntries_eases (budgets : Budgets) :
    ∀ (entries : Record) {depth shallower : Nat},
      shallower ≤ depth →
        Eases (budgets.chargeEntries entries depth)
          (budgets.chargeEntries entries shallower)
  | [], _, _, _ => eases_some
  | (name, value) :: rest, depth, shallower, nearer => by
      have others := chargeEntries_eases budgets rest nearer
      have copied := (eases_addName budgets name).bind
        ((charge_eases budgets value nearer).bind others)
      by_cases skipped : name = js "length"
      · simpa only [chargeEntries, skipped, ↓reduceIte] using others
      · simpa only [chargeEntries, skipped, ↓reduceIte] using copied

end

/-! ## Parts of admitted values -/

variable {budgets : Budgets} {depth : Nat} {totals after : Totals}

theorem admits_of_charge
    {value : JsValue}
    (charged : budgets.charge value depth totals = some after) :
    budgets.Admits value := by
  obtain ⟨alone, isCharged, _⟩ :=
    charge_eases budgets value (Nat.zero_le depth) _ _ _ charged
      (Totals.zero_within totals)
  rw [Admits, isCharged]
  rfl

theorem admits_of_chargeItems
    {items : List JsValue}
    {index : Nat}
    (charged : budgets.chargeItems index items depth totals = some after) :
    ∀ item ∈ items, budgets.Admits item := by
  induction items generalizing index totals with
  | nil => simp
  | cons item rest inductionHypothesis =>
      obtain ⟨named, _, inside⟩ := Option.bind_eq_some_iff.mp charged
      obtain ⟨next, first, others⟩ := Option.bind_eq_some_iff.mp inside
      intro other member
      rcases List.mem_cons.mp member with rfl | later
      · exact admits_of_charge first
      · exact inductionHypothesis others other later

theorem admits_of_chargeEntries
    {entries : Record}
    (charged : budgets.chargeEntries entries depth totals = some after) :
    ∀ entry ∈ entries, entry.1 ≠ js "length" →
      budgets.Admits entry.2 := by
  induction entries generalizing totals with
  | nil => simp
  | cons entry rest inductionHypothesis =>
      obtain ⟨name, value⟩ := entry
      rw [chargeEntries] at charged
      intro other member copied
      split at charged
      · rcases List.mem_cons.mp member with rfl | later
        · exact absurd ‹_› copied
        · exact inductionHypothesis charged other later copied
      · obtain ⟨named, _, inside⟩ := Option.bind_eq_some_iff.mp charged
        obtain ⟨next, first, others⟩ := Option.bind_eq_some_iff.mp inside
        rcases List.mem_cons.mp member with rfl | later
        · exact admits_of_charge first
        · exact inductionHypothesis others other later copied

theorem Admits.item
    {items : List JsValue}
    (admitted : budgets.Admits (.array items)) :
    ∀ item ∈ items, budgets.Admits item := by
  obtain ⟨after, charged⟩ := Option.isSome_iff_exists.mp admitted
  rw [charge, if_pos (Nat.zero_le _)] at charged
  obtain ⟨entered, _, inside⟩ := Option.bind_eq_some_iff.mp charged
  exact admits_of_chargeItems inside

theorem Admits.entry
    {entries : Record}
    (admitted : budgets.Admits (.object entries)) :
    ∀ entry ∈ entries, entry.1 ≠ js "length" →
      budgets.Admits entry.2 := by
  obtain ⟨after, charged⟩ := Option.isSome_iff_exists.mp admitted
  rw [charge, if_pos (Nat.zero_le _)] at charged
  obtain ⟨entered, _, inside⟩ := Option.bind_eq_some_iff.mp charged
  exact admits_of_chargeEntries inside

end Budgets

end Js
