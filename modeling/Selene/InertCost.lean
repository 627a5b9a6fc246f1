import Selene.InertCopy

/-!
# The cost of a value

A traversal that charges a value adds the same totals wherever it starts, as
long as they keep to the budgets (`Budgets.ends_charge`).  So a value whose
parts were charged as parts of another one is taken if it costs no more.
-/

namespace Js

namespace Totals

/-- Both totals together. -/
def add (first second : Totals) : Totals :=
  ⟨first.bytes + second.bytes, first.nodes + second.nodes⟩

theorem add_assoc (first second third : Totals) :
    (first.add second).add third = first.add (second.add third) := by
  simp only [add, Nat.add_assoc]

end Totals

namespace Budgets

/-- The totals are within the budgets. -/
def Holds (budgets : Budgets) (totals : Totals) : Prop :=
  totals.bytes ≤ budgets.maxBytes ∧ totals.nodes ≤ budgets.maxNodes

/-- A traversal adds the same totals wherever it starts. -/
def Costs (budgets : Budgets) (traverse : Totals → Option Totals)
    (cost : Totals) : Prop :=
  ∀ totals, budgets.Holds (totals.add cost) →
    traverse totals = some (totals.add cost)

variable {first second : Totals → Option Totals} {budgets : Budgets}

theorem Costs.bind
    {cost rest : Totals}
    (start : budgets.Costs first cost)
    (next : budgets.Costs second rest) :
    budgets.Costs (fun totals => (first totals).bind second)
      (cost.add rest) := by
  intro totals holds
  rw [← Totals.add_assoc] at holds ⊢
  have middle : budgets.Holds (totals.add cost) :=
    ⟨(Nat.le_add_right _ _).trans holds.1, (Nat.le_add_right _ _).trans holds.2⟩
  show (first totals).bind second = _
  rw [start totals middle, Option.bind_some, next _ holds]

/-- A traversal that ends keeps to the budgets, and has costs. -/
def Ends (budgets : Budgets) (traverse : Totals → Option Totals) : Prop :=
  ∀ totals after, traverse totals = some after →
    ∃ cost, after = totals.add cost ∧
      (budgets.Holds totals → budgets.Holds after) ∧
      budgets.Costs traverse cost

theorem Ends.bind
    (start : budgets.Ends first)
    (next : budgets.Ends second) :
    budgets.Ends fun totals => (first totals).bind second := by
  intro totals after ended
  obtain ⟨middle, isMiddle, isAfter⟩ := Option.bind_eq_some_iff.mp ended
  obtain ⟨cost, rfl, holds, costs⟩ := start _ _ isMiddle
  obtain ⟨rest, rfl, stillHolds, others⟩ := next _ _ isAfter
  exact ⟨cost.add rest, Totals.add_assoc _ _ _, stillHolds ∘ holds,
    costs.bind others⟩

theorem ends_addBytes (budgets : Budgets) (bytes : Nat) :
    budgets.Ends (budgets.addBytes bytes) := by
  intro totals after ended
  rw [addBytes] at ended
  split at ended
  · rename_i fits
    cases ended
    exact ⟨⟨bytes, 0⟩, rfl, fun holds => ⟨fits, holds.2⟩,
      fun other holds => if_pos holds.1⟩
  · cases ended

theorem ends_addName (budgets : Budgets) (name : JsString) :
    budgets.Ends (budgets.addName name) := by
  unfold addName
  split
  · intro totals after ended
    cases ended
  · exact budgets.ends_addBytes _

theorem ends_addNode (budgets : Budgets) (properties : Nat) :
    budgets.Ends (budgets.addNode properties) := by
  intro totals after ended
  rw [addNode] at ended
  split at ended
  · rename_i fits
    cases ended
    exact ⟨⟨0, 1⟩, rfl, fun holds => ⟨holds.1, fits.1⟩,
      fun other holds => if_pos ⟨holds.2, fits.2⟩⟩
  · cases ended

theorem ends_some (budgets : Budgets) : budgets.Ends some := by
  intro totals after ended
  cases ended
  exact ⟨.zero, rfl, id, fun other _ => rfl⟩

theorem Ends.guarded
    {condition : Prop}
    [Decidable condition]
    {traverse : Totals → Option Totals}
    (inside : budgets.Ends traverse) :
    budgets.Ends fun totals => if condition then traverse totals else none := by
  by_cases holds : condition
  · simpa only [holds, ↓reduceIte] using inside
  · intro totals after ended
    simp only [holds, ↓reduceIte, reduceCtorEq] at ended

theorem ends_none (budgets : Budgets) : budgets.Ends fun _ => none := by
  intro totals after ended
  cases ended

mutual

theorem ends_charge (budgets : Budgets) :
    ∀ (value : JsValue) (depth : Nat), budgets.Ends (budgets.charge value depth)
  | .undefined, _ => budgets.ends_none
  | .exotic, _ => budgets.ends_none
  | .null, _ => (budgets.ends_addBytes 4).guarded
  | .bool _, _ => (budgets.ends_addBytes 5).guarded
  | .number _, _ => (budgets.ends_addBytes 24).guarded
  | .string _, _ => (budgets.ends_addBytes _).guarded
  | .array items, depth => ((budgets.ends_addNode _).bind
      (ends_chargeItems budgets 0 items (depth + 1))).guarded
  | .object entries, depth => ((budgets.ends_addNode _).bind
      (ends_chargeEntries budgets entries (depth + 1))).guarded

theorem ends_chargeItems (budgets : Budgets) (index : Nat) :
    ∀ (items : List JsValue) (depth : Nat),
      budgets.Ends (budgets.chargeItems index items depth)
  | [], _ => budgets.ends_some
  | item :: rest, depth => (budgets.ends_addName _).bind
      ((ends_charge budgets item depth).bind
        (ends_chargeItems budgets (index + 1) rest depth))

theorem ends_chargeEntries (budgets : Budgets) :
    ∀ (entries : Record) (depth : Nat),
      budgets.Ends (budgets.chargeEntries entries depth)
  | [], _ => budgets.ends_some
  | (name, value) :: rest, depth => by
      have others := ends_chargeEntries budgets rest depth
      have copied := (budgets.ends_addName name).bind
        ((ends_charge budgets value depth).bind others)
      by_cases skipped : name = js "length"
      · simpa only [chargeEntries, skipped, ↓reduceIte] using others
      · simpa only [chargeEntries, skipped, ↓reduceIte] using copied

end

/-! ### Fields -/

variable {budgets : Budgets} {name : JsString} {value : JsValue} {depth : Nat}
  {totals after cost rest : Totals}

theorem field_of_chargeEntries
    {field : Option JsValue}
    {others : List Record.Field}
    (charged : budgets.chargeEntries
      (Record.ofFields ((name, field) :: others)) depth totals = some after)
    (kept : name ≠ js "length")
    (holds : budgets.Holds totals) :
    ∃ next, budgets.chargeEntries (Record.ofFields others) depth next =
        some after ∧
      budgets.Holds next ∧ totals.Within next ∧
      ∀ value ∈ field, ∃ cost, budgets.Costs (budgets.charge value depth) cost ∧
        totals.bytes + utf8Length name + cost.bytes ≤ next.bytes ∧
        totals.nodes + cost.nodes ≤ next.nodes := by
  cases field with
  | none => exact ⟨totals, charged, holds, ⟨le_rfl, le_rfl⟩, by simp⟩
  | some value =>
      rw [Record.ofFields_cons, Record.optionalEntry, List.cons_append,
        List.nil_append, chargeEntries, if_neg kept] at charged
      obtain ⟨named, isNamed, inside⟩ := Option.bind_eq_some_iff.mp charged
      obtain ⟨next, isNext, others⟩ := Option.bind_eq_some_iff.mp inside
      obtain ⟨cost, rfl, still, costs⟩ :=
        budgets.ends_charge value depth _ _ isNext
      rw [addName] at isNamed
      split at isNamed
      · cases isNamed
      · obtain ⟨_, _, namedHolds, _⟩ :=
          budgets.ends_addBytes _ _ _ isNamed
        rw [addBytes] at isNamed
        split at isNamed
        · cases isNamed
          refine ⟨_, others, still (namedHolds holds), ⟨?_, ?_⟩, ?_⟩
          · exact (Nat.le_add_right _ _).trans (Nat.le_add_right _ _)
          · exact Nat.le_add_right _ _
          · intro present isPresent
            cases Option.some.inj isPresent
            exact ⟨cost, costs, le_rfl, le_rfl⟩
        · cases isNamed

theorem costs_nil : budgets.Costs (budgets.chargeEntries [] depth) .zero :=
  fun _ _ => rfl

theorem Costs.cons
    {entries : Record}
    (kept : name ≠ js "length")
    (short : name.length ≤ budgets.maxText)
    (inside : budgets.Costs (budgets.charge value depth) cost)
    (others : budgets.Costs (budgets.chargeEntries entries depth) rest) :
    budgets.Costs (budgets.chargeEntries ((name, value) :: entries) depth)
      ((Totals.mk (utf8Length name) 0).add (cost.add rest)) := by
  have named : budgets.Costs (budgets.addName name) ⟨utf8Length name, 0⟩ := by
    intro totals holds
    rw [addName, if_neg (fun long => Nat.not_lt.mpr short long.2)]
    exact if_pos holds.1
  simpa only [chargeEntries, kept, ↓reduceIte] using
    named.bind (inside.bind others)

theorem costs_string
    {text : JsString}
    (shallow : depth ≤ budgets.maxDepth)
    (short : text.length ≤ budgets.maxText) :
    budgets.Costs (budgets.charge (.string text) depth)
      ⟨utf8Length text, 0⟩ := by
  intro totals holds
  rw [charge, if_pos ⟨shallow, short⟩]
  exact if_pos holds.1

theorem costs_bool
    {flag : Bool}
    (shallow : depth ≤ budgets.maxDepth) :
    budgets.Costs (budgets.charge (.bool flag) depth) ⟨5, 0⟩ := by
  intro totals holds
  rw [charge, if_pos shallow]
  exact if_pos holds.1

theorem admits_of_costs
    {entries : Record}
    (inside : budgets.Costs (budgets.chargeEntries entries 1) cost)
    (few : entries.length ≤ budgets.maxItems)
    (fits : cost.bytes ≤ budgets.maxBytes)
    (nodes : cost.nodes + 1 ≤ budgets.maxNodes) :
    budgets.Admits (.object entries) := by
  have entered : budgets.addNode entries.length .zero = some ⟨0, 1⟩ :=
    if_pos ⟨(Nat.le_add_left _ _).trans nodes, few⟩
  have ended := inside ⟨0, 1⟩
    ⟨by simpa [Totals.add] using fits, by simpa [Totals.add, Nat.add_comm] using nodes⟩
  rw [Admits, charge, if_pos (Nat.zero_le _), entered, Option.bind_some, ended]
  rfl

end Budgets

end Js
