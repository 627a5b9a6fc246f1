import Selene.DesignRevisionSnapshot
import Selene.JsonValue
import Mathlib.Algebra.BigOperators.Group.List.Basic
import Mathlib.Algebra.Order.BigOperators.Group.List

/-!
# Snapshots of documents

What the snapshot of a typed record charges is computed on its document:
`nodes`, `bytes` and `height` are the three measures a limit applies to.  A
document within the limits is captured unchanged (`snapshot_toJs`).
-/

namespace Selene.Revision

open Js

namespace Document

mutual

/-- Nodes a document is charged. -/
def nodes : Json Nat → Nat
  | .array items => 1 + (items.length + nodesItems items)
  | .object entries => 1 + nodesEntries entries
  | _ => 1

/-- Nodes the items are charged. -/
def nodesItems : List (Json Nat) → Nat
  | [] => 0
  | item :: rest => nodes item + nodesItems rest

/-- Nodes the entries are charged. -/
def nodesEntries : List (JsString × Json Nat) → Nat
  | [] => 0
  | (_, value) :: rest => nodes value + nodesEntries rest

end

mutual

/-- Bytes a document is charged. -/
def bytes : Json Nat → Nat
  | .text value => utf8Length value
  | .array items => bytesItems items
  | .object entries => bytesEntries entries
  | _ => 0

/-- Bytes the items are charged. -/
def bytesItems : List (Json Nat) → Nat
  | [] => 0
  | item :: rest => bytes item + bytesItems rest

/-- Bytes the entries are charged, names included. -/
def bytesEntries : List (JsString × Json Nat) → Nat
  | [] => 0
  | (name, value) :: rest =>
      utf8Length name + (bytes value + bytesEntries rest)

end

mutual

/-- Nesting of arrays and objects. -/
def height : Json Nat → Nat
  | .array items => heightItems items
  | .object entries => heightEntries entries
  | _ => 0

/-- One level above the highest item. -/
def heightItems : List (Json Nat) → Nat
  | [] => 0
  | item :: rest => max (height item + 1) (heightItems rest)

/-- One level above the highest value. -/
def heightEntries : List (JsString × Json Nat) → Nat
  | [] => 0
  | (_, value) :: rest => max (height value + 1) (heightEntries rest)

end

attribute [simp] nodes nodesEntries bytes bytesEntries height heightEntries

/-- Bounds on the three measures of a document. -/
structure Fits (document : Json Nat)
    (nodeBound byteBound heightBound : Nat) : Prop where
  nodes : nodes document ≤ nodeBound
  bytes : bytes document ≤ byteBound
  height : height document ≤ heightBound

/-- Bounds on the three measures of the entries of an object. -/
structure FitsEntries (entries : List (JsString × Json Nat))
    (nodeBound byteBound heightBound : Nat) : Prop where
  nodes : nodesEntries entries ≤ nodeBound
  bytes : bytesEntries entries ≤ byteBound
  height : heightEntries entries ≤ heightBound

/-- Longest property name of any record, in bytes. -/
def maxNameBytes : Nat := 40

namespace Fits

variable {α : Type} {encode : α → Json Nat}
  {nodeBound byteBound heightBound : Nat}

theorem mono
    {document : Json Nat}
    {moreNodes moreBytes moreHeight : Nat}
    (fits : Fits document nodeBound byteBound heightBound)
    (nodesFit : nodeBound ≤ moreNodes)
    (bytesFit : byteBound ≤ moreBytes)
    (heightFit : heightBound ≤ moreHeight) :
    Fits document moreNodes moreBytes moreHeight where
  nodes := fits.nodes.trans nodesFit
  bytes := fits.bytes.trans bytesFit
  height := fits.height.trans heightFit

theorem text
    {value : JsString}
    (bytesFit : utf8Length value ≤ byteBound) :
    Fits (.text value) 1 byteBound 0 where
  nodes := le_rfl
  bytes := bytesFit
  height := le_rfl

theorem number (value : Nat) :
    Fits (.number value) 1 0 0 where
  nodes := le_rfl
  bytes := le_rfl
  height := le_rfl

theorem object
    {entries : List (JsString × Json Nat)}
    (fits : FitsEntries entries nodeBound byteBound heightBound) :
    Fits (.object entries) (1 + nodeBound) byteBound heightBound where
  nodes := by
    rw [Document.nodes]
    exact Nat.add_le_add_left fits.nodes 1
  bytes := by
    rw [Document.bytes]
    exact fits.bytes
  height := by
    rw [Document.height]
    exact fits.height

theorem arrayOf
    {items : List α}
    {measure : α → Nat}
    {count : Nat}
    (fits : ∀ item ∈ items,
      Fits (encode item) nodeBound (measure item) heightBound)
    (lengthFits : items.length ≤ count)
    (measureFits : (items.map measure).sum ≤ byteBound) :
    Fits (.array (items.map encode)) (1 + count * (nodeBound + 1))
      byteBound (heightBound + 1) := by
  have sums :
      nodesItems (items.map encode) ≤ items.length * nodeBound ∧
        bytesItems (items.map encode) ≤ (items.map measure).sum ∧
        heightItems (items.map encode) ≤ heightBound + 1 := by
    clear lengthFits measureFits
    induction items with
    | nil => simp [nodesItems, bytesItems, heightItems]
    | cons item rest inductionHypothesis =>
        have first := fits item (by simp)
        have firstNodes := first.nodes
        have firstBytes := first.bytes
        have firstHeight := first.height
        obtain ⟨restNodes, restBytes, restHeight⟩ :=
          inductionHypothesis fun other member =>
            fits other (List.mem_cons_of_mem _ member)
        simp only [List.map_cons, nodesItems, bytesItems, heightItems,
          List.length_cons, List.sum_cons, Nat.succ_mul]
        omega
  have product : items.length * nodeBound ≤ count * nodeBound :=
    Nat.mul_le_mul_right _ lengthFits
  constructor
  · rw [Document.nodes, List.length_map, Nat.mul_succ]
    omega
  · rw [Document.bytes]
    exact sums.2.1.trans measureFits
  · rw [Document.height]
    exact sums.2.2

theorem array
    {items : List α}
    {count : Nat}
    (fits : ∀ item, Fits (encode item) nodeBound byteBound heightBound)
    (lengthFits : items.length ≤ count) :
    Fits (.array (items.map encode)) (1 + count * (nodeBound + 1))
      (count * byteBound) (heightBound + 1) := by
  refine arrayOf (fun item _ => fits item) lengthFits ?_
  simp only [List.map_const', List.sum_replicate_nat]
  exact Nat.mul_le_mul_right _ lengthFits

end Fits

namespace FitsEntries

variable {α : Type} {encode : α → Json Nat}
  {nodeBound byteBound heightBound : Nat}
  {restNodes restBytes restHeight : Nat}

theorem nil : FitsEntries [] 0 0 0 where
  nodes := Nat.le_refl _
  bytes := Nat.le_refl _
  height := Nat.le_refl _

theorem entry
    {name : JsString}
    {value : Json Nat}
    {rest : List (JsString × Json Nat)}
    (nameFits : utf8Length name ≤ maxNameBytes)
    (valueFits : Fits value nodeBound byteBound heightBound)
    (restFits : FitsEntries rest restNodes restBytes restHeight) :
    FitsEntries ((name, value) :: rest) (nodeBound + restNodes)
      (maxNameBytes + byteBound + restBytes)
      (max (heightBound + 1) restHeight) := by
  obtain ⟨valueNodes, valueBytes, valueHeight⟩ := valueFits
  obtain ⟨othersNodes, othersBytes, othersHeight⟩ := restFits
  constructor
  · rw [nodesEntries]
    omega
  · rw [bytesEntries]
    omega
  · rw [heightEntries]
    omega

theorem optional
    {name : JsString}
    {value : Option α}
    {rest : List (JsString × Json Nat)}
    (nameFits : utf8Length name ≤ maxNameBytes)
    (valueFits : ∀ present,
      Fits (encode present) nodeBound byteBound heightBound)
    (restFits : FitsEntries rest restNodes restBytes restHeight) :
    FitsEntries (Json.optionalEntry name (value.map encode) ++ rest)
      (nodeBound + restNodes) (maxNameBytes + byteBound + restBytes)
      (max (heightBound + 1) restHeight) := by
  cases value with
  | none =>
      obtain ⟨othersNodes, othersBytes, othersHeight⟩ := restFits
      exact ⟨by simpa [Json.optionalEntry] using by omega,
        by simpa [Json.optionalEntry] using by omega,
        by simpa [Json.optionalEntry] using by omega⟩
  | some present =>
      exact entry nameFits (valueFits present) restFits

end FitsEntries

mutual

theorem valueCost_toJs :
    ∀ document : Json Nat,
      valueCost document.toJs false false false =
        { SnapshotBudget.zero with
          bytes := bytes document
          nodes := nodes document }
  | .null => rfl
  | .bool _ => rfl
  | .number _ => rfl
  | .text value => by
      ext <;> simp [valueCost, scalarCost, bytesCost, SnapshotBudget.zero]
  | .array items => by
      rw [Json.toJs, valueCost, itemsCost_toJs items, scalarCost, slotsCost,
        Json.toJsItems_eq_map]
      ext <;> simp [SnapshotBudget.zero]
  | .object entries => by
      rw [Json.toJs, valueCost, entriesCost_toJs entries, scalarCost]
      ext <;> simp [SnapshotBudget.zero]

theorem itemsCost_toJs :
    ∀ items : List (Json Nat),
      itemsCost (Json.toJsItems items) false =
        { SnapshotBudget.zero with
          bytes := bytesItems items
          nodes := nodesItems items }
  | [] => rfl
  | item :: rest => by
      rw [Json.toJsItems, itemsCost, Bool.false_and, valueCost_toJs item,
        itemsCost_toJs rest]
      ext <;> simp [SnapshotBudget.zero, nodesItems, bytesItems]

theorem entriesCost_toJs :
    ∀ entries : List (JsString × Json Nat),
      entriesCost (Json.toJsEntries entries) false =
        { SnapshotBudget.zero with
          bytes := bytesEntries entries
          nodes := nodesEntries entries }
  | [] => rfl
  | (name, value) :: rest => by
      rw [Json.toJsEntries, entriesCost, Bool.false_and,
        valueCost_toJs value, entriesCost_toJs rest]
      ext <;> simp [SnapshotBudget.zero, bytesCost]

end

theorem length_le_nodesEntries (entries : List (JsString × Json Nat)) :
    (Json.toJsEntries entries).length ≤ nodesEntries entries := by
  induction entries with
  | nil => exact Nat.le_refl 0
  | cons entry rest inductionHypothesis =>
      obtain ⟨name, value⟩ := entry
      have positive : 1 ≤ nodes value := by
        cases value <;> simp [nodes]
      simp only [Json.toJsEntries_cons, List.length_cons, nodesEntries]
      omega

mutual

theorem snapshotable_toJs :
    ∀ (document : Json Nat) (depth : Nat),
      depth + height document ≤ maxSnapshotDepth →
      nodes document ≤ maxSnapshotNodes →
      Snapshotable document.toJs depth
  | .null, _, high, _ => by
      simpa [Json.toJs, Snapshotable, height] using high
  | .bool _, _, high, _ => by
      simpa [Json.toJs, Snapshotable, height] using high
  | .number _, _, high, _ => by
      simpa [Json.toJs, Snapshotable, height] using high
  | .text _, _, high, _ => by
      simpa [Json.toJs, Snapshotable, height] using high
  | .array items, depth, high, large => by
      simp only [height, nodes] at high large
      refine ⟨by omega, ?_, ?_⟩
      · rw [Json.toJsItems_eq_map, List.length_map]
        unfold maxSnapshotNodes at large
        unfold maxCommands
        omega
      · exact snapshotableItems_toJs items depth high (by omega)
  | .object entries, depth, high, large => by
      simp only [height, nodes] at high large
      have count := length_le_nodesEntries entries
      refine ⟨by omega, ?_, ?_⟩
      · unfold maxSnapshotNodes at large
        unfold maxCommands
        omega
      · exact snapshotableEntries_toJs entries depth high (by omega)

theorem snapshotableItems_toJs :
    ∀ (items : List (Json Nat)) (depth : Nat),
      depth + heightItems items ≤ maxSnapshotDepth →
      nodesItems items ≤ maxSnapshotNodes →
      SnapshotableItems (Json.toJsItems items) depth
  | [], _, _, _ => trivial
  | item :: rest, depth, high, large => by
      simp only [heightItems, nodesItems] at high large
      exact ⟨snapshotable_toJs item (depth + 1) (by omega) (by omega),
        snapshotableItems_toJs rest depth (by omega) (by omega)⟩

theorem snapshotableEntries_toJs :
    ∀ (entries : List (JsString × Json Nat)) (depth : Nat),
      depth + heightEntries entries ≤ maxSnapshotDepth →
      nodesEntries entries ≤ maxSnapshotNodes →
      SnapshotableEntries (Json.toJsEntries entries) depth
  | [], _, _, _ => trivial
  | (name, value) :: rest, depth, high, large => by
      simp only [heightEntries, nodesEntries] at high large
      exact ⟨snapshotable_toJs value (depth + 1) (by omega) (by omega),
        snapshotableEntries_toJs rest depth (by omega) (by omega)⟩

end

end Document

theorem snapshot_toJs
    {document : Json Nat}
    {nodes bytes height : Nat}
    (fits : Document.Fits document nodes bytes height)
    (nodesFit : nodes ≤ 10000)
    (bytesFit : bytes ≤ 1000000)
    (heightFit : height ≤ 32) :
    snapshot document.toJs = .ok document.toJs := by
  have fitsNodes := fits.nodes.trans nodesFit
  refine snapshot_eq_ok.mpr ⟨rfl, ?_, ?_⟩
  · apply Document.snapshotable_toJs
    · rw [Nat.zero_add]
      exact fits.height.trans heightFit
    · exact fitsNodes
  · rw [Document.valueCost_toJs]
    exact ⟨fits.bytes.trans bytesFit, fitsNodes, Nat.zero_le _,
      Nat.zero_le _⟩

end Selene.Revision
