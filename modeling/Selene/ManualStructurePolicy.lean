import Selene.StructuralPatch

/-!
# Which moves the slots of a design system let through

The host lets a mapped child go to a new parent when the `children` slots that the
approved catalogs declare for the two parents take it.  It counts the paired
children of the target alone, so self-closing ones take up no room there
(`reparent_respects_iff`).
-/

namespace Selene.ReactTsx

open Js

/-! ## Approved components -/

/-- The kind a slot can have. -/
inductive SlotKind where
  | children
  deriving DecidableEq

/-- A component that a slot accepts. -/
structure AcceptedComponent where
  entrypoint : JsString
  exportName : JsString
  deriving DecidableEq

structure Slot where
  kind : SlotKind
  minItems : Option Nat
  maxItems : Option Nat
  accepts : Option (List AcceptedComponent)
  deriving DecidableEq

/-- A component of a catalog. -/
structure CatalogComponent where
  entrypoint : JsString
  exportName : JsString
  slots : Option (List Slot)
  deriving DecidableEq

/-- What an import of a design system was receipted with. -/
structure DesignSystemReceipt where
  packageName : JsString
  catalog : Option (List CatalogComponent)

structure DesignSystemInput where
  enabled : Bool
  receipt : DesignSystemReceipt

/-- `designInputProvenance` -/
structure DesignInputProvenance where
  designSystems : Option (List DesignSystemInput)
  designSystem : Option DesignSystemReceipt

structure ApprovedSourceComponent where
  packageName : JsString
  entrypoint : JsString
  exportName : JsString
  slots : Option (List Slot)
  deriving DecidableEq

/-- The design systems of a provenance; a single one is enabled. -/
def DesignInputProvenance.inputs (provenance : DesignInputProvenance) :
    List DesignSystemInput :=
  provenance.designSystems.getD
    (provenance.designSystem.toList.map fun receipt => ⟨true, receipt⟩)

/-- `approved` -/
def DesignInputProvenance.approved (provenance : DesignInputProvenance) :
    List ApprovedSourceComponent :=
  provenance.inputs.flatMap fun input =>
    match input.enabled, input.receipt.catalog with
    | true, some components => components.map fun component =>
        ⟨input.receipt.packageName, component.entrypoint,
          component.exportName, component.slots⟩
    | _, _ => []

def moduleSpecifier (component : ApprovedSourceComponent) : JsString :=
  if component.entrypoint = js "." then component.packageName
  else component.packageName ++ 0x2F :: component.entrypoint.drop 2

/-! ## Imports of a source -/

structure ImportSpecifier where
  name : JsString
  propertyName : Option JsString

/-- A statement; an import without a list of names has no named bindings. -/
inductive Statement where
  | importDeclaration (moduleSpecifier : JsString)
      (namedBindings : Option (List ImportSpecifier))
  | other

/-- An imported name. -/
structure ImportedName where
  moduleSpecifier : JsString
  exportName : JsString

/-- The imports that bind a name. -/
def importsOf (statements : List Statement) (tag : JsString) :
    List ImportedName :=
  statements.flatMap fun statement =>
    match statement with
    | .importDeclaration specifier (some elements) =>
        (elements.filter fun binding => binding.name = tag).map fun binding =>
          ⟨specifier, binding.propertyName.getD binding.name⟩
    | _ => []

/-- A parsed source: the tree of its default export, its statements, and the tag
names of elements that are identifiers. -/
structure MappedSource where
  tree : TsxSource
  statements : List Statement
  tagName : Nat → Option JsString

variable (provenance : DesignInputProvenance) (source : MappedSource)

/-- `resolve` -/
def MappedSource.resolve (element : Nat) : Option ApprovedSourceComponent :=
  match source.tagName element with
  | none => none
  | some tag =>
      match importsOf source.statements tag with
      | [imported] =>
          match provenance.approved.filter fun component =>
              component.exportName = imported.exportName ∧
                moduleSpecifier component = imported.moduleSpecifier with
          | [component] => some component
          | _ => none
      | _ => none

/-- The first slot of the kind `children`. -/
def childrenSlot (slots : List Slot) : Option Slot :=
  slots.find? fun slot => slot.kind = .children

/-- The `children` slot of the component an element stands for. -/
def MappedSource.slotOf (element : Nat) : Option Slot :=
  ((source.resolve provenance element).bind (·.slots)).bind childrenSlot

/-! ## The policy -/

inductive StructureUnavailable where
  | componentSlotRequired
  | incompatibleComponentSlot
  | slotCardinalityViolation
  | unmappedComponentChild
  deriving DecidableEq

/-- The paired children of an element. -/
def pairedChildren (scope : TsxForest) (parent : Nat) :
    List (Nat × NodeKind) :=
  (elementChildren scope parent).filter fun child => child.2.isJsxElement

/-- Whether a slot takes a component at all. -/
def Slot.refuses
    (slot : Slot)
    (packageName : Option JsString)
    (selected : Option ApprovedSourceComponent) :
    Option StructureUnavailable :=
  match slot.accepts, selected with
  | none, _ => none
  | some _, none => some .unmappedComponentChild
  | some accepts, some component =>
      if some component.packageName ≠ packageName ∨
          ¬ accepts.any fun accepted =>
            accepted.entrypoint = component.entrypoint ∧
              accepted.exportName = component.exportName then
        some .incompatibleComponentSlot
      else none

/-- `sourceCount - 1 < minItems` or `targetCount + 1 > maxItems` -/
def exceedsSlots
    (sourceSlot : Option Slot)
    (targetSlot : Slot)
    (sourceCount targetCount : Int) : Bool :=
  (sourceSlot.bind (·.minItems)).any
      (fun (minItems : Nat) => sourceCount - 1 < minItems) ||
    targetSlot.maxItems.any (fun (maxItems : Nat) => targetCount + 1 > maxItems)

def manualStructurePolicyUnavailable
    (selected selectedParent targetParent : Nat)
    (sameParent : Bool) : Option StructureUnavailable :=
  let targetParentComponent := source.resolve provenance targetParent
  let sourceSlots := (source.resolve provenance selectedParent).bind (·.slots)
  let targetSlots := targetParentComponent.bind (·.slots)
  if sourceSlots.isNone ∧ targetSlots.isNone then none
  else if ¬ sameParent ∧ sourceSlots.isSome ∧
      (sourceSlots.bind childrenSlot).isNone then
    some .componentSlotRequired
  else
    match targetSlots.bind childrenSlot with
    | none => some .componentSlotRequired
    | some targetSlot =>
        match targetSlot.refuses (targetParentComponent.map (·.packageName))
            (source.resolve provenance selected) with
        | some code => some code
        | none =>
            if sameParent then none
            else if exceedsSlots (sourceSlots.bind childrenSlot) targetSlot
                (pairedChildren source.tree.scope selectedParent).length
                (pairedChildren source.tree.scope targetParent).length then
              some .slotCardinalityViolation
            else none

/-! ## What the slots declare -/

/-- The element children of a parent are as many as its slot asks for. -/
def KeepsMinimum (scope : TsxForest) (parent : Nat) : Prop :=
  ∀ slot minItems, source.slotOf provenance parent = some slot →
    slot.minItems = some minItems →
      minItems ≤ (elementChildren scope parent).length

/-- The element children of a parent are no more than its slot has room for. -/
def KeepsMaximum (scope : TsxForest) (parent : Nat) : Prop :=
  ∀ slot maxItems, source.slotOf provenance parent = some slot →
    slot.maxItems = some maxItems →
      (elementChildren scope parent).length ≤ maxItems

/-- A child is one of those that the slot of its parent accepts. -/
def IsAccepted (child parent : Nat) : Prop :=
  ∀ slot accepts, source.slotOf provenance parent = some slot →
    slot.accepts = some accepts →
      ∃ component holder, source.resolve provenance child = some component ∧
        source.resolve provenance parent = some holder ∧
        component.packageName = holder.packageName ∧
        ⟨component.entrypoint, component.exportName⟩ ∈ accepts

/-- A target has room for one more element, paired or self-closing. -/
def HasRoom (parent : Nat) : Prop :=
  ∀ slot maxItems, source.slotOf provenance parent = some slot →
    slot.maxItems = some maxItems →
      (elementChildren source.tree.scope parent).length + 1 ≤ maxItems

variable {provenance source}

/-! ## What is let through -/

variable {selected selectedParent targetParent : Nat}

/-- A move between parents that the policy lets through. -/
theorem letThrough_cases
    (letThrough : manualStructurePolicyUnavailable provenance source selected
      selectedParent targetParent false = none) :
    (source.slotOf provenance selectedParent = none ∧
      source.slotOf provenance targetParent = none) ∨
    ∃ targetSlot, source.slotOf provenance targetParent = some targetSlot ∧
      targetSlot.refuses ((source.resolve provenance targetParent).map
        (·.packageName)) (source.resolve provenance selected) = none ∧
      exceedsSlots (source.slotOf provenance selectedParent) targetSlot
        (pairedChildren source.tree.scope selectedParent).length
        (pairedChildren source.tree.scope targetParent).length = false := by
  rw [manualStructurePolicyUnavailable] at letThrough
  simp only [MappedSource.slotOf]
  split at letThrough
  · rename_i unslotted
    rw [Option.isNone_iff_eq_none, Option.isNone_iff_eq_none] at unslotted
    rw [unslotted.1, unslotted.2]
    exact Or.inl ⟨rfl, rfl⟩
  · split at letThrough
    · cases letThrough
    · split at letThrough
      · cases letThrough
      · rename_i targetSlot isSlot
        split at letThrough
        · cases letThrough
        · rename_i taken
          rw [if_neg Bool.false_ne_true] at letThrough
          split at letThrough
          · cases letThrough
          · rename_i inside
            exact Or.inr ⟨targetSlot, isSlot, taken,
              Bool.eq_false_iff.mpr inside⟩

theorem isAccepted_of_not_refuses
    {targetSlot : Slot}
    (isSlot : source.slotOf provenance targetParent = some targetSlot)
    (taken : targetSlot.refuses ((source.resolve provenance targetParent).map
      (·.packageName)) (source.resolve provenance selected) = none) :
    IsAccepted provenance source selected targetParent := by
  intro slot accepts isOther declared
  cases isSlot.symm.trans isOther
  unfold Slot.refuses at taken
  cases isComponent : source.resolve provenance selected with
  | none =>
      rw [declared, isComponent] at taken
      cases taken
  | some component =>
      rw [declared, isComponent] at taken
      dsimp only at taken
      split at taken
      · cases taken
      · rename_i fits
        obtain ⟨samePackage, accepted⟩ := not_or.mp fits
        obtain ⟨holder, isHolder, same⟩ :=
          Option.map_eq_some_iff.mp (not_ne_iff.mp samePackage).symm
        obtain ⟨entry, isEntry, names⟩ :=
          List.any_eq_true.mp (not_not.mp accepted)
        obtain ⟨isEntrypoint, isExport⟩ := of_decide_eq_true names
        refine ⟨component, holder, rfl, isHolder, same.symm, ?_⟩
        rwa [← isEntrypoint, ← isExport]

/-! ## Counting children across a move -/

theorem length_elementChildren (scope : TsxForest) (parent : Nat) :
    (elementChildren scope parent).length =
      (scope.childrenOf parent).siblings.length := by
  rw [elementChildren, ← TextForest.map_fst_topEntries, List.length_map]

variable {scope : TsxForest} {gap : TextForest.Gap}

section

variable (movable : TextForest.Movable selected targetParent gap scope)
  (among : selected ∈ (scope.childrenOf selectedParent).siblings)

include movable among

theorem length_source_move :
    (elementChildren scope selectedParent).length ≤
      (elementChildren (scope.move selected targetParent gap)
        selectedParent).length + 1 := by
  have stays := TextForest.parent_mem_detach movable.distinct among
  have same : ((scope.move selected targetParent gap).childrenOf
      selectedParent).detach selected =
        (scope.childrenOf selectedParent).detach selected := by
    rw [← TextForest.childrenOf_detach
        (movable.ids_move.nodup_iff.mpr movable.distinct)
        (by rwa [movable.detach_move]),
      movable.detach_move, TextForest.childrenOf_detach movable.distinct stays]
  have sameSiblings := congrArg TextForest.siblings same
  rw [TextForest.siblings_detach, TextForest.siblings_detach] at sameSiblings
  have fewer := (List.erase_sublist (a := selected)
    (l := ((scope.move selected targetParent gap).childrenOf
      selectedParent).siblings)).length_le
  rw [sameSiblings, List.length_erase_of_mem among] at fewer
  rw [length_elementChildren, length_elementChildren]
  omega

omit movable among in
theorem length_siblings_place
    {children new : TsxForest}
    (has : children.HasGap gap) :
    (TextForest.place gap new children).siblings.length =
      new.siblings.length + children.siblings.length := by
  cases gap with
  | front =>
      rw [TextForest.place, TextForest.siblings_append, List.length_append]
  | back =>
      rw [TextForest.place, TextForest.siblings_append, List.length_append,
        Nat.add_comm]
  | before sibling =>
      obtain ⟨front, back, isSplit, -, placed⟩ :=
        TextForest.siblings_placeBefore has new
      rw [TextForest.place, placed, isSplit]
      simp only [List.length_append, List.length_cons]
      omega

theorem length_target_move
    (different : selectedParent ≠ targetParent) :
    (elementChildren (scope.move selected targetParent gap)
      targetParent).length = (elementChildren scope targetParent).length + 1 := by
  have elsewhere : selected ∉ (scope.childrenOf targetParent).siblings :=
    fun here => different
      (TextForest.parent_unique movable.distinct among here)
  rw [length_elementChildren, length_elementChildren, movable.childrenOf_move,
    length_siblings_place (movable.has.detach movable.different),
    siblings_subtree movable.isId, TextForest.siblings_detach,
    List.erase_of_not_mem elsewhere, List.length_singleton, Nat.add_comm]

end

theorem length_pairedChildren_le (scope : TsxForest) (parent : Nat) :
    (pairedChildren scope parent).length ≤
      (elementChildren scope parent).length :=
  List.length_filter_le _ _

/-! ## Moves between parents -/

/-- A child that the policy lets go to another parent leaves its old parent with
what the slot there asks for and is one that the new slot accepts; the new slot
is not overfull exactly when it has room for one more element. -/
theorem reparent_respects_iff
    {command : StructuralCommand}
    {patched newParentSourceAnchorId : JsString}
    {child nextParent : JsxElement}
    (isReparent : command.kind = .reparentChild newParentSourceAnchorId)
    (isChild : elementForAnchor source.tree.scope command.sourceAnchorId =
      .found child)
    (isParent : directParent source.tree.scope child.id = some selectedParent)
    (isNext : elementForAnchor source.tree.scope newParentSourceAnchorId =
      .found nextParent)
    (different : selectedParent ≠ nextParent.id)
    (letThrough : manualStructurePolicyUnavailable provenance source child.id
      selectedParent nextParent.id false = none)
    (returned : structuralPatch source.tree command = .ok patched) :
    let moved := source.tree.scope.move child.id nextParent.id
      (insertionGap source.tree.scope nextParent command.position)
    patched = source.tree.textWith moved ∧
      TreeMove source.tree.scope moved child.id nextParent.id
        (insertionGap source.tree.scope nextParent command.position) ∧
      (KeepsMinimum provenance source moved selectedParent ∧
          KeepsMaximum provenance source moved nextParent.id ∧
          IsAccepted provenance source child.id nextParent.id ↔
        HasRoom provenance source nextParent.id) := by
  intro moved
  obtain ⟨other, next, insertion, isOther, isNextMatch, notInside, isInsertion,
    outside, isPatched⟩ := structuralPatch_cases returned
  cases isChild.symm.trans isOther
  rw [nextParentMatch, isReparent] at isNextMatch
  cases isNext.symm.trans isNextMatch
  have parentIn := mem_ids_of_entry (entry_of_elementForAnchor isNext)
  have movable := movable_of_insertion
    (mem_ids_of_entry (entry_of_elementForAnchor isChild)) parentIn notInside
    isInsertion outside
  have among := mem_siblings_of_directParent source.tree.distinct isParent
  have gained : (elementChildren moved nextParent.id).length =
      (elementChildren source.tree.scope nextParent.id).length + 1 :=
    length_target_move movable among different
  have lost : (elementChildren source.tree.scope selectedParent).length ≤
      (elementChildren moved selectedParent).length + 1 :=
    length_source_move movable among
  refine ⟨?_, ⟨movable.subtree_move, movable.detach_move,
    movable.childrenOf_move, movable.ids_move, movable.outside⟩, ?_, ?_⟩
  · rw [isPatched, moveRange_move movable
      (insertionOffset_gap parentIn isInsertion).2 outside]
  · rintro ⟨-, room, -⟩ slot maxItems isSlot declared
    rw [← gained]
    exact room slot maxItems isSlot declared
  · intro room
    rcases letThrough_cases letThrough with
      ⟨noSource, noTarget⟩ | ⟨targetSlot, isTarget, taken, inside⟩
    · -- Neither parent declares a slot.
      refine ⟨fun slot minItems isSlot => ?_, fun slot maxItems isSlot => ?_,
        fun slot accepts isSlot => ?_⟩
      · cases noSource.symm.trans isSlot
      · cases noTarget.symm.trans isSlot
      · cases noTarget.symm.trans isSlot
    · refine ⟨fun slot minItems isSlot declared => ?_,
        fun slot maxItems isSlot declared => ?_,
        isAccepted_of_not_refuses isTarget taken⟩
      · rw [exceedsSlots, Bool.or_eq_false_iff, isSlot, Option.bind_some,
          declared, Option.any_some] at inside
        have enough := of_decide_eq_false inside.1
        have paired :=
          length_pairedChildren_le source.tree.scope selectedParent
        omega
      · rw [gained]
        exact room slot maxItems isSlot declared

/-- An element with an anchor, laid out as a flex container. -/
def flexAttributes (anchor : String) : List AttributeLike :=
  [.attribute (.identifier (js "data-selene-node-id"))
    (some (.stringLiteral (js anchor))),
  .attribute (.identifier (js "style"))
    (some (.jsxExpression (some (.objectLiteral
      [.propertyAssignment (.identifier (js "display"))
        (some (js "flex"))]))))]

/-- A stack with two children, and a card with a self-closing and a paired one. -/
def cardSource : MappedSource where
  tree :=
    { leading := js "import \x7bBadge, Card, Stack\x7d from '@acme/ui'; "
      scope :=
        .node (some 0) (.jsxElement (flexAttributes "s"))
          (.text (js "<Stack data-selene-node-id='s' style=\x7b\x7bdisplay: 'flex'\x7d\x7d>")
            .nil)
          (.node (some 1)
            (.jsxElement
              [.attribute (.identifier (js "data-selene-node-id"))
                (some (.stringLiteral (js "p")))])
            (.text (js "<Badge data-selene-node-id='p'>") .nil)
            (.text (js "one") .nil) (js "</Badge>")
            (.node (some 5) (.jsxElement []) (.text (js "<b>") .nil)
              (.text (js "kept") .nil) (js "</b>") .nil))
          (js "</Stack>")
          (.node (some 2) (.jsxElement (flexAttributes "c"))
            (.text (js "<Card data-selene-node-id='c' style=\x7b\x7bdisplay: 'flex'\x7d\x7d>")
              .nil)
            (.node (some 3) (.jsxSelfClosingElement [])
              (.text (js "<hr/>") .nil) .nil []
              (.node (some 4)
                (.jsxElement
                  [.attribute (.identifier (js "data-selene-node-id"))
                    (some (.stringLiteral (js "i")))])
                (.text (js "<i data-selene-node-id='i'>") .nil)
                (.text (js "two") .nil) (js "</i>") .nil))
            (js "</Card>") .nil)
      trailing := []
      distinct := by decide
      identified := by simp [Identified, NodeKind.isElement] }
  statements := [.importDeclaration (js "@acme/ui")
    (some [⟨js "Badge", none⟩, ⟨js "Card", none⟩, ⟨js "Stack", none⟩])]
  tagName
    | 0 => some (js "Stack")
    | 1 => some (js "Badge")
    | 2 => some (js "Card")
    | 3 => some (js "hr")
    | 4 => some (js "i")
    | 5 => some (js "b")
    | _ => none

/-- The slot of a card, which takes so many badges. -/
def cardSlot (maxItems : Nat) : Slot where
  kind := .children
  minItems := none
  maxItems := some maxItems
  accepts := some [⟨js ".", js "Badge"⟩]

/-- A catalog of that card and of a stack, which is not to become empty. -/
def cardProvenance (maxItems : Nat) : DesignInputProvenance where
  designSystems := none
  designSystem := some
    { packageName := js "@acme/ui"
      catalog := some
        [⟨js ".", js "Badge", none⟩,
          ⟨js ".", js "Card", some [cardSlot maxItems]⟩,
          ⟨js ".", js "Stack", some [⟨.children, some 1, none, none⟩]⟩] }

/-- A request to move the badge of the stack in front of the card's paired child. -/
def moveToCard : StructuralCommand where
  kind := .reparentChild (js "c")
  sourceAnchorId := js "p"
  parentSourceAnchorId := some (js "s")
  position := .before (js "i")

theorem moveToCard_returned :
    structuralPatch cardSource.tree moveToCard = .ok
      (cardSource.tree.textWith
        (cardSource.tree.scope.move 1 2 (.before 4))) := by
  decide +kernel

/-- A card with room for three takes the badge, and every slot is respected. -/
theorem reparent_respects_roomy :
    KeepsMinimum (cardProvenance 3) cardSource
        (cardSource.tree.scope.move 1 2 (.before 4)) 0 ∧
      KeepsMaximum (cardProvenance 3) cardSource
        (cardSource.tree.scope.move 1 2 (.before 4)) 2 ∧
      IsAccepted (cardProvenance 3) cardSource 1 2 := by
  refine (@reparent_respects_iff (cardProvenance 3) cardSource 0 moveToCard
    _ (js "c") ⟨1, _⟩ ⟨2, _⟩ rfl rfl rfl rfl (by decide) (by decide +kernel)
    moveToCard_returned).2.2.mpr ?_
  intro slot maxItems isSlot declared
  cases (show cardSource.slotOf (cardProvenance 3) 2 = some (cardSlot 3)
    by decide +kernel).symm.trans isSlot
  cases declared
  decide

/-- A card with room for two holds a self-closing child and a paired one; a third
is let in, since only the paired one is counted. -/
theorem selfClosing_takes_no_room :
    manualStructurePolicyUnavailable (cardProvenance 2) cardSource 1 0 2
        false = none ∧
      structuralPatch cardSource.tree moveToCard = .ok
        (cardSource.tree.textWith
          (cardSource.tree.scope.move 1 2 (.before 4))) ∧
      ¬ KeepsMaximum (cardProvenance 2) cardSource
        (cardSource.tree.scope.move 1 2 (.before 4)) 2 := by
  refine ⟨by decide +kernel, moveToCard_returned, fun keeps => ?_⟩
  have room := keeps (cardSlot 2) 2 (by decide +kernel) rfl
  exact absurd room (by decide)

end Selene.ReactTsx
