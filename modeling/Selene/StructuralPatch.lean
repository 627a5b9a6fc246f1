import Selene.JsText
import Selene.TextForestMove

/-!
# Reordering and reparenting a child of a TSX source

The desktop adapter moves a JSX element by cutting its text out of the source and
splicing it in at another offset.  The source is given with the tree the parser
made of it: code, fragments and JSX expressions are nodes without an identity,
elements have one, and the text of the tree is the text of the source.
-/

namespace Selene.ReactTsx

open Js

/-! ## Trees of a source -/

/-- The name of an attribute or of a property. -/
inductive SyntaxName where
  | identifier (text : JsString)
  | other
  deriving DecidableEq

/-- A member of an object literal; a string literal initializer has its text. -/
inductive ObjectMember where
  | propertyAssignment (name : SyntaxName) (initializer : Option JsString)
  | other
  deriving DecidableEq

/-- An expression, as far as the adapter looks at it. -/
inductive Expression where
  | stringLiteral (text : JsString)
  | objectLiteral (properties : List ObjectMember)
  | other
  deriving DecidableEq

/-- The initializer of an attribute. -/
inductive Initializer where
  | stringLiteral (text : JsString)
  | jsxExpression (expression : Option Expression)
  | other
  deriving DecidableEq

/-- A member of the attributes of an opening element. -/
inductive AttributeLike where
  | attribute (name : SyntaxName) (initializer : Option Initializer)
  | spread
  deriving DecidableEq

/-- The kinds of nodes. -/
inductive NodeKind where
  | jsxElement (attributes : List AttributeLike)
  | jsxSelfClosingElement (attributes : List AttributeLike)
  | other
  deriving DecidableEq

namespace NodeKind

/-- `ts.isJsxElement`. -/
def isJsxElement : NodeKind → Bool
  | jsxElement _ => true
  | _ => false

/-- Paired and self-closing elements. -/
def isElement : NodeKind → Bool
  | other => false
  | _ => true

end NodeKind

/-- The nodes of a source. -/
abbrev TsxForest := TextForest CodeUnit NodeKind

/-- Elements have an identity, and no other nodes do. -/
def Identified : TsxForest → Prop
  | .nil => True
  | .text _ rest => Identified rest
  | .node mark kind opening children _ rest =>
      mark.isSome = kind.isElement ∧ Identified opening ∧
        Identified children ∧ Identified rest

/-- A source with the default export the adapter edits. -/
structure TsxSource where
  leading : JsString
  scope : TsxForest
  trailing : JsString
  distinct : scope.ids.Nodup
  identified : Identified scope

namespace TsxSource

/-- The text of a source with a given scope. -/
def textWith (source : TsxSource) (scope : TsxForest) : JsString :=
  source.leading ++ (scope.render ++ source.trailing)

/-- `content` -/
def content (source : TsxSource) : JsString :=
  source.textWith source.scope

/-- `node.getStart(source)` -/
def getStart (source : TsxSource) (id : Nat) : Nat :=
  (source.leading ++ source.scope.before id).length

/-- `node.end` -/
def getEnd (source : TsxSource) (id : Nat) : Nat :=
  source.getStart id + (source.scope.subtree id).render.length

/-- `element.openingElement.end` -/
def openingEnd (source : TsxSource) (id : Nat) : Nat :=
  (source.leading ++ source.scope.beforeGap id .front).length

/-- `element.closingElement.getStart(source)` -/
def closingStart (source : TsxSource) (id : Nat) : Nat :=
  (source.leading ++ source.scope.beforeGap id .back).length

end TsxSource

/-! ## Elements and their anchors -/

/-- A paired element. -/
structure JsxElement where
  id : Nat
  attributes : List AttributeLike
  deriving DecidableEq

/-- The paired element an entry stands for. -/
def jsxElement? : Nat × NodeKind → Option JsxElement
  | (id, .jsxElement attributes) => some ⟨id, attributes⟩
  | _ => none

def markerValue : AttributeLike → Option JsString
  | .attribute (.identifier name) (some (.stringLiteral text)) =>
      if name = js "data-selene-node-id" then some text else none
  | .attribute (.identifier name)
      (some (.jsxExpression (some (.stringLiteral text)))) =>
      if name = js "data-selene-node-id" then some text else none
  | _ => none

def matchingElements (scope : TsxForest) (anchor : JsString) :
    List JsxElement :=
  (scope.entries.filterMap jsxElement?).filter fun element =>
    element.attributes.any fun property =>
      markerValue property == some anchor

/-- What `elementForAnchor` returns. -/
inductive AnchorMatch where
  | missing
  | ambiguous
  | found (element : JsxElement)
  deriving DecidableEq

def elementForAnchor (scope : TsxForest) (anchor : JsString) : AnchorMatch :=
  match matchingElements scope anchor with
  | [] => .missing
  | [element] => .found element
  | _ => .ambiguous

/-- The paired element that has an element among its children. -/
def directParent (scope : TsxForest) (id : Nat) : Option Nat :=
  match scope.holder id with
  | some (some parent, .jsxElement _) => some parent
  | _ => none

/-- The `style` attributes, by their initializers. -/
def styleInitializer? : AttributeLike → Option (Option Initializer)
  | .attribute (.identifier name) initializer =>
      if name = js "style" then some initializer else none
  | _ => none

/-- The `display` assignments, by their initializers. -/
def displayInitializer? : ObjectMember → Option (Option JsString)
  | .propertyAssignment (.identifier name) initializer =>
      if name = js "display" then some initializer else none
  | _ => none

def isSupportedContainer (element : JsxElement) : Bool :=
  match element.attributes.filterMap styleInitializer? with
  | [some (.jsxExpression (some (.objectLiteral properties)))] =>
      match properties.filterMap displayInitializer? with
      | [some text] => text == js "flex" || text == js "grid"
      | _ => false
  | _ => false

/-- The element children of an element. -/
def elementChildren (scope : TsxForest) (parent : Nat) :
    List (Nat × NodeKind) :=
  (scope.childrenOf parent).topEntries

/-! ## The patch -/

/-- Where a child goes among the children of its new parent. -/
inductive Position where
  | first
  | last
  | before (sourceAnchorId : JsString)
  deriving DecidableEq

/-- The two commands that move a child. -/
inductive StructuralKind where
  | reorderChild
  | reparentChild (newParentSourceAnchorId : JsString)
  deriving DecidableEq

structure StructuralCommand where
  kind : StructuralKind
  sourceAnchorId : JsString
  parentSourceAnchorId : Option JsString
  position : Position
  deriving DecidableEq

inductive StructuralError where
  | missingTarget
  | ambiguousTarget
  | unsafeReparent
  | unsupportedContainer
  deriving DecidableEq

/-- A match that is missing or ambiguous ends the patch. -/
def AnchorMatch.resolve : AnchorMatch → Except StructuralError JsxElement
  | missing => .error .missingTarget
  | ambiguous => .error .ambiguousTarget
  | found element => .ok element

/-- `nextParent` -/
def resolveNextParent
    (scope : TsxForest)
    (currentParent : JsxElement) :
    StructuralKind → Except StructuralError JsxElement
  | .reparentChild newParentSourceAnchorId =>
      (elementForAnchor scope newParentSourceAnchorId).resolve
  | .reorderChild => .ok currentParent

/-- The offset at which a child is inserted. -/
def insertionOffset
    (source : TsxSource)
    (nextParent : JsxElement) :
    Position → Except StructuralError Nat
  | .first =>
      match (elementChildren source.scope nextParent.id).find?
          (fun child => child.2.isJsxElement) with
      | none => .ok (source.openingEnd nextParent.id)
      | some first => .ok (source.getStart first.1)
  | .last => .ok (source.closingStart nextParent.id)
  | .before anchor => do
      let before ← (elementForAnchor source.scope anchor).resolve
      if directParent source.scope before.id ≠ some nextParent.id then
        .error .unsafeReparent
      else
        .ok (source.getStart before.id)

/-- Cut a range out of a text and splice it in at an offset outside it. -/
def moveRange (content : JsString) (start stop insertion : Nat) : JsString :=
  let moved := (content.take stop).drop start
  let removed := content.take start ++ content.drop stop
  let adjustedInsertion :=
    if insertion > stop then insertion - (stop - start) else insertion
  removed.take adjustedInsertion ++
    (moved ++ removed.drop adjustedInsertion)

def structuralPatch
    (source : TsxSource)
    (command : StructuralCommand) :
    Except StructuralError JsString :=
  match elementForAnchor source.scope command.sourceAnchorId,
      command.parentSourceAnchorId with
  | .missing, _ => .error .missingTarget
  | _, none => .error .missingTarget
  | .ambiguous, some _ => .error .ambiguousTarget
  | .found child, some expectedParentId => do
      let currentParent ←
        (elementForAnchor source.scope expectedParentId).resolve
      if directParent source.scope child.id ≠ some currentParent.id ∨
          isSupportedContainer currentParent = false then
        .error .unsupportedContainer
      else
        let nextParent ←
          resolveNextParent source.scope currentParent command.kind
        if isSupportedContainer nextParent = false then
          .error .unsupportedContainer
        else if child.id ∈ source.scope.path nextParent.id then
          .error .unsafeReparent
        else
          let insertion ←
            insertionOffset source nextParent command.position
          let start := source.getStart child.id
          let stop := source.getEnd child.id
          if insertion ≥ start ∧ insertion ≤ stop then
            .error .unsafeReparent
          else
            .ok (moveRange source.content start stop insertion)

/-! ## Elements that are found -/

variable {element : JsxElement}

theorem entry_of_jsxElement?
    {entry : Nat × NodeKind}
    (isElement : jsxElement? entry = some element) :
    entry = (element.id, .jsxElement element.attributes) := by
  obtain ⟨id, kind⟩ := entry
  cases kind with
  | jsxElement attributes =>
      simp only [jsxElement?, Option.some.injEq] at isElement
      rw [← isElement]
  | jsxSelfClosingElement attributes => cases isElement
  | other => cases isElement

variable {scope : TsxForest}

theorem entry_of_elementForAnchor
    {anchor : JsString}
    (found : elementForAnchor scope anchor = .found element) :
    (element.id, .jsxElement element.attributes) ∈ scope.entries := by
  unfold elementForAnchor at found
  have member : element ∈ matchingElements scope anchor := by
    split at found
    · cases found
    · rename_i matches_
      cases found
      rw [matches_]
      exact List.mem_singleton_self element
    · cases found
  obtain ⟨entry, inEntries, isElement⟩ :=
    List.mem_filterMap.mp (List.mem_of_mem_filter member)
  rwa [entry_of_jsxElement? isElement] at inEntries

variable {id : Nat}

theorem mem_ids_of_entry
    {kind : NodeKind}
    (member : (id, kind) ∈ scope.entries) :
    id ∈ scope.ids := by
  rw [← TextForest.map_fst_entries]
  exact List.mem_map_of_mem member

theorem found_of_resolve
    {anchorMatch : AnchorMatch}
    (resolved : anchorMatch.resolve = .ok element) :
    anchorMatch = .found element := by
  cases anchorMatch with
  | missing => cases resolved
  | ambiguous => cases resolved
  | found other =>
      cases resolved
      rfl

theorem mem_siblings_of_directParent
    {parent : Nat}
    (distinct : scope.ids.Nodup)
    (isParent : directParent scope id = some parent) :
    id ∈ (scope.childrenOf parent).siblings := by
  unfold directParent at isParent
  split at isParent
  · rename_i held
    cases isParent
    exact (TextForest.mem_childrenOf_of_holder distinct held).2
  · cases isParent

/-! ## The gap of an insertion -/

/-- The gap among the element children at which a child is inserted. -/
def insertionGap
    (scope : TsxForest)
    (nextParent : JsxElement) :
    Position → TextForest.Gap
  | .first =>
      match (elementChildren scope nextParent.id).find?
          (fun child => child.2.isJsxElement) with
      | none => .front
      | some first => .before first.1
  | .last => .back
  | .before anchor =>
      match elementForAnchor scope anchor with
      | .found before => .before before.id
      | _ => .back

variable {source : TsxSource} {nextParent : JsxElement} {position : Position}
   {insertion : Nat}

theorem insertionOffset_gap
    (isParent : nextParent.id ∈ source.scope.ids)
    (found : insertionOffset source nextParent position = .ok insertion) :
    (source.scope.childrenOf nextParent.id).HasGap
        (insertionGap source.scope nextParent position) ∧
      insertion = (source.leading ++ source.scope.beforeGap nextParent.id
        (insertionGap source.scope nextParent position)).length := by
  cases position with
  | first =>
      simp only [insertionOffset] at found
      simp only [insertionGap]
      cases isFirst : (elementChildren source.scope nextParent.id).find?
          (fun child => child.2.isJsxElement) with
      | none =>
          rw [isFirst] at found
          cases found
          exact ⟨trivial, rfl⟩
      | some first =>
          rw [isFirst] at found
          have among : first.1 ∈
              (source.scope.childrenOf nextParent.id).siblings := by
            rw [← TextForest.map_fst_topEntries]
            exact List.mem_map_of_mem (List.mem_of_find?_eq_some isFirst)
          cases found
          exact ⟨among, by
            rw [TextForest.beforeGap_before source.distinct isParent among,
              TsxSource.getStart]⟩
  | last =>
      cases found
      exact ⟨trivial, rfl⟩
  | before anchor =>
      simp only [insertionOffset] at found
      cases resolved : (elementForAnchor source.scope anchor).resolve with
      | error reason => rw [resolved] at found; cases found
      | ok before =>
          rw [resolved] at found
          dsimp only [bind, Except.bind] at found
          split at found
          · cases found
          · rename_i isChild
            have among := mem_siblings_of_directParent source.distinct
              (not_not.mp isChild)
            simp only [insertionGap]
            rw [found_of_resolve resolved]
            cases found
            exact ⟨among, by
              rw [TextForest.beforeGap_before source.distinct isParent among,
                TsxSource.getStart]⟩

/-! ## Ranges that are moved -/

theorem moveRange_ahead (front between moved after : JsString) :
    moveRange (front ++ (between ++ (moved ++ after)))
        (front ++ between).length
        ((front ++ between).length + moved.length) front.length =
      front ++ (moved ++ (between ++ after)) := by
  have notBehind :
      ¬ front.length > (front ++ between).length + moved.length := by
    rw [List.length_append]
    omega
  have whole : front ++ (between ++ (moved ++ after)) =
      (front ++ between) ++ (moved ++ after) := by simp
  have cut : ((front ++ between) ++ (moved ++ after)).take
      ((front ++ between).length + moved.length) =
        (front ++ between) ++ moved := by
    rw [List.take_length_add_append, List.take_left]
  have rest : ((front ++ between) ++ (moved ++ after)).drop
      ((front ++ between).length + moved.length) = after := by
    rw [List.drop_length_add_append, List.drop_left]
  unfold moveRange
  simp only [if_neg notBehind]
  rw [whole, cut, rest, List.drop_left, List.take_left,
    List.append_assoc front, List.take_left, List.drop_left]

theorem moveRange_behind
    {front moved between : JsString}
    (isInsertion : insertion = (front ++ (moved ++ between)).length)
    (outside : insertion > front.length + moved.length)
    (after : JsString) :
    moveRange (front ++ (moved ++ (between ++ after))) front.length
        (front.length + moved.length) insertion =
      front ++ (between ++ (moved ++ after)) := by
  have adjusted : insertion - (front.length + moved.length - front.length) =
      (front ++ between).length := by
    rw [isInsertion]
    simp only [List.length_append]
    omega
  have cut : (front ++ (moved ++ (between ++ after))).take
      (front.length + moved.length) = front ++ moved := by
    rw [List.take_length_add_append, List.take_left]
  have rest : (front ++ (moved ++ (between ++ after))).drop
      (front.length + moved.length) = between ++ after := by
    rw [List.drop_length_add_append, List.drop_left]
  unfold moveRange
  simp only [if_pos outside]
  rw [cut, rest, adjusted, List.drop_left, List.take_left,
    ← List.append_assoc front between, List.take_left, List.drop_left,
    List.append_assoc]

variable {gap : TextForest.Gap}

theorem moveRange_move
    {child nextParent : Nat}
    (movable : TextForest.Movable child nextParent gap source.scope)
    (isInsertion : insertion =
      (source.leading ++ source.scope.beforeGap nextParent gap).length)
    (outside : ¬ (insertion ≥ source.getStart child ∧
      insertion ≤ source.getEnd child)) :
    moveRange source.content (source.getStart child) (source.getEnd child)
        insertion =
      source.textWith (source.scope.move child nextParent gap) := by
  unfold TsxSource.content TsxSource.textWith
  unfold TsxSource.getEnd TsxSource.getStart at *
  rcases movable.render_move with
    ⟨between, after, isBefore, whole, moved⟩ |
    ⟨between, after, isGap, whole, moved⟩
  · have ranges := moveRange_ahead
      (source.leading ++ source.scope.beforeGap nextParent gap) between
      (source.scope.subtree child).render (after ++ source.trailing)
    rw [isInsertion, isBefore, whole, moved]
    simpa only [List.append_assoc] using ranges
  · have isBehind : insertion = ((source.leading ++
        source.scope.before child) ++
          ((source.scope.subtree child).render ++ between)).length := by
      rw [isInsertion, isGap, List.append_assoc]
    have further : insertion >
        (source.leading ++ source.scope.before child).length +
          (source.scope.subtree child).render.length := by
      rw [isBehind] at outside ⊢
      simp only [List.length_append] at outside ⊢
      omega
    have ranges := moveRange_behind isBehind further
      (after ++ source.trailing)
    rw [whole, moved]
    simpa only [List.append_assoc] using ranges

/-! ## Patches that are returned -/

/-- The new parent of a command. -/
def nextParentMatch (scope : TsxForest) (command : StructuralCommand) :
    AnchorMatch :=
  match command.kind, command.parentSourceAnchorId with
  | .reparentChild newParentSourceAnchorId, _ =>
      elementForAnchor scope newParentSourceAnchorId
  | .reorderChild, some expectedParentId =>
      elementForAnchor scope expectedParentId
  | .reorderChild, none => .missing

theorem structuralPatch_cases
    {command : StructuralCommand}
    {patched : JsString}
    (returned : structuralPatch source command = .ok patched) :
    ∃ child nextParent insertion,
      elementForAnchor source.scope command.sourceAnchorId = .found child ∧
        nextParentMatch source.scope command = .found nextParent ∧
        child.id ∉ source.scope.path nextParent.id ∧
        insertionOffset source nextParent command.position = .ok insertion ∧
        ¬ (insertion ≥ source.getStart child.id ∧
          insertion ≤ source.getEnd child.id) ∧
        patched = moveRange source.content (source.getStart child.id)
          (source.getEnd child.id) insertion := by
  unfold structuralPatch at returned
  split at returned
  · cases returned
  · cases returned
  · cases returned
  · rename_i child expectedParentId isChild hasParent
    cases current : (elementForAnchor source.scope
        expectedParentId).resolve with
    | error reason => rw [current] at returned; cases returned
    | ok currentParent =>
        rw [current] at returned
        dsimp only [bind, Except.bind] at returned
        split at returned
        · cases returned
        · cases next : resolveNextParent source.scope currentParent
              command.kind with
          | error reason => rw [next] at returned; cases returned
          | ok nextParent =>
              rw [next] at returned
              dsimp only at returned
              have isNext : nextParentMatch source.scope command =
                  .found nextParent := by
                unfold nextParentMatch
                cases isKind : command.kind with
                | reparentChild newParentSourceAnchorId =>
                    rw [isKind] at next
                    exact found_of_resolve next
                | reorderChild =>
                    rw [isKind] at next
                    cases next
                    rw [hasParent]
                    exact found_of_resolve current
              split at returned
              · cases returned
              · split at returned
                · cases returned
                · rename_i notInside
                  cases isInsertion : insertionOffset source nextParent
                      command.position with
                  | error reason =>
                      rw [isInsertion] at returned
                      cases returned
                  | ok insertion =>
                      rw [isInsertion] at returned
                      dsimp only at returned
                      split at returned
                      · cases returned
                      · rename_i outside
                        cases returned
                        exact ⟨child, nextParent, insertion, isChild, isNext,
                          notInside, isInsertion, outside, rfl⟩

variable {child : JsxElement}

theorem movable_of_insertion
    (isChild : child.id ∈ source.scope.ids)
    (isParent : nextParent.id ∈ source.scope.ids)
    (notInside : child.id ∉ source.scope.path nextParent.id)
    (isInsertion : insertionOffset source nextParent position =
      .ok insertion)
    (outside : ¬ (insertion ≥ source.getStart child.id ∧
      insertion ≤ source.getEnd child.id)) :
    TextForest.Movable child.id nextParent.id
      (insertionGap source.scope nextParent position) source.scope := by
  obtain ⟨has, isOffset⟩ := insertionOffset_gap isParent isInsertion
  refine ⟨source.distinct, isChild, isParent,
    fun inside => notInside (TextForest.mem_path source.distinct isChild
      inside), has, fun atChild => outside ?_⟩
  -- In front of the child itself the insertion is where the child starts.
  rw [atChild] at has isOffset
  rw [TextForest.beforeGap_before source.distinct isParent has] at isOffset
  rw [isOffset]
  exact ⟨le_refl _, Nat.le_add_right _ _⟩

/-! ## Where the child is afterwards -/

/-- The element children of the new parent are in the order asked for. -/
def Placed
    (scope : TsxForest)
    (child : Nat)
    (siblings : List Nat) :
    Position → Prop
  | .first => ∃ others, siblings = child :: others
  | .last => ∃ others, siblings = others ++ [child]
  | .before anchor => ∃ sibling front back,
      elementForAnchor scope anchor = .found sibling ∧
        siblings = front ++ child :: sibling.id :: back

/-- No self-closing element is ahead of the first paired one. -/
def StartsPaired (children : List (Nat × NodeKind)) : Prop :=
  children.find? (fun child => child.2.isJsxElement) = none ∨
    children.find? (fun child => child.2.isJsxElement) = children.head?

theorem siblings_subtree
    (member : id ∈ scope.ids) :
    (scope.subtree id).siblings = [id] := by
  obtain ⟨kind, opening, children, closing, isSubtree⟩ :=
    TextForest.subtree_eq member
  rw [isSubtree]
  rfl

theorem placed_first
    (movable : TextForest.Movable child.id nextParent.id
      (insertionGap scope nextParent .first) scope)
    (isChild : (child.id, .jsxElement child.attributes) ∈ scope.entries) :
    Placed scope child.id ((scope.move child.id nextParent.id
        (insertionGap scope nextParent .first)).childrenOf
          nextParent.id).siblings .first ↔
      StartsPaired (elementChildren scope nextParent.id) := by
  have alone := siblings_subtree movable.isId
  have distinct := (movable.distinct.sublist
    (TextForest.childrenOf_ids_sublist nextParent.id scope)).sublist
      (TextForest.siblings_sublist _)
  rw [movable.childrenOf_move]
  unfold Placed StartsPaired
  cases isFirst : (elementChildren scope nextParent.id).find?
      (fun entry => entry.2.isJsxElement) with
  | none =>
      have isGap : insertionGap scope nextParent .first = .front := by
        simp only [insertionGap, isFirst]
      rw [isGap, TextForest.place, TextForest.siblings_append, alone]
      exact ⟨fun _ => Or.inl rfl, fun _ => ⟨_, rfl⟩⟩
  | some first =>
      have isGap : insertionGap scope nextParent .first =
          .before first.1 := by
        simp only [insertionGap, isFirst]
      have has := movable.has.detach movable.different
      rw [isGap] at has
      obtain ⟨front, back, whole, notFront, placed⟩ :=
        TextForest.siblings_placeBefore has (scope.subtree child.id)
      rw [TextForest.siblings_detach] at whole
      obtain ⟨paired, ahead, behind, isChildren, notPaired⟩ :=
        List.find?_eq_some_iff_append.mp isFirst
      have isSiblings : (scope.childrenOf nextParent.id).siblings =
          ahead.map Prod.fst ++ first.1 :: behind.map Prod.fst := by
        rw [← TextForest.map_fst_topEntries]
        exact (congrArg (List.map Prod.fst) isChildren).trans (by simp)
      -- The child is paired, so it is not ahead of the first paired one.
      have notAhead : child.id ∉ ahead.map Prod.fst := by
        intro inAhead
        obtain ⟨⟨id, kind⟩, inside, isId⟩ := List.mem_map.mp inAhead
        have inChildren :
            (id, kind) ∈ elementChildren scope nextParent.id := by
          rw [isChildren]
          exact List.mem_append_left _ inside
        have inEntries : (id, kind) ∈ scope.entries :=
          TextForest.childrenOf_entries_subset nextParent.id scope
            ((TextForest.topEntries_sublist _).subset inChildren)
        cases isId
        have isPaired := TextForest.entries_unique movable.distinct inEntries
          isChild
        have unpaired := notPaired _ inside
        rw [isPaired] at unpaired
        cases unpaired
      have notFirst : first.1 ≠ child.id := fun same =>
        movable.different (isGap.trans (congrArg _ same))
      have isFront : front = ahead.map Prod.fst := by
        rw [isSiblings, List.erase_append_right _ notAhead,
          List.erase_cons_tail (by simpa using notFirst)] at whole
        rw [isSiblings] at distinct
        have notInAhead : first.1 ∉ ahead.map Prod.fst := fun inside =>
          List.disjoint_of_nodup_append distinct inside
            List.mem_cons_self
        have notInRest :
            first.1 ∉ (behind.map Prod.fst).erase child.id := fun inside =>
          (List.nodup_cons.mp (List.nodup_append.mp distinct).2.1).1
            (List.mem_of_mem_erase inside)
        exact ((List.append_cons_inj_of_notMem notInAhead notInRest).mp
          whole).1.symm
      have childGone : child.id ∉ front := by
        rw [isFront]
        exact notAhead
      rw [isGap, TextForest.place, placed, alone, isFront]
      have isHead : (elementChildren scope nextParent.id).head? =
          some first ↔ ahead = [] := by
        rw [isChildren]
        cases ahead with
        | nil => simp
        | cons entry rest =>
            refine ⟨fun same => ?_, fun empty => by cases empty⟩
            have isEntry : entry = first := by simpa using same
            have unpaired := notPaired entry List.mem_cons_self
            rw [isEntry, paired] at unpaired
            cases unpaired
      constructor
      · rintro ⟨others, isPlaced⟩
        refine Or.inr (isHead.mpr ?_).symm
        cases ahead with
        | nil => rfl
        | cons entry rest =>
            have isEntry := (List.cons.inj isPlaced).1
            exact absurd (isEntry ▸ List.mem_cons_self) notAhead
      · intro starts
        have noneAhead := isHead.mp
          (starts.resolve_left (fun absent => by cases absent)).symm
        exact ⟨_, by rw [noneAhead]; rfl⟩

theorem placed_last
    (movable : TextForest.Movable child.id nextParent.id .back scope) :
    Placed scope child.id ((scope.move child.id nextParent.id
      .back).childrenOf nextParent.id).siblings .last := by
  rw [movable.childrenOf_move, TextForest.place, TextForest.siblings_append,
    siblings_subtree movable.isId]
  exact ⟨_, rfl⟩

theorem placed_before
    {sibling : JsxElement}
    {anchor : JsString}
    (found : elementForAnchor scope anchor = .found sibling)
    (movable : TextForest.Movable child.id nextParent.id
      (.before sibling.id) scope) :
    Placed scope child.id ((scope.move child.id nextParent.id
      (.before sibling.id)).childrenOf nextParent.id).siblings
        (.before anchor) := by
  obtain ⟨front, back, -, -, placed⟩ := TextForest.siblings_placeBefore
    (movable.has.detach movable.different) (scope.subtree child.id)
  rw [movable.childrenOf_move, TextForest.place, placed,
    siblings_subtree movable.isId]
  exact ⟨sibling, front, back, found, rfl⟩

/-- A child that is moved goes where it was asked to, unless a self-closing
element keeps it from the front. -/
theorem placed_iff
    (isInsertion : insertionOffset source nextParent position =
      .ok insertion)
    (movable : TextForest.Movable child.id nextParent.id
      (insertionGap source.scope nextParent position) source.scope)
    (isChild :
      (child.id, .jsxElement child.attributes) ∈ source.scope.entries) :
    Placed source.scope child.id ((source.scope.move child.id nextParent.id
        (insertionGap source.scope nextParent position)).childrenOf
          nextParent.id).siblings position ↔
      (position = .first →
        StartsPaired (elementChildren source.scope nextParent.id)) := by
  cases position with
  | first =>
      rw [placed_first movable isChild]
      exact ⟨fun starts _ => starts, fun starts => starts rfl⟩
  | last =>
      exact ⟨fun _ isFirst => (by cases isFirst), fun _ =>
        placed_last movable⟩
  | before anchor =>
      simp only [insertionOffset] at isInsertion
      cases resolved : (elementForAnchor source.scope anchor).resolve with
      | error reason =>
          rw [resolved] at isInsertion
          cases isInsertion
      | ok sibling =>
          have found := found_of_resolve resolved
          have isGap : insertionGap source.scope nextParent
              (.before anchor) = .before sibling.id := by
            simp only [insertionGap, found]
          rw [isGap] at movable ⊢
          exact ⟨fun _ isFirst => (by cases isFirst), fun _ =>
            placed_before found movable⟩

/-! ## The moved source -/

theorem identified_append
    {first last : TsxForest}
    (isFirst : Identified first)
    (isLast : Identified last) :
    Identified (first.append last) := by
  induction first with
  | nil => exact isLast
  | text units rest inductionHypothesis => exact inductionHypothesis isFirst
  | node mark kind opening children closing rest _ _ restHypothesis =>
      exact ⟨isFirst.1, isFirst.2.1, isFirst.2.2.1,
        restHypothesis isFirst.2.2.2⟩

theorem identified_detach
    (identified : Identified scope) :
    Identified (scope.detach id) := by
  induction scope with
  | nil => exact identified
  | text units rest inductionHypothesis =>
      exact inductionHypothesis identified
  | node mark kind opening children closing rest openingHypothesis
      childrenHypothesis restHypothesis =>
      rw [TextForest.detach]
      split
      · exact identified.2.2.2
      · exact ⟨identified.1, openingHypothesis identified.2.1,
          childrenHypothesis identified.2.2.1,
          restHypothesis identified.2.2.2⟩

theorem identified_subtree
    (identified : Identified scope) :
    Identified (scope.subtree id) := by
  induction scope with
  | nil => exact identified
  | text units rest inductionHypothesis =>
      exact inductionHypothesis identified
  | node mark kind opening children closing rest openingHypothesis
      childrenHypothesis restHypothesis =>
      rw [TextForest.subtree]
      split
      · exact ⟨identified.1, identified.2.1, identified.2.2.1, trivial⟩
      · split
        · exact openingHypothesis identified.2.1
        · split
          · exact childrenHypothesis identified.2.2.1
          · exact restHypothesis identified.2.2.2

theorem identified_place
    {new children : TsxForest}
    (isNew : Identified new)
    (identified : Identified children) :
    Identified (TextForest.place gap new children) := by
  cases gap with
  | front => exact identified_append isNew identified
  | back => exact identified_append identified isNew
  | before sibling =>
      rw [TextForest.place]
      induction children with
      | nil => exact identified
      | text units rest inductionHypothesis =>
          exact inductionHypothesis identified
      | node mark kind opening inner closing rest _ _ restHypothesis =>
          rw [TextForest.placeBefore]
          split
          · exact identified_append isNew identified
          · exact ⟨identified.1, identified.2.1, identified.2.2.1,
              restHypothesis identified.2.2.2⟩

theorem identified_attach
    {parent : Nat}
    {new : TsxForest}
    (isNew : Identified new)
    (identified : Identified scope) :
    Identified (TextForest.attach parent gap new scope) := by
  induction scope with
  | nil => exact identified
  | text units rest inductionHypothesis =>
      exact inductionHypothesis identified
  | node mark kind opening children closing rest openingHypothesis
      childrenHypothesis restHypothesis =>
      rw [TextForest.attach]
      split
      · exact ⟨identified.1, identified.2.1,
          identified_place isNew identified.2.2.1, identified.2.2.2⟩
      · exact ⟨identified.1, openingHypothesis identified.2.1,
          childrenHypothesis identified.2.2.1,
          restHypothesis identified.2.2.2⟩

/-- A tree is another one with a child moved to a new parent. -/
structure TreeMove
    (scope moved : TsxForest)
    (child parent : Nat)
    (gap : TextForest.Gap) : Prop where
  itself : moved.subtree child = scope.subtree child
  others : moved.detach child = scope.detach child
  among : moved.childrenOf parent =
    TextForest.place gap (scope.subtree child)
      ((scope.childrenOf parent).detach child)
  kept : moved.ids.Perm scope.ids
  outside : parent ∉ (scope.subtree child).ids

/-- A patch that is returned is the text of a tree with the child moved, and the
child is where it was asked to be if no self-closing element is in its way. -/
theorem structuralPatch_moves
    {source : TsxSource}
    {command : StructuralCommand}
    {patched : JsString}
    (returned : structuralPatch source command = .ok patched) :
    ∃ (child nextParent : JsxElement) (next : TsxSource),
      elementForAnchor source.scope command.sourceAnchorId = .found child ∧
        nextParentMatch source.scope command = .found nextParent ∧
        next.leading = source.leading ∧ next.trailing = source.trailing ∧
        next.content = patched ∧
        TreeMove source.scope next.scope child.id nextParent.id
          (insertionGap source.scope nextParent command.position) ∧
        (Placed source.scope child.id
            (next.scope.childrenOf nextParent.id).siblings
            command.position ↔
          (command.position = .first →
            StartsPaired (elementChildren source.scope nextParent.id))) := by
  obtain ⟨child, nextParent, insertion, isChild, isParent, notInside,
    isInsertion, outside, isPatched⟩ := structuralPatch_cases returned
  have childEntry := entry_of_elementForAnchor isChild
  have parentIn : nextParent.id ∈ source.scope.ids := by
    unfold nextParentMatch at isParent
    split at isParent
    · exact mem_ids_of_entry (entry_of_elementForAnchor isParent)
    · exact mem_ids_of_entry (entry_of_elementForAnchor isParent)
    · cases isParent
  have movable := movable_of_insertion (mem_ids_of_entry childEntry) parentIn
    notInside isInsertion outside
  let moved := source.scope.move child.id nextParent.id
    (insertionGap source.scope nextParent command.position)
  let next : TsxSource :=
    { leading := source.leading
      scope := moved
      trailing := source.trailing
      distinct := movable.ids_move.nodup_iff.mpr source.distinct
      identified := identified_attach
        (identified_subtree source.identified)
        (identified_detach source.identified) }
  refine ⟨child, nextParent, next, isChild, isParent, rfl, rfl, ?_,
    ⟨movable.subtree_move, movable.detach_move, movable.childrenOf_move,
      movable.ids_move, movable.outside⟩,
    placed_iff isInsertion movable childEntry⟩
  rw [isPatched, moveRange_move movable
    (insertionOffset_gap parentIn isInsertion).2 outside]
  rfl

/-- A flex container with a self-closing child ahead of two paired ones. -/
def flexSource : TsxSource where
  leading := []
  scope :=
    .text (js "export default function A() \x7b return ")
      (.node (some 0)
        (.jsxElement
          [.attribute (.identifier (js "data-selene-node-id"))
            (some (.stringLiteral (js "m"))),
          .attribute (.identifier (js "style"))
            (some (.jsxExpression (some (.objectLiteral
              [.propertyAssignment (.identifier (js "display"))
                (some (js "flex"))]))))])
        (.text (js "<m data-selene-node-id='m' style=\x7b\x7bdisplay: 'flex'\x7d\x7d>")
          .nil)
        (.node (some 1) (.jsxSelfClosingElement [])
          (.text (js "<hr/>") .nil) .nil []
          (.node (some 2)
            (.jsxElement
              [.attribute (.identifier (js "data-selene-node-id"))
                (some (.stringLiteral (js "p")))])
            (.text (js "<p data-selene-node-id='p'>") .nil)
            (.text (js "one") .nil) (js "</p>")
            (.node (some 3)
              (.jsxElement
                [.attribute (.identifier (js "data-selene-node-id"))
                  (some (.stringLiteral (js "i")))])
              (.text (js "<i data-selene-node-id='i'>") .nil)
              (.text (js "two") .nil) (js "</i>") .nil)))
        (js "</m>") (.text (js "\x7d") .nil))
  trailing := []
  distinct := by decide
  identified := by simp [Identified, NodeKind.isElement]

/-- A request to move the last child. -/
def reorderLast (position : Position) : StructuralCommand where
  kind := .reorderChild
  sourceAnchorId := js "i"
  parentSourceAnchorId := some (js "m")
  position := position

theorem structuralPatch_returned (position : Position)
    (isPosition : position = .first ∨ position = .before (js "p")) :
    structuralPatch flexSource (reorderLast position) =
      .ok (flexSource.textWith (flexSource.scope.move 3 0 (.before 2))) := by
  rcases isPosition with rfl | rfl
  · decide +kernel
  · decide +kernel

/-- In front of a named sibling the child is placed as asked. -/
theorem structuralPatch_moves_before :
    ∃ (child nextParent : JsxElement) (next : TsxSource),
      elementForAnchor flexSource.scope (js "i") = .found child ∧
        next.content = flexSource.textWith
          (flexSource.scope.move 3 0 (.before 2)) ∧
        TreeMove flexSource.scope next.scope child.id nextParent.id
          (insertionGap flexSource.scope nextParent (.before (js "p"))) ∧
        Placed flexSource.scope child.id
          (next.scope.childrenOf nextParent.id).siblings
          (.before (js "p")) := by
  obtain ⟨child, nextParent, next, isChild, -, -, -, isText, isMove,
    isPlaced⟩ := structuralPatch_moves
      (structuralPatch_returned (.before (js "p")) (Or.inr rfl))
  exact ⟨child, nextParent, next, isChild, isText, isMove,
    isPlaced.mpr fun isFirst => by cases isFirst⟩

/-- Asked to be first, the child is put behind the self-closing one: no place in
front of all other element children gives the patched text. -/
theorem structuralPatch_behind_selfClosing :
    (structuralPatch flexSource (reorderLast .first)).isOk = true ∧
      ¬ ∃ gap,
        structuralPatch flexSource (reorderLast .first) =
            .ok (flexSource.textWith (flexSource.scope.move 3 0 gap)) ∧
          Placed flexSource.scope 3
            ((flexSource.scope.move 3 0 gap).childrenOf 0).siblings
            .first := by
  rw [structuralPatch_returned .first (Or.inl rfl)]
  refine ⟨rfl, ?_⟩
  rintro ⟨gap, isText, others, isPlaced⟩
  have isText := Except.ok.inj isText
  cases gap with
  | front => exact absurd isText (by decide +kernel)
  | back =>
      have inBack : ((flexSource.scope.move 3 0 .back).childrenOf
          0).siblings = [1, 2, 3] := by decide
      rw [inBack] at isPlaced
      cases isPlaced
  | before sibling =>
      by_cases isSelfClosing : sibling = 1
      · rw [isSelfClosing] at isText
        exact absurd isText (by decide +kernel)
      · -- Before any other sibling the self-closing child stays first.
        have inFront : ∃ rest, ((flexSource.scope.move 3 0
            (.before sibling)).childrenOf 0).siblings = 1 :: rest := by
          simp [flexSource, TextForest.move, TextForest.detach,
            TextForest.subtree, TextForest.attach, TextForest.place,
            TextForest.placeBefore, TextForest.childrenOf, TextForest.ids,
            TextForest.siblings, Ne.symm isSelfClosing]
        obtain ⟨rest, isFront⟩ := inFront
        rw [isFront] at isPlaced
        cases isPlaced

end Selene.ReactTsx
