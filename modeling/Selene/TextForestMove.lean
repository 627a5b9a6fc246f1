import Selene.TextForestSearch

/-!
# Moving a node of a text

A move takes a node out of a forest and attaches it at a gap outside it.  The moved
forest without the node is the forest without the node, the node is as it was, and
it is among the children it was moved to.
-/

namespace TextForest

variable {α κ : Type}

/-! ## Forests placed among children -/

variable {id : Nat} {forest : TextForest α κ}

theorem subtree_eq
    (member : id ∈ forest.ids) :
    ∃ data opening children closing,
      forest.subtree id = node (some id) data opening children closing nil := by
  induction forest with
  | nil => cases member
  | text units rest inductionHypothesis => exact inductionHypothesis member
  | node mark data opening children closing rest openingHypothesis
      childrenHypothesis restHypothesis =>
      simp only [ids, List.mem_append, Option.mem_toList] at member
      rw [subtree]
      split
      · rename_i here
        exact ⟨data, opening, children, closing, by rw [here]⟩
      · split
        · rename_i inOpening
          exact openingHypothesis inOpening
        · split
          · rename_i inChildren
            exact childrenHypothesis inChildren
          · exact restHypothesis (by tauto)

theorem siblings_detach (id : Nat) (forest : TextForest α κ) :
    (forest.detach id).siblings = forest.siblings.erase id := by
  induction forest with
  | nil => rfl
  | text units rest inductionHypothesis => exact inductionHypothesis
  | node mark data opening children closing rest _ _ inductionHypothesis =>
      rw [detach]
      split
      · rename_i here
        simp [here, siblings]
      · rename_i elsewhere
        cases mark with
        | none => simp [siblings, inductionHypothesis]
        | some own =>
            have different : own ≠ id := fun same =>
              elsewhere (congrArg some same)
            simp [siblings, inductionHypothesis, different]

variable {gap : Gap} {children : TextForest α κ}

theorem HasGap.detach
    (has : children.HasGap gap)
    (different : gap ≠ .before id) :
    (children.detach id).HasGap gap := by
  cases gap with
  | front => trivial
  | back => trivial
  | before sibling =>
      have other : sibling ≠ id := fun same =>
        different (congrArg Gap.before same)
      rw [HasGap, siblings_detach]
      exact (List.mem_erase_of_ne other).mpr has

theorem siblings_placeBefore
    {sibling : Nat}
    (member : sibling ∈ children.siblings)
    (new : TextForest α κ) :
    ∃ front back,
      children.siblings = front ++ sibling :: back ∧ sibling ∉ front ∧
        (placeBefore sibling new children).siblings =
          front ++ (new.siblings ++ sibling :: back) := by
  induction children with
  | nil => cases member
  | text units rest inductionHypothesis => exact inductionHypothesis member
  | node mark data opening children closing rest _ _ restHypothesis =>
      simp only [siblings, List.mem_append, Option.mem_toList] at member
      by_cases here : mark = some sibling
      · refine ⟨[], rest.siblings, by simp [siblings, here],
          List.not_mem_nil, ?_⟩
        rw [placeBefore, if_pos here, siblings_append]
        simp [siblings, here]
      · obtain ⟨front, back, whole, notFront, placed⟩ :=
          restHypothesis (member.resolve_left here)
        refine ⟨mark.toList ++ front, back, ?_, ?_, ?_⟩
        · simp [siblings, whole]
        · simpa [notFront] using here
        · rw [placeBefore, if_neg here, siblings, placed]
          simp

theorem ids_place
    (has : children.HasGap gap)
    (new : TextForest α κ) :
    (place gap new children).ids.Perm (new.ids ++ children.ids) := by
  cases gap with
  | front => simp [place]
  | back =>
      rw [place, ids_append]
      exact List.perm_append_comm
  | before sibling =>
      rw [place]
      rw [HasGap] at has
      induction children with
      | nil => cases has
      | text units rest inductionHypothesis => exact inductionHypothesis has
      | node mark data opening children closing rest _ _ restHypothesis =>
          simp only [siblings, List.mem_append, Option.mem_toList] at has
          rw [placeBefore]
          split
          · rw [ids_append]
          · rename_i elsewhere
            have placed := restHypothesis (has.resolve_left elsewhere)
            rw [ids, ids, ← List.append_assoc, ← List.append_assoc,
              ← List.append_assoc mark.toList,
              ← List.append_assoc (mark.toList ++ opening.ids)]
            exact (placed.append_left _).trans
              (List.perm_append_comm_assoc _ _ _)

variable {parent : Nat}

theorem ids_attach
    (distinct : forest.ids.Nodup)
    (member : parent ∈ forest.ids)
    (has : (forest.childrenOf parent).HasGap gap)
    (new : TextForest α κ) :
    (attach parent gap new forest).ids.Perm (new.ids ++ forest.ids) := by
  induction forest with
  | nil => cases member
  | text units rest inductionHypothesis =>
      exact inductionHypothesis distinct member has
  | node mark data opening children closing rest openingHypothesis
      childrenHypothesis restHypothesis =>
      have apart := apart_of_nodup distinct
      rw [childrenOf] at has
      rw [attach]
      cases apart.place member with
      | here here _ _ _ =>
          rw [if_pos here] at has ⊢
          simpa [ids] using perm_front (ids_place has new)
            (mark.toList ++ opening.ids) rest.ids
      | opening notHere inOpening notChildren notRest =>
          simp only [if_neg notHere, if_pos inOpening] at has ⊢
          rw [attach_of_not_mem notChildren, attach_of_not_mem notRest]
          exact perm_front
            (openingHypothesis apart.openingDistinct inOpening has)
            mark.toList _
      | children notHere notOpening inChildren notRest =>
          simp only [if_neg notHere, if_neg notOpening, if_pos inChildren]
            at has ⊢
          rw [attach_of_not_mem notOpening, attach_of_not_mem notRest]
          simpa [ids] using perm_front
            (childrenHypothesis apart.childrenDistinct inChildren has)
            (mark.toList ++ opening.ids) rest.ids
      | rest notHere notOpening notChildren inRest =>
          simp only [if_neg notHere, if_neg notOpening, if_neg notChildren]
            at has ⊢
          rw [attach_of_not_mem notOpening, attach_of_not_mem notChildren]
          simpa [ids] using perm_front
            (restHypothesis apart.restDistinct inRest has)
            (mark.toList ++ (opening.ids ++ children.ids)) []

/-! ## What is found after a detachment -/

theorem childrenOf_detach
    (distinct : forest.ids.Nodup)
    (stays : parent ∈ (forest.detach id).ids) :
    (forest.detach id).childrenOf parent =
      (forest.childrenOf parent).detach id := by
  induction forest with
  | nil => rfl
  | text units rest inductionHypothesis =>
      exact inductionHypothesis distinct stays
  | node mark data opening children closing rest openingHypothesis
      childrenHypothesis restHypothesis =>
      have apart := apart_of_nodup distinct
      have still := (ids_detach_sublist id _).subset stays
      rw [detach] at stays ⊢
      by_cases here : mark = some id
      · rw [if_pos here] at stays ⊢
        -- The parent is in the rest, and the node is not.
        obtain ⟨notHere, notOpening, notChildren⟩ := apart.ofRest stays
        rw [childrenOf, if_neg notHere, if_neg notOpening,
          if_neg notChildren]
        have unchanged := detach_of_not_mem (apart.here id here).2.2
        have same := restHypothesis apart.restDistinct (by rwa [unchanged])
        rwa [unchanged] at same
      · rw [if_neg here] at stays ⊢
        simp only [ids, List.mem_append, Option.mem_toList] at stays
        rw [childrenOf, childrenOf]
        cases apart.place still with
        | here atParent _ _ _ => rw [if_pos atParent, if_pos atParent]
        | opening notAt inOpening notChildren notRest =>
            have inside := ((stays.resolve_left notAt).resolve_right
              fun other => other.elim (not_mem_detach notChildren)
                (not_mem_detach notRest))
            simp only [if_neg notAt, if_pos inOpening, if_pos inside]
            exact openingHypothesis apart.openingDistinct inside
        | children notAt notOpening inChildren notRest =>
            have inside := ((stays.resolve_left notAt).resolve_left
              (not_mem_detach notOpening)).resolve_right
                (not_mem_detach notRest)
            simp only [if_neg notAt, if_neg notOpening, if_pos inChildren,
              if_neg (not_mem_detach notOpening), if_pos inside]
            exact childrenHypothesis apart.childrenDistinct inside
        | rest notAt notOpening notChildren inRest =>
            have inside := ((stays.resolve_left notAt).resolve_left
              (not_mem_detach notOpening)).resolve_left
                (not_mem_detach notChildren)
            simp only [if_neg notAt, if_neg notOpening, if_neg notChildren,
              if_neg (not_mem_detach notOpening),
              if_neg (not_mem_detach notChildren)]
            exact restHypothesis apart.restDistinct inside

/-! ## What is found after an attachment -/

/-- The node that is attached. -/
def only
    (id : Nat)
    (data : κ)
    (opening children : TextForest α κ)
    (closing : List α) :
    TextForest α κ :=
  node (some id) data opening children closing nil

/-- A node that was placed among children can be detached again. -/
theorem detach_place
    {siblings : TextForest α κ}
    (missing : id ∉ siblings.ids)
    (data : κ)
    (opening children : TextForest α κ)
    (closing : List α) :
    (place gap (only id data opening children closing) siblings).detach id =
      siblings := by
  cases gap with
  | front => simp [place, only, append, detach]
  | back =>
      rw [place]
      induction siblings with
      | nil => simp [only, append, detach]
      | text units rest inductionHypothesis =>
          rw [append, detach, inductionHypothesis missing]
      | node mark own first second last rest _ _ restHypothesis =>
          simp only [ids, List.mem_append, Option.mem_toList, not_or]
            at missing
          rw [append, detach, if_neg missing.1,
            detach_of_not_mem missing.2.1, detach_of_not_mem missing.2.2.1,
            restHypothesis missing.2.2.2]
  | before sibling =>
      rw [place]
      induction siblings with
      | nil => rfl
      | text units rest inductionHypothesis =>
          rw [placeBefore, detach, inductionHypothesis missing]
      | node mark own first second last rest _ _ restHypothesis =>
          have whole := missing
          simp only [ids, List.mem_append, Option.mem_toList, not_or]
            at missing
          rw [placeBefore]
          split
          · simp [only, append, detach]
          · rw [detach, if_neg missing.1, detach_of_not_mem missing.2.1,
              detach_of_not_mem missing.2.2.1,
              restHypothesis missing.2.2.2]

theorem detach_attach
    (missing : id ∉ forest.ids)
    (data : κ)
    (opening children : TextForest α κ)
    (closing : List α) :
    (attach parent gap (only id data opening children closing)
      forest).detach id = forest := by
  induction forest with
  | nil => rfl
  | text units rest inductionHypothesis =>
      rw [attach, detach, inductionHypothesis missing]
  | node mark own first second last rest firstHypothesis secondHypothesis
      restHypothesis =>
      simp only [ids, List.mem_append, Option.mem_toList, not_or] at missing
      obtain ⟨notHere, notFirst, notSecond, notRest⟩ := missing
      rw [attach]
      split
      · rw [detach, if_neg notHere, detach_of_not_mem notFirst,
          detach_of_not_mem notRest, detach_place notSecond]
      · rw [detach, if_neg notHere, firstHypothesis notFirst,
          secondHypothesis notSecond, restHypothesis notRest]

theorem subtree_place
    {siblings : TextForest α κ}
    (missing : id ∉ siblings.ids)
    (has : siblings.HasGap gap)
    (data : κ)
    (opening children : TextForest α κ)
    (closing : List α) :
    (place gap (only id data opening children closing) siblings).subtree id =
      only id data opening children closing := by
  cases gap with
  | front => simp [place, only, append, subtree]
  | back =>
      rw [place]
      induction siblings with
      | nil => simp [only, append, subtree]
      | text units rest inductionHypothesis =>
          exact inductionHypothesis missing trivial
      | node mark own first second last rest _ _ restHypothesis =>
          simp only [ids, List.mem_append, Option.mem_toList, not_or]
            at missing
          rw [append, subtree, if_neg missing.1, if_neg missing.2.1,
            if_neg missing.2.2.1]
          exact restHypothesis missing.2.2.2 trivial
  | before sibling =>
      rw [place]
      rw [HasGap] at has
      induction siblings with
      | nil => cases has
      | text units rest inductionHypothesis =>
          exact inductionHypothesis missing has
      | node mark own first second last rest _ _ restHypothesis =>
          simp only [ids, List.mem_append, Option.mem_toList, not_or]
            at missing
          simp only [siblings, List.mem_append, Option.mem_toList] at has
          rw [placeBefore]
          split
          · simp [only, append, subtree]
          · rename_i elsewhere
            rw [subtree, if_neg missing.1, if_neg missing.2.1,
              if_neg missing.2.2.1]
            exact restHypothesis missing.2.2.2 (has.resolve_left elsewhere)

section

variable (distinct : forest.ids.Nodup) (member : parent ∈ forest.ids)
  (has : (forest.childrenOf parent).HasGap gap)

include distinct member has

theorem mem_ids_attach
    {new : TextForest α κ} :
    id ∈ (attach parent gap new forest).ids ↔
      id ∈ new.ids ∨ id ∈ forest.ids := by
  rw [(ids_attach distinct member has new).mem_iff, List.mem_append]

theorem subtree_attach
    (missing : id ∉ forest.ids)
    (data : κ)
    (opening children : TextForest α κ)
    (closing : List α) :
    (attach parent gap (only id data opening children closing)
      forest).subtree id = only id data opening children closing := by
  have isNew : id ∈ (only id data opening children closing).ids := by
    simp [only, ids]
  induction forest with
  | nil => cases member
  | text units rest inductionHypothesis =>
      exact inductionHypothesis distinct member has missing
  | node mark own first second last rest firstHypothesis secondHypothesis
      restHypothesis =>
      have apart := apart_of_nodup distinct
      simp only [ids, List.mem_append, Option.mem_toList, not_or] at missing
      obtain ⟨notHere, notFirst, notSecond, notRest⟩ := missing
      rw [childrenOf] at has
      rw [attach]
      cases apart.place member with
      | here here _ _ _ =>
          rw [if_pos here] at has ⊢
          have placed := (ids_place has
            (only id data opening children closing)).mem_iff.mpr
              (List.mem_append_left _ isNew)
          rw [subtree, if_neg notHere, if_neg notFirst, if_pos placed]
          exact subtree_place notSecond has data opening children closing
      | opening notAt inFirst _ _ =>
          simp only [if_neg notAt, if_pos inFirst] at has ⊢
          rw [subtree, if_neg notHere, if_pos ((mem_ids_attach
            apart.openingDistinct inFirst has).mpr (Or.inl isNew))]
          exact firstHypothesis apart.openingDistinct inFirst has notFirst
      | children notAt notInFirst inSecond _ =>
          simp only [if_neg notAt, if_neg notInFirst, if_pos inSecond]
            at has ⊢
          rw [attach_of_not_mem notInFirst, subtree, if_neg notHere,
            if_neg notFirst, if_pos ((mem_ids_attach
              apart.childrenDistinct inSecond has).mpr (Or.inl isNew))]
          exact secondHypothesis apart.childrenDistinct inSecond has
            notSecond
      | rest notAt notInFirst notInSecond inRest =>
          simp only [if_neg notAt, if_neg notInFirst, if_neg notInSecond]
            at has ⊢
          rw [attach_of_not_mem notInFirst, attach_of_not_mem notInSecond,
            subtree, if_neg notHere, if_neg notFirst, if_neg notSecond]
          exact restHypothesis apart.restDistinct inRest has notRest

theorem childrenOf_attach
    (new : TextForest α κ) :
    (attach parent gap new forest).childrenOf parent =
      place gap new (forest.childrenOf parent) := by
  induction forest with
  | nil => cases member
  | text units rest inductionHypothesis =>
      exact inductionHypothesis distinct member has
  | node mark data opening children closing rest openingHypothesis
      childrenHypothesis restHypothesis =>
      have apart := apart_of_nodup distinct
      rw [childrenOf] at has
      rw [attach]
      cases apart.place member with
      | here here _ _ _ => simp only [childrenOf, if_pos here]
      | opening notHere inOpening _ _ =>
          simp only [if_neg notHere, if_pos inOpening] at has ⊢
          simp only [childrenOf, if_neg notHere, if_pos inOpening,
            if_pos ((mem_ids_attach apart.openingDistinct inOpening
              has).mpr (Or.inr inOpening))]
          exact openingHypothesis apart.openingDistinct inOpening has
      | children notHere notOpening inChildren _ =>
          simp only [if_neg notHere, if_neg notOpening, if_pos inChildren]
            at has ⊢
          simp only [attach_of_not_mem notOpening, childrenOf,
            if_neg notHere, if_neg notOpening, if_pos inChildren,
            if_pos ((mem_ids_attach apart.childrenDistinct inChildren
              has).mpr (Or.inr inChildren))]
          exact childrenHypothesis apart.childrenDistinct inChildren has
      | rest notHere notOpening notChildren inRest =>
          simp only [if_neg notHere, if_neg notOpening, if_neg notChildren]
            at has ⊢
          simp only [attach_of_not_mem notOpening,
            attach_of_not_mem notChildren, childrenOf, if_neg notHere,
            if_neg notOpening, if_neg notChildren]
          exact restHypothesis apart.restDistinct inRest has

end

theorem beforeGap_before
    {sibling : Nat}
    (distinct : forest.ids.Nodup)
    (member : parent ∈ forest.ids)
    (among : sibling ∈ (forest.childrenOf parent).siblings) :
    forest.beforeGap parent (.before sibling) = forest.before sibling := by
  induction forest with
  | nil => cases member
  | text units rest inductionHypothesis =>
      rw [beforeGap, before, inductionHypothesis distinct member among]
  | node mark data opening children closing rest openingHypothesis
      childrenHypothesis restHypothesis =>
      have apart := apart_of_nodup distinct
      rw [childrenOf] at among
      rw [beforeGap, before]
      cases apart.place member with
      | here here _ _ _ =>
          rw [if_pos here] at among
          have inside := children.siblings_sublist.subset among
          obtain ⟨notAt, notOpening, -⟩ := apart.ofChildren inside
          rw [if_pos here, if_neg notAt, if_neg notOpening, if_pos inside,
            gapText]
      | opening notHere inOpening _ _ =>
          rw [if_neg notHere, if_pos inOpening] at among
          have inside := mem_ids_of_mem_childrenOf among
          rw [if_neg notHere, if_pos inOpening,
            if_neg (apart.ofOpening inside).1, if_pos inside,
            openingHypothesis apart.openingDistinct inOpening among]
      | children notHere notOpening inChildren _ =>
          rw [if_neg notHere, if_neg notOpening, if_pos inChildren] at among
          have inside := mem_ids_of_mem_childrenOf among
          obtain ⟨notAt, notInOpening, -⟩ := apart.ofChildren inside
          rw [if_neg notHere, if_neg notOpening, if_pos inChildren,
            if_neg notAt, if_neg notInOpening, if_pos inside,
            childrenHypothesis apart.childrenDistinct inChildren among]
      | rest notHere notOpening notChildren inRest =>
          rw [if_neg notHere, if_neg notOpening, if_neg notChildren]
            at among
          obtain ⟨notAt, notInOpening, notInChildren⟩ :=
            apart.ofRest (mem_ids_of_mem_childrenOf among)
          rw [if_neg notHere, if_neg notOpening, if_neg notChildren,
            if_neg notAt, if_neg notInOpening, if_neg notInChildren,
            restHypothesis apart.restDistinct inRest among]

/-! ## Moves -/

/-- A node can be moved to a gap outside it. -/
structure Movable
    (id parent : Nat)
    (gap : Gap)
    (forest : TextForest α κ) : Prop where
  distinct : forest.ids.Nodup
  isId : id ∈ forest.ids
  isParent : parent ∈ forest.ids
  outside : parent ∉ (forest.subtree id).ids
  has : (forest.childrenOf parent).HasGap gap
  different : gap ≠ .before id

namespace Movable

variable {id parent : Nat} {gap : Gap} {forest : TextForest α κ}

section

variable (movable : Movable id parent gap forest)

include movable

theorem parent_stays :
    parent ∈ (forest.detach id).ids :=
  mem_ids_detach movable.distinct movable.isParent fun _ => movable.outside

theorem detached_distinct :
    (forest.detach id).ids.Nodup :=
  movable.distinct.sublist (ids_detach_sublist id forest)

theorem id_gone :
    id ∉ (forest.detach id).ids := by
  have parts :=
    (ids_detach movable.distinct movable.isId).nodup_iff.mp movable.distinct
  intro still
  exact List.disjoint_of_nodup_append parts (mem_subtree movable.isId) still

theorem detached_gap :
    ((forest.detach id).childrenOf parent).HasGap gap := by
  rw [childrenOf_detach movable.distinct movable.parent_stays]
  exact movable.has.detach movable.different

theorem ids_move :
    (forest.move id parent gap).ids.Perm forest.ids :=
  (ids_attach movable.detached_distinct movable.parent_stays
    movable.detached_gap (forest.subtree id)).trans
      (ids_detach movable.distinct movable.isId).symm

theorem detach_move :
    (forest.move id parent gap).detach id = forest.detach id := by
  obtain ⟨data, opening, children, closing, isSubtree⟩ :=
    subtree_eq movable.isId
  rw [move, isSubtree]
  exact detach_attach movable.id_gone data opening children closing

theorem subtree_move :
    (forest.move id parent gap).subtree id = forest.subtree id := by
  obtain ⟨data, opening, children, closing, isSubtree⟩ :=
    subtree_eq movable.isId
  rw [move, isSubtree]
  exact subtree_attach movable.detached_distinct movable.parent_stays
    movable.detached_gap movable.id_gone data opening children closing

theorem childrenOf_move :
    (forest.move id parent gap).childrenOf parent =
      place gap (forest.subtree id)
        ((forest.childrenOf parent).detach id) := by
  rw [move, childrenOf_attach movable.detached_distinct movable.parent_stays
    movable.detached_gap,
    childrenOf_detach movable.distinct movable.parent_stays]

/-- The text of a moved node is cut out and spliced in. -/
theorem render_move :
    (∃ between after,
      forest.before id = forest.beforeGap parent gap ++ between ∧
        forest.render = forest.beforeGap parent gap ++
          (between ++ ((forest.subtree id).render ++ after)) ∧
        (forest.move id parent gap).render =
          forest.beforeGap parent gap ++
            ((forest.subtree id).render ++ (between ++ after))) ∨
    ∃ between after,
      forest.beforeGap parent gap =
          forest.before id ++ ((forest.subtree id).render ++ between) ∧
        forest.render = forest.before id ++
          ((forest.subtree id).render ++ (between ++ after)) ∧
        (forest.move id parent gap).render =
          forest.before id ++
            (between ++ ((forest.subtree id).render ++ after)) := by
  obtain ⟨after, whole, without⟩ :=
    render_eq movable.distinct movable.isId
  obtain ⟨afterGap, detached, attached⟩ :=
    render_attach movable.detached_distinct movable.parent_stays
      movable.detached_gap
  cases lies_beforeGap movable.distinct movable.isId movable.isParent
    movable.outside movable.has movable.different with
  | ahead between isBefore isGap =>
      refine Or.inl ⟨between, after, isBefore, ?_, ?_⟩
      · rw [whole, isBefore, List.append_assoc]
      · have rests : afterGap = between ++ after := by
          rw [without, isBefore, isGap, List.append_assoc] at detached
          exact (List.append_cancel_left detached).symm
        rw [move, attached, isGap, rests]
  | behind between isGap isWithout =>
      have rests : after = between ++ afterGap := by
        rw [without, isWithout, List.append_assoc] at detached
        exact List.append_cancel_left detached
      refine Or.inr ⟨between, afterGap, isGap, ?_, ?_⟩
      · rw [whole, rests]
      · rw [move, attached, isWithout, List.append_assoc]

end

end Movable

end TextForest
