import Selene.TextForest

/-!
# Finding nodes of a text

The nodes of a forest with what is known of them, the chain of nodes around a node,
and the node that has it among its children.
-/

namespace TextForest

variable {α κ : Type}

/-- The nodes that have an identity, in the order a visitor meets them. -/
def entries : TextForest α κ → List (Nat × κ)
  | nil => []
  | text _ rest => rest.entries
  | node mark data opening children _ rest =>
      mark.toList.map (fun id => (id, data)) ++
        (opening.entries ++ (children.entries ++ rest.entries))

/-- The outermost nodes that have an identity. -/
def topEntries : TextForest α κ → List (Nat × κ)
  | nil => []
  | text _ rest => rest.topEntries
  | node mark data _ _ _ rest =>
      mark.toList.map (fun id => (id, data)) ++ rest.topEntries

/-- A node and the nodes around it, from the inside out. -/
def path (target : Nat) : TextForest α κ → List Nat
  | nil => []
  | text _ rest => rest.path target
  | node mark _ opening children _ rest =>
      if mark = some target then [target]
      else if target ∈ opening.ids then opening.path target ++ mark.toList
      else if target ∈ children.ids then children.path target ++ mark.toList
      else rest.path target

/-- The node that has another one among its children. -/
def holder (target : Nat) : TextForest α κ → Option (Option Nat × κ)
  | nil => none
  | text _ rest => rest.holder target
  | node mark data opening children _ rest =>
      if target ∈ children.siblings then some (mark, data)
      else if target ∈ opening.ids then opening.holder target
      else if target ∈ children.ids then children.holder target
      else rest.holder target

theorem map_fst_entries (forest : TextForest α κ) :
    forest.entries.map Prod.fst = forest.ids := by
  induction forest with
  | nil => rfl
  | text units rest inductionHypothesis => exact inductionHypothesis
  | node mark data opening children closing rest openingHypothesis
      childrenHypothesis restHypothesis =>
      cases mark with
      | none =>
          simp [entries, ids, openingHypothesis, childrenHypothesis,
            restHypothesis]
      | some own =>
          simp [entries, ids, openingHypothesis, childrenHypothesis,
            restHypothesis]

theorem map_fst_topEntries (forest : TextForest α κ) :
    forest.topEntries.map Prod.fst = forest.siblings := by
  induction forest with
  | nil => rfl
  | text units rest inductionHypothesis => exact inductionHypothesis
  | node mark data opening children closing rest _ _ restHypothesis =>
      cases mark with
      | none => simp [topEntries, siblings, restHypothesis]
      | some own => simp [topEntries, siblings, restHypothesis]

theorem topEntries_sublist (forest : TextForest α κ) :
    forest.topEntries.Sublist forest.entries := by
  induction forest with
  | nil => exact List.Sublist.refl _
  | text units rest inductionHypothesis => exact inductionHypothesis
  | node mark data opening children closing rest _ _ restHypothesis =>
      exact (List.Sublist.refl _).append
        ((restHypothesis.trans (List.sublist_append_right _ _)).trans
          (List.sublist_append_right _ _))

theorem childrenOf_entries_subset (parent : Nat) (forest : TextForest α κ) :
    (forest.childrenOf parent).entries ⊆ forest.entries := by
  induction forest with
  | nil => exact List.Subset.refl _
  | text units rest inductionHypothesis => exact inductionHypothesis
  | node mark data opening children closing rest openingHypothesis
      childrenHypothesis restHypothesis =>
      rw [childrenOf, entries]
      intro entry member
      simp only [List.mem_append]
      split at member
      · exact Or.inr (Or.inr (Or.inl member))
      · split at member
        · exact Or.inr (Or.inl (openingHypothesis member))
        · split at member
          · exact Or.inr (Or.inr (Or.inl (childrenHypothesis member)))
          · exact Or.inr (Or.inr (Or.inr (restHypothesis member)))

variable {id : Nat} {forest : TextForest α κ}

section

variable (distinct : forest.ids.Nodup)

include distinct

theorem entries_unique
    {first second : κ}
    (isFirst : (id, first) ∈ forest.entries)
    (isSecond : (id, second) ∈ forest.entries) :
    first = second := by
  rw [← map_fst_entries] at distinct
  have same := List.inj_on_of_nodup_map distinct isFirst isSecond rfl
  exact congrArg Prod.snd same

theorem subtree_ids_subset
    (member : id ∈ forest.ids) :
    (forest.subtree id).ids ⊆ forest.ids := fun _ inside =>
  (ids_detach distinct member).mem_iff.mpr (List.mem_append_left _ inside)

omit distinct in
theorem childrenOf_ids_sublist (parent : Nat) (forest : TextForest α κ) :
    (forest.childrenOf parent).ids.Sublist forest.ids := by
  induction forest with
  | nil => exact List.Sublist.refl _
  | text units rest inductionHypothesis => exact inductionHypothesis
  | node mark data opening children closing rest openingHypothesis
      childrenHypothesis restHypothesis =>
      have inOpening : opening.ids.Sublist
          (mark.toList ++ (opening.ids ++ (children.ids ++ rest.ids))) :=
        (List.sublist_append_left _ _).trans (List.sublist_append_right _ _)
      have inChildren : children.ids.Sublist
          (mark.toList ++ (opening.ids ++ (children.ids ++ rest.ids))) :=
        ((List.sublist_append_left _ _).trans
          (List.sublist_append_right _ _)).trans
            (List.sublist_append_right _ _)
      have inRest : rest.ids.Sublist
          (mark.toList ++ (opening.ids ++ (children.ids ++ rest.ids))) :=
        ((List.sublist_append_right _ _).trans
          (List.sublist_append_right _ _)).trans
            (List.sublist_append_right _ _)
      rw [childrenOf, ids]
      split
      · exact inChildren
      · split
        · exact openingHypothesis.trans inOpening
        · split
          · exact childrenHypothesis.trans inChildren
          · exact restHypothesis.trans inRest

theorem mem_path
    {target : Nat}
    (member : id ∈ forest.ids)
    (inside : target ∈ (forest.subtree id).ids) :
    id ∈ forest.path target := by
  induction forest with
  | nil => cases member
  | text units rest inductionHypothesis =>
      exact inductionHypothesis distinct member inside
  | node mark data opening children closing rest openingHypothesis
      childrenHypothesis restHypothesis =>
      have apart := apart_of_nodup distinct
      rw [subtree] at inside
      rw [path]
      cases apart.place member with
      | here here _ _ _ =>
          -- The node is the outermost one on the path.
          rw [if_pos here] at inside
          simp only [ids, List.append_nil, List.mem_append, Option.mem_toList]
            at inside
          by_cases atTarget : mark = some target
          · rw [if_pos atTarget]
            rw [here, Option.some.injEq] at atTarget
            simp [atTarget]
          · rw [if_neg atTarget]
            by_cases inOpening : target ∈ opening.ids
            · rw [if_pos inOpening]
              simp [here]
            · have inChildren : target ∈ children.ids := by tauto
              rw [if_neg inOpening, if_pos inChildren]
              simp [here]
      | opening notHere inOpening _ _ =>
          rw [if_neg notHere, if_pos inOpening] at inside
          have within :=
            subtree_ids_subset apart.openingDistinct inOpening inside
          rw [if_neg (apart.ofOpening within).1, if_pos within]
          exact List.mem_append_left _
            (openingHypothesis apart.openingDistinct inOpening inside)
      | children notHere notOpening inChildren _ =>
          rw [if_neg notHere, if_neg notOpening, if_pos inChildren] at inside
          have within :=
            subtree_ids_subset apart.childrenDistinct inChildren inside
          obtain ⟨notAt, notInOpening, -⟩ := apart.ofChildren within
          rw [if_neg notAt, if_neg notInOpening, if_pos within]
          exact List.mem_append_left _
            (childrenHypothesis apart.childrenDistinct inChildren inside)
      | rest notHere notOpening notChildren inRest =>
          rw [if_neg notHere, if_neg notOpening, if_neg notChildren]
            at inside
          obtain ⟨notAt, notInOpening, notInChildren⟩ := apart.ofRest
            (subtree_ids_subset apart.restDistinct inRest inside)
          rw [if_neg notAt, if_neg notInOpening, if_neg notInChildren]
          exact restHypothesis apart.restDistinct inRest inside

theorem mem_childrenOf_of_holder
    {target parent : Nat}
    {data : κ}
    (held : forest.holder target = some (some parent, data)) :
    parent ∈ forest.ids ∧ target ∈ (forest.childrenOf parent).siblings := by
  induction forest with
  | nil => cases held
  | text units rest inductionHypothesis =>
      exact inductionHypothesis distinct held
  | node mark own opening children closing rest openingHypothesis
      childrenHypothesis restHypothesis =>
      have apart := apart_of_nodup distinct
      rw [holder] at held
      simp only [ids, List.mem_append, Option.mem_toList]
      rw [childrenOf]
      split at held
      · rename_i among
        simp only [Option.some.injEq, Prod.mk.injEq] at held
        rw [if_pos held.1]
        exact ⟨Or.inl held.1, among⟩
      · split at held
        · obtain ⟨inOpening, among⟩ :=
            openingHypothesis apart.openingDistinct held
          rw [if_neg (apart.ofOpening inOpening).1, if_pos inOpening]
          exact ⟨Or.inr (Or.inl inOpening), among⟩
        · split at held
          · obtain ⟨inChildren, among⟩ :=
              childrenHypothesis apart.childrenDistinct held
            obtain ⟨notHere, notOpening, -⟩ := apart.ofChildren inChildren
            rw [if_neg notHere, if_neg notOpening, if_pos inChildren]
            exact ⟨Or.inr (Or.inr (Or.inl inChildren)), among⟩
          · obtain ⟨inRest, among⟩ := restHypothesis apart.restDistinct held
            obtain ⟨notHere, notOpening, notChildren⟩ := apart.ofRest inRest
            rw [if_neg notHere, if_neg notOpening, if_neg notChildren]
            exact ⟨Or.inr (Or.inr (Or.inr inRest)), among⟩

end

/-! ## Children and their parents -/

variable {parent other : Nat}

theorem mem_ids_of_mem_childrenOf
    (among : id ∈ (forest.childrenOf parent).siblings) :
    id ∈ forest.ids :=
  (childrenOf_ids_sublist parent forest).subset
    ((siblings_sublist _).subset among)

theorem mem_siblings_childrenOf_node
    {mark : Option Nat}
    {data : κ}
    {opening children rest : TextForest α κ}
    {closing : List α}
    (among : id ∈ ((node mark data opening children closing
      rest).childrenOf parent).siblings) :
    (mark = some parent ∧ id ∈ children.siblings) ∨
      id ∈ (opening.childrenOf parent).siblings ∨
      id ∈ (children.childrenOf parent).siblings ∨
      id ∈ (rest.childrenOf parent).siblings := by
  rw [childrenOf] at among
  split at among
  · exact Or.inl ⟨‹_›, among⟩
  · split at among
    · exact Or.inr (Or.inl among)
    · split at among
      · exact Or.inr (Or.inr (Or.inl among))
      · exact Or.inr (Or.inr (Or.inr among))

section

variable (distinct : forest.ids.Nodup)

include distinct

section

variable (among : id ∈ (forest.childrenOf parent).siblings)

include among

theorem not_mem_siblings_of_child :
    id ∉ forest.siblings := by
  induction forest with
  | nil => exact List.not_mem_nil
  | text units rest inductionHypothesis =>
      exact inductionHypothesis distinct among
  | node mark data opening children closing rest openingHypothesis
      childrenHypothesis restHypothesis =>
      have apart := apart_of_nodup distinct
      rw [siblings, List.mem_append, Option.mem_toList, not_or]
      have outer := rest.siblings_sublist.subset
      rcases mem_siblings_childrenOf_node among with
        ⟨-, inTop⟩ | inOpening | inChildren | inRest
      · obtain ⟨notHere, -, notRest⟩ :=
          apart.ofChildren ((siblings_sublist _).subset inTop)
        exact ⟨notHere, fun inside => notRest (outer inside)⟩
      · obtain ⟨notHere, -, notRest⟩ :=
          apart.ofOpening (mem_ids_of_mem_childrenOf inOpening)
        exact ⟨notHere, fun inside => notRest (outer inside)⟩
      · obtain ⟨notHere, -, notRest⟩ :=
          apart.ofChildren (mem_ids_of_mem_childrenOf inChildren)
        exact ⟨notHere, fun inside => notRest (outer inside)⟩
      · exact ⟨(apart.ofRest (mem_ids_of_mem_childrenOf inRest)).1,
          restHypothesis apart.restDistinct inRest⟩

theorem holder_of_mem_childrenOf :
    ∃ data, forest.holder id = some (some parent, data) := by
  induction forest with
  | nil => exact absurd among List.not_mem_nil
  | text units rest inductionHypothesis =>
      exact inductionHypothesis distinct among
  | node mark data opening children closing rest openingHypothesis
      childrenHypothesis restHypothesis =>
      have apart := apart_of_nodup distinct
      rw [holder]
      rcases mem_siblings_childrenOf_node among with
        ⟨here, inTop⟩ | inOpening | inChildren | inRest
      · rw [if_pos inTop, here]
        exact ⟨data, rfl⟩
      · have inside := mem_ids_of_mem_childrenOf inOpening
        rw [if_neg fun inTop => (apart.ofOpening inside).2.1
            ((siblings_sublist _).subset inTop), if_pos inside]
        exact openingHypothesis apart.openingDistinct inOpening
      · have inside := mem_ids_of_mem_childrenOf inChildren
        rw [if_neg (not_mem_siblings_of_child apart.childrenDistinct
            inChildren),
          if_neg (apart.ofChildren inside).2.1, if_pos inside]
        exact childrenHypothesis apart.childrenDistinct inChildren
      · have inside := mem_ids_of_mem_childrenOf inRest
        obtain ⟨-, notOpening, notChildren⟩ := apart.ofRest inside
        rw [if_neg fun inTop => notChildren
            ((siblings_sublist _).subset inTop),
          if_neg notOpening, if_neg notChildren]
        exact restHypothesis apart.restDistinct inRest

omit among in
theorem parent_unique
    (isParent : id ∈ (forest.childrenOf parent).siblings)
    (isOther : id ∈ (forest.childrenOf other).siblings) :
    parent = other := by
  obtain ⟨data, held⟩ := holder_of_mem_childrenOf distinct isParent
  obtain ⟨otherData, otherHeld⟩ := holder_of_mem_childrenOf distinct isOther
  rw [held] at otherHeld
  cases otherHeld
  rfl

theorem parent_mem_detach :
    parent ∈ (forest.detach id).ids := by
  induction forest with
  | nil => exact absurd among List.not_mem_nil
  | text units rest inductionHypothesis =>
      exact inductionHypothesis distinct among
  | node mark data opening children closing rest openingHypothesis
      childrenHypothesis restHypothesis =>
      have apart := apart_of_nodup distinct
      have found := mem_siblings_childrenOf_node among
      rw [detach]
      by_cases here : mark = some id
      · -- Then the node is not inside itself, and so in the rest.
        obtain ⟨notOpening, notChildren, notRest⟩ := apart.here id here
        rcases found with ⟨-, inTop⟩ | inOpening | inChildren | inRest
        · exact absurd ((siblings_sublist _).subset inTop) notChildren
        · exact absurd (mem_ids_of_mem_childrenOf inOpening) notOpening
        · exact absurd (mem_ids_of_mem_childrenOf inChildren) notChildren
        · exact absurd (mem_ids_of_mem_childrenOf inRest) notRest
      · rw [if_neg here, ids]
        simp only [List.mem_append, Option.mem_toList]
        exact found.imp And.left (Or.imp
          (openingHypothesis apart.openingDistinct) (Or.imp
            (childrenHypothesis apart.childrenDistinct)
            (restHypothesis apart.restDistinct)))

end

end

end TextForest
