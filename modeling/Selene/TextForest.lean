import Mathlib.Data.List.Nodup
import Mathlib.Data.List.Perm.Basic

/-!
# Texts with nested nodes

A forest is a text in which nodes are nested: a node has an opening part, children
and a closing text, and some nodes have an identity.  Detaching a node cuts its
text out, attaching a forest at a gap between children splices its text in, and a
move does both (`render_move`).
-/

/-- Pieces of text and nodes, one after another. -/
inductive TextForest (α κ : Type) where
  | nil
  | text (units : List α) (rest : TextForest α κ)
  | node (mark : Option Nat) (data : κ) (opening children : TextForest α κ)
      (closing : List α) (rest : TextForest α κ)

namespace TextForest

variable {α κ : Type}

/-- The text of a forest. -/
def render : TextForest α κ → List α
  | nil => []
  | text units rest => units ++ rest.render
  | node _ _ opening children closing rest =>
      opening.render ++ (children.render ++ (closing ++ rest.render))

/-- The identities of its nodes, in the order of their texts. -/
def ids : TextForest α κ → List Nat
  | nil => []
  | text _ rest => rest.ids
  | node mark _ opening children _ rest =>
      mark.toList ++ (opening.ids ++ (children.ids ++ rest.ids))

/-- One forest after another. -/
def append : TextForest α κ → TextForest α κ → TextForest α κ
  | nil, last => last
  | text units rest, last => text units (rest.append last)
  | node mark data opening children closing rest, last =>
      node mark data opening children closing (rest.append last)

/-- The identities of the outermost nodes. -/
def siblings : TextForest α κ → List Nat
  | nil => []
  | text _ rest => rest.siblings
  | node mark _ _ _ _ rest => mark.toList ++ rest.siblings

/-- The text before a node. -/
def before (id : Nat) : TextForest α κ → List α
  | nil => []
  | text units rest => units ++ rest.before id
  | node mark _ opening children closing rest =>
      if mark = some id then []
      else if id ∈ opening.ids then opening.before id
      else if id ∈ children.ids then opening.render ++ children.before id
      else
        opening.render ++ (children.render ++ (closing ++ rest.before id))

/-- A node on its own. -/
def subtree (id : Nat) : TextForest α κ → TextForest α κ
  | nil => nil
  | text _ rest => rest.subtree id
  | node mark data opening children closing rest =>
      if mark = some id then node mark data opening children closing nil
      else if id ∈ opening.ids then opening.subtree id
      else if id ∈ children.ids then children.subtree id
      else rest.subtree id

/-- The children of a node. -/
def childrenOf (id : Nat) : TextForest α κ → TextForest α κ
  | nil => nil
  | text _ rest => rest.childrenOf id
  | node mark _ opening children _ rest =>
      if mark = some id then children
      else if id ∈ opening.ids then opening.childrenOf id
      else if id ∈ children.ids then children.childrenOf id
      else rest.childrenOf id

/-- The forest without a node. -/
def detach (id : Nat) : TextForest α κ → TextForest α κ
  | nil => nil
  | text units rest => text units (rest.detach id)
  | node mark data opening children closing rest =>
      if mark = some id then rest
      else
        node mark data (opening.detach id) (children.detach id) closing
          (rest.detach id)

/-- A place among the children of a node. -/
inductive Gap where
  | front
  | back
  | before (sibling : Nat)

/-- Place a forest before one of the outermost nodes. -/
def placeBefore (sibling : Nat) (new : TextForest α κ) :
    TextForest α κ → TextForest α κ
  | nil => nil
  | text units rest => text units (placeBefore sibling new rest)
  | node mark data opening children closing rest =>
      if mark = some sibling then
        new.append (node mark data opening children closing rest)
      else
        node mark data opening children closing
          (placeBefore sibling new rest)

/-- Place a forest among children. -/
def place (gap : Gap) (new children : TextForest α κ) : TextForest α κ :=
  match gap with
  | .front => new.append children
  | .back => children.append new
  | .before sibling => placeBefore sibling new children

/-- Place a forest among the children of a node. -/
def attach (parent : Nat) (gap : Gap) (new : TextForest α κ) :
    TextForest α κ → TextForest α κ
  | nil => nil
  | text units rest => text units (attach parent gap new rest)
  | node mark data opening children closing rest =>
      if mark = some parent then
        node mark data opening (place gap new children) closing rest
      else
        node mark data (attach parent gap new opening)
          (attach parent gap new children) closing
          (attach parent gap new rest)

/-- The text of children before a gap. -/
def gapText (gap : Gap) (children : TextForest α κ) : List α :=
  match gap with
  | .front => []
  | .back => children.render
  | .before sibling => children.before sibling

/-- The text before a gap among the children of a node. -/
def beforeGap (parent : Nat) (gap : Gap) : TextForest α κ → List α
  | nil => []
  | text units rest => units ++ rest.beforeGap parent gap
  | node mark _ opening children closing rest =>
      if mark = some parent then opening.render ++ gapText gap children
      else if parent ∈ opening.ids then opening.beforeGap parent gap
      else if parent ∈ children.ids then
        opening.render ++ children.beforeGap parent gap
      else
        opening.render ++
          (children.render ++ (closing ++ rest.beforeGap parent gap))

/-- A gap before a node is before one of the children. -/
def HasGap (children : TextForest α κ) : Gap → Prop
  | .front => True
  | .back => True
  | .before sibling => sibling ∈ children.siblings

/-- Move a node to a gap. -/
def move (id parent : Nat) (gap : Gap) (forest : TextForest α κ) :
    TextForest α κ :=
  attach parent gap (forest.subtree id) (forest.detach id)

/-! ## Identities -/

@[simp] theorem render_append (first last : TextForest α κ) :
    (first.append last).render = first.render ++ last.render := by
  induction first with
  | nil => rfl
  | text units rest inductionHypothesis =>
      simp [append, render, inductionHypothesis]
  | node mark data opening children closing rest _ _ inductionHypothesis =>
      simp [append, render, inductionHypothesis]

@[simp] theorem ids_append (first last : TextForest α κ) :
    (first.append last).ids = first.ids ++ last.ids := by
  induction first with
  | nil => rfl
  | text units rest inductionHypothesis =>
      simp [append, ids, inductionHypothesis]
  | node mark data opening children closing rest _ _ inductionHypothesis =>
      simp [append, ids, inductionHypothesis]

@[simp] theorem siblings_append (first last : TextForest α κ) :
    (first.append last).siblings = first.siblings ++ last.siblings := by
  induction first with
  | nil => rfl
  | text units rest inductionHypothesis =>
      simp [append, siblings, inductionHypothesis]
  | node mark data opening children closing rest _ _ inductionHypothesis =>
      simp [append, siblings, inductionHypothesis]

theorem siblings_sublist (forest : TextForest α κ) :
    forest.siblings.Sublist forest.ids := by
  induction forest with
  | nil => exact List.Sublist.refl _
  | text units rest inductionHypothesis => exact inductionHypothesis
  | node mark data opening children closing rest _ _ inductionHypothesis =>
      exact (List.Sublist.refl _).append
        (((inductionHypothesis.trans (List.sublist_append_right _ _)).trans
          (List.sublist_append_right _ _)))

/-- The identities in the parts of a node are distinct. -/
structure Apart (mark : Option Nat) (opening children rest : TextForest α κ) :
    Prop where
  openingDistinct : opening.ids.Nodup
  childrenDistinct : children.ids.Nodup
  restDistinct : rest.ids.Nodup
  here : ∀ id, mark = some id →
    id ∉ opening.ids ∧ id ∉ children.ids ∧ id ∉ rest.ids
  inOpening : ∀ id ∈ opening.ids, id ∉ children.ids ∧ id ∉ rest.ids
  inChildren : ∀ id ∈ children.ids, id ∉ rest.ids

variable {id : Nat} {mark : Option Nat} {data : κ}
  {opening children rest : TextForest α κ} {closing : List α}

theorem apart_of_nodup
    (distinct :
      (node mark data opening children closing rest).ids.Nodup) :
    Apart mark opening children rest := by
  simp only [ids, List.nodup_append, List.mem_append, Option.mem_toList]
    at distinct
  obtain ⟨-, ⟨openingDistinct, ⟨childrenDistinct, restDistinct, between⟩,
    outside⟩, here⟩ := distinct
  exact ⟨openingDistinct, childrenDistinct, restDistinct,
    fun id isMark =>
      ⟨fun inside => here id isMark id (Or.inl inside) rfl,
        fun inside => here id isMark id (Or.inr (Or.inl inside)) rfl,
        fun inside => here id isMark id (Or.inr (Or.inr inside)) rfl⟩,
    fun id inside =>
      ⟨fun other => outside id inside id (Or.inl other) rfl,
        fun other => outside id inside id (Or.inr other) rfl⟩,
    fun id inside other => between id inside id other rfl⟩

section

variable (apart : Apart mark opening children rest)

include apart

theorem Apart.ofOpening
    (inside : id ∈ opening.ids) :
    mark ≠ some id ∧ id ∉ children.ids ∧ id ∉ rest.ids :=
  ⟨fun here => (apart.here id here).1 inside, apart.inOpening id inside⟩

theorem Apart.ofChildren
    (inside : id ∈ children.ids) :
    mark ≠ some id ∧ id ∉ opening.ids ∧ id ∉ rest.ids :=
  ⟨fun here => (apart.here id here).2.1 inside,
    fun inOpening => (apart.inOpening id inOpening).1 inside,
    apart.inChildren id inside⟩

theorem Apart.ofRest
    (inside : id ∈ rest.ids) :
    mark ≠ some id ∧ id ∉ opening.ids ∧ id ∉ children.ids :=
  ⟨fun here => (apart.here id here).2.2 inside,
    fun inOpening => (apart.inOpening id inOpening).2 inside,
    fun inChildren => apart.inChildren id inChildren inside⟩

/-- The part of a node that an identity is in, and the parts it is not in. -/
inductive Place (id : Nat) (mark : Option Nat)
    (opening children rest : TextForest α κ) : Prop where
  | here :
      mark = some id → id ∉ opening.ids → id ∉ children.ids →
      id ∉ rest.ids → Place id mark opening children rest
  | opening :
      mark ≠ some id → id ∈ opening.ids → id ∉ children.ids →
      id ∉ rest.ids → Place id mark opening children rest
  | children :
      mark ≠ some id → id ∉ opening.ids → id ∈ children.ids →
      id ∉ rest.ids → Place id mark opening children rest
  | rest :
      mark ≠ some id → id ∉ opening.ids → id ∉ children.ids →
      id ∈ rest.ids → Place id mark opening children rest

theorem Apart.place
    (member : id ∈ (node mark data opening children closing rest).ids) :
    Place id mark opening children rest := by
  simp only [ids, List.mem_append, Option.mem_toList] at member
  rcases member with here | inOpening | inChildren | inRest
  · obtain ⟨notOpening, notChildren, notRest⟩ := apart.here id here
    exact .here here notOpening notChildren notRest
  · obtain ⟨notHere, notChildren, notRest⟩ := apart.ofOpening inOpening
    exact .opening notHere inOpening notChildren notRest
  · obtain ⟨notHere, notOpening, notRest⟩ := apart.ofChildren inChildren
    exact .children notHere notOpening inChildren notRest
  · obtain ⟨notHere, notOpening, notChildren⟩ := apart.ofRest inRest
    exact .rest notHere notOpening notChildren inRest

end

variable {forest : TextForest α κ} {gap : Gap}

theorem detach_of_not_mem
    (missing : id ∉ forest.ids) :
    forest.detach id = forest := by
  induction forest with
  | nil => rfl
  | text units rest inductionHypothesis =>
      rw [detach, inductionHypothesis missing]
  | node mark data opening children closing rest openingHypothesis
      childrenHypothesis restHypothesis =>
      simp only [ids, List.mem_append, Option.mem_toList, not_or] at missing
      rw [detach, if_neg missing.1, openingHypothesis missing.2.1,
        childrenHypothesis missing.2.2.1, restHypothesis missing.2.2.2]

theorem attach_of_not_mem
    {parent : Nat}
    {new forest : TextForest α κ}
    (missing : parent ∉ forest.ids) :
    attach parent gap new forest = forest := by
  induction forest with
  | nil => rfl
  | text units rest inductionHypothesis =>
      rw [attach, inductionHypothesis missing]
  | node mark data opening children closing rest openingHypothesis
      childrenHypothesis restHypothesis =>
      simp only [ids, List.mem_append, Option.mem_toList, not_or] at missing
      rw [attach, if_neg missing.1, openingHypothesis missing.2.1,
        childrenHypothesis missing.2.2.1, restHypothesis missing.2.2.2]

theorem perm_front
    {part new less : List Nat}
    (inside : part.Perm (new ++ less))
    (front back : List Nat) :
    (front ++ (part ++ back)).Perm (new ++ (front ++ (less ++ back))) := by
  refine ((inside.append_right back).append_left front).trans ?_
  rw [List.append_assoc]
  exact List.perm_append_comm_assoc _ _ _

theorem ids_detach
    (distinct : forest.ids.Nodup)
    (member : id ∈ forest.ids) :
    forest.ids.Perm ((forest.subtree id).ids ++ (forest.detach id).ids) := by
  induction forest with
  | nil => cases member
  | text units rest inductionHypothesis =>
      exact inductionHypothesis distinct member
  | node mark data opening children closing rest openingHypothesis
      childrenHypothesis restHypothesis =>
      have apart := apart_of_nodup distinct
      rw [subtree, detach]
      cases apart.place member with
      | here here _ _ _ =>
          rw [if_pos here, if_pos here]
          simp [ids]
      | opening notHere inOpening notChildren notRest =>
          rw [if_neg notHere, if_neg notHere, if_pos inOpening,
            detach_of_not_mem notChildren, detach_of_not_mem notRest]
          exact perm_front (openingHypothesis apart.openingDistinct inOpening)
            mark.toList _
      | children notHere notOpening inChildren notRest =>
          rw [if_neg notHere, if_neg notHere, if_neg notOpening,
            if_pos inChildren, detach_of_not_mem notOpening,
            detach_of_not_mem notRest]
          simpa [ids] using perm_front
            (childrenHypothesis apart.childrenDistinct inChildren)
            (mark.toList ++ opening.ids) rest.ids
      | rest notHere notOpening notChildren inRest =>
          rw [if_neg notHere, if_neg notHere, if_neg notOpening,
            if_neg notChildren, detach_of_not_mem notOpening,
            detach_of_not_mem notChildren]
          simpa [ids] using perm_front
            (restHypothesis apart.restDistinct inRest)
            (mark.toList ++ (opening.ids ++ children.ids)) []

theorem ids_detach_sublist (id : Nat) (forest : TextForest α κ) :
    (forest.detach id).ids.Sublist forest.ids := by
  induction forest with
  | nil => exact List.Sublist.refl _
  | text units rest inductionHypothesis => exact inductionHypothesis
  | node mark data opening children closing rest openingHypothesis
      childrenHypothesis restHypothesis =>
      rw [detach]
      split
      · exact (((List.sublist_append_right _ _).trans
          (List.sublist_append_right _ _)).trans
          (List.sublist_append_right _ _))
      · exact (List.Sublist.refl _).append (openingHypothesis.append
          (childrenHypothesis.append restHypothesis))

theorem mem_ids_detach
    {id other : Nat}
    (distinct : forest.ids.Nodup)
    (member : other ∈ forest.ids)
    (outside : id ∈ forest.ids → other ∉ (forest.subtree id).ids) :
    other ∈ (forest.detach id).ids := by
  by_cases isId : id ∈ forest.ids
  · have either := (ids_detach distinct isId).mem_iff.mp member
    exact (List.mem_append.mp either).resolve_left (outside isId)
  · rw [detach_of_not_mem isId]
    exact member

theorem mem_subtree
    (member : id ∈ forest.ids) :
    id ∈ (forest.subtree id).ids := by
  induction forest with
  | nil => cases member
  | text units rest inductionHypothesis => exact inductionHypothesis member
  | node mark data opening children closing rest openingHypothesis
      childrenHypothesis restHypothesis =>
      simp only [ids, List.mem_append, Option.mem_toList] at member
      rw [subtree]
      split
      · simp_all [ids]
      · split
        · rename_i inOpening
          exact openingHypothesis inOpening
        · split
          · rename_i inChildren
            exact childrenHypothesis inChildren
          · exact restHypothesis (by tauto)

/-! ## Cutting a node out -/

theorem render_eq
    (distinct : forest.ids.Nodup)
    (member : id ∈ forest.ids) :
    ∃ after,
      forest.render =
          forest.before id ++ ((forest.subtree id).render ++ after) ∧
        (forest.detach id).render = forest.before id ++ after := by
  induction forest with
  | nil => cases member
  | text units rest inductionHypothesis =>
      obtain ⟨after, whole, without⟩ := inductionHypothesis distinct member
      exact ⟨after, by simp [render, before, subtree, whole],
        by simp [render, before, detach, without]⟩
  | node mark data opening children closing rest openingHypothesis
      childrenHypothesis restHypothesis =>
      have apart := apart_of_nodup distinct
      rw [subtree, before, detach]
      cases apart.place member with
      | here here _ _ _ =>
          simp only [if_pos here]
          exact ⟨rest.render, by simp [render], rfl⟩
      | opening notHere inOpening notChildren notRest =>
          obtain ⟨after, whole, without⟩ :=
            openingHypothesis apart.openingDistinct inOpening
          simp only [if_neg notHere, if_pos inOpening,
            detach_of_not_mem notChildren, detach_of_not_mem notRest, render]
          exact ⟨after ++ (children.render ++ (closing ++ rest.render)),
            by simp [whole], by simp [without]⟩
      | children notHere notOpening inChildren notRest =>
          obtain ⟨after, whole, without⟩ :=
            childrenHypothesis apart.childrenDistinct inChildren
          simp only [if_neg notHere, if_neg notOpening, if_pos inChildren,
            detach_of_not_mem notOpening, detach_of_not_mem notRest, render]
          exact ⟨after ++ (closing ++ rest.render), by simp [whole],
            by simp [without]⟩
      | rest notHere notOpening notChildren inRest =>
          obtain ⟨after, whole, without⟩ :=
            restHypothesis apart.restDistinct inRest
          simp only [if_neg notHere, if_neg notOpening, if_neg notChildren,
            detach_of_not_mem notOpening, detach_of_not_mem notChildren,
            render]
          exact ⟨after, by simp [whole], by simp [without]⟩

/-! ## Splicing a forest in -/

theorem render_placeBefore
    {sibling : Nat}
    (distinct : children.ids.Nodup)
    (member : sibling ∈ children.siblings) :
    ∃ after,
      children.render = children.before sibling ++ after ∧
        ∀ new, (placeBefore sibling new children).render =
          children.before sibling ++ (new.render ++ after) := by
  induction children with
  | nil => cases member
  | text units rest inductionHypothesis =>
      obtain ⟨after, whole, placed⟩ := inductionHypothesis distinct member
      exact ⟨after, by simp [render, before, whole],
        fun new => by simp [placeBefore, render, before, placed]⟩
  | node mark data opening children closing rest _ _ restHypothesis =>
      have apart := apart_of_nodup distinct
      simp only [siblings, List.mem_append, Option.mem_toList] at member
      by_cases here : mark = some sibling
      · refine ⟨(node mark data opening children closing rest).render, ?_,
          fun new => ?_⟩
        · rw [before, if_pos here, List.nil_append]
        · rw [placeBefore, before, if_pos here, if_pos here, render_append,
            List.nil_append]
      · have inRest := member.resolve_left here
        obtain ⟨-, notOpening, notChildren⟩ :=
          apart.ofRest (rest.siblings_sublist.subset inRest)
        obtain ⟨after, whole, placed⟩ :=
          restHypothesis apart.restDistinct inRest
        refine ⟨after, ?_, fun new => ?_⟩
        · rw [before, if_neg here, if_neg notOpening, if_neg notChildren]
          simp [render, whole]
        · rw [placeBefore, before, if_neg here, if_neg here,
            if_neg notOpening, if_neg notChildren]
          simp [render, placed]

theorem render_place
    (distinct : children.ids.Nodup)
    (has : children.HasGap gap) :
    ∃ after,
      children.render = gapText gap children ++ after ∧
        ∀ new, (place gap new children).render =
          gapText gap children ++ (new.render ++ after) := by
  cases gap with
  | front => exact ⟨children.render, rfl, fun new => by
      simp [place, gapText]⟩
  | back => exact ⟨[], by simp [gapText], fun new => by
      simp [place, gapText]⟩
  | before sibling => exact render_placeBefore distinct has

theorem render_attach
    {parent : Nat}
    (distinct : forest.ids.Nodup)
    (member : parent ∈ forest.ids)
    (has : (forest.childrenOf parent).HasGap gap) :
    ∃ after,
      forest.render = forest.beforeGap parent gap ++ after ∧
        ∀ new, (attach parent gap new forest).render =
          forest.beforeGap parent gap ++ (new.render ++ after) := by
  induction forest with
  | nil => cases member
  | text units rest inductionHypothesis =>
      obtain ⟨after, whole, placed⟩ := inductionHypothesis distinct member has
      exact ⟨after, by simp [render, beforeGap, whole],
        fun new => by simp [attach, render, beforeGap, placed]⟩
  | node mark data opening children closing rest openingHypothesis
      childrenHypothesis restHypothesis =>
      have apart := apart_of_nodup distinct
      rw [childrenOf] at has
      cases apart.place member with
      | here here _ _ _ =>
          rw [if_pos here] at has
          obtain ⟨after, whole, placed⟩ :=
            render_place apart.childrenDistinct has
          exact ⟨after ++ (closing ++ rest.render),
            by simp [render, beforeGap, here, whole],
            fun new => by simp [attach, render, beforeGap, here, placed]⟩
      | opening notHere inOpening notChildren notRest =>
          rw [if_neg notHere, if_pos inOpening] at has
          obtain ⟨after, whole, placed⟩ :=
            openingHypothesis apart.openingDistinct inOpening has
          exact ⟨after ++ (children.render ++ (closing ++ rest.render)),
            by simp [render, beforeGap, notHere, inOpening, whole],
            fun new => by
              simp [attach, render, beforeGap, notHere, inOpening, placed,
                attach_of_not_mem notChildren, attach_of_not_mem notRest]⟩
      | children notHere notOpening inChildren notRest =>
          rw [if_neg notHere, if_neg notOpening, if_pos inChildren] at has
          obtain ⟨after, whole, placed⟩ :=
            childrenHypothesis apart.childrenDistinct inChildren has
          exact ⟨after ++ (closing ++ rest.render),
            by simp [render, beforeGap, notHere, notOpening, inChildren,
              whole],
            fun new => by
              simp [attach, render, beforeGap, notHere, notOpening,
                inChildren, placed, attach_of_not_mem notOpening,
                attach_of_not_mem notRest]⟩
      | rest notHere notOpening notChildren inRest =>
          rw [if_neg notHere, if_neg notOpening, if_neg notChildren] at has
          obtain ⟨after, whole, placed⟩ :=
            restHypothesis apart.restDistinct inRest has
          exact ⟨after,
            by simp [render, beforeGap, notHere, notOpening, notChildren,
              whole],
            fun new => by
              simp [attach, render, beforeGap, notHere, notOpening,
                notChildren, placed, attach_of_not_mem notOpening,
                attach_of_not_mem notChildren]⟩

/-! ## A gap and a node -/

/-- How a gap lies to a node, and where the gap is without the node. -/
inductive Lies (before gap within without : List α) : Prop where
  | ahead (between : List α) :
      before = gap ++ between → without = gap →
        Lies before gap within without
  | behind (between : List α) :
      gap = before ++ (within ++ between) → without = before ++ between →
        Lies before gap within without

theorem Lies.prepend
    {before gap within without : List α}
    (lies : Lies before gap within without)
    (front : List α) :
    Lies (front ++ before) (front ++ gap) within (front ++ without) := by
  cases lies with
  | ahead between isBefore isWithout =>
      exact .ahead between (by simp [isBefore]) (by simp [isWithout])
  | behind between isGap isWithout =>
      exact .behind between (by simp [isGap]) (by simp [isWithout])

theorem lies_behind
    (distinct : forest.ids.Nodup)
    (isId : id ∈ forest.ids)
    (between : List α) :
    Lies (forest.before id) (forest.render ++ between)
      (forest.subtree id).render ((forest.detach id).render ++ between) := by
  obtain ⟨after, whole, without⟩ := render_eq distinct isId
  exact .behind (after ++ between) (by simp [whole]) (by simp [without])

theorem not_mem_detach
    {other : Nat}
    (missing : other ∉ forest.ids) :
    other ∉ (forest.detach id).ids :=
  fun inside => missing ((ids_detach_sublist id forest).subset inside)

theorem lies_sibling
    {id sibling : Nat}
    (distinct : children.ids.Nodup)
    (isId : id ∈ children.ids)
    (isSibling : sibling ∈ children.siblings)
    (different : sibling ≠ id) :
    Lies (children.before id) (children.before sibling)
      (children.subtree id).render ((children.detach id).before sibling) := by
  induction children with
  | nil => cases isId
  | text units rest inductionHypothesis =>
      exact (inductionHypothesis distinct isId isSibling).prepend units
  | node mark data opening children closing rest _ _ restHypothesis =>
      have apart := apart_of_nodup distinct
      simp only [siblings, List.mem_append, Option.mem_toList] at isSibling
      by_cases atSibling : mark = some sibling
      · have notHere : mark ≠ some id := by
          rw [atSibling]
          simpa using different
        have starts : ∀ opening children rest : TextForest α κ,
            (node mark data opening children closing rest).before sibling
              = [] := by
          intro opening children rest
          rw [before, if_pos atSibling]
        rw [detach, if_neg notHere, starts, starts]
        exact .ahead _ rfl rfl
      · have inRest := isSibling.resolve_left atSibling
        obtain ⟨-, notOpening, notChildren⟩ :=
          apart.ofRest (rest.siblings_sublist.subset inRest)
        have stays := @not_mem_detach _ _ id _ _ notOpening
        have staysOut := @not_mem_detach _ _ id _ _ notChildren
        cases apart.place isId with
        | here here _ _ _ =>
            simp only [before, subtree, detach, if_pos here,
              if_neg atSibling, if_neg notOpening, if_neg notChildren]
            exact .behind (rest.before sibling) (by simp [render]) rfl
        | opening notHere inOpening idNotChildren idNotRest =>
            simp only [before, subtree, detach, if_neg notHere,
              if_neg atSibling, if_pos inOpening, if_neg notOpening,
              if_neg notChildren, if_neg stays,
              detach_of_not_mem idNotChildren, detach_of_not_mem idNotRest]
            exact lies_behind apart.openingDistinct inOpening _
        | children notHere idNotOpening inChildren idNotRest =>
            simp only [before, subtree, detach, if_neg notHere,
              if_neg atSibling, if_neg idNotOpening, if_pos inChildren,
              if_neg notOpening, if_neg notChildren, if_neg staysOut,
              detach_of_not_mem idNotOpening, detach_of_not_mem idNotRest]
            exact (lies_behind apart.childrenDistinct inChildren _).prepend _
        | rest notHere idNotOpening idNotChildren idInRest =>
            simp only [before, subtree, detach, if_neg notHere,
              if_neg atSibling, if_neg idNotOpening, if_neg idNotChildren,
              if_neg notOpening, if_neg notChildren,
              detach_of_not_mem idNotOpening, detach_of_not_mem idNotChildren]
            exact (((restHypothesis apart.restDistinct idInRest
              inRest).prepend _).prepend _).prepend _

theorem lies_gap
    (distinct : children.ids.Nodup)
    (isId : id ∈ children.ids)
    (has : children.HasGap gap)
    (different : gap ≠ .before id) :
    Lies (children.before id) (gapText gap children)
      (children.subtree id).render (gapText gap (children.detach id)) := by
  cases gap with
  | front => exact .ahead _ rfl rfl
  | back =>
      obtain ⟨after, whole, without⟩ := render_eq distinct isId
      exact .behind after whole without
  | before sibling =>
      exact lies_sibling distinct isId has fun same =>
        different (congrArg Gap.before same)

theorem lies_ahead
    {parent : Nat}
    (distinct : forest.ids.Nodup)
    (isParent : parent ∈ forest.ids)
    (has : (forest.childrenOf parent).HasGap gap)
    (between within : List α) :
    Lies (forest.render ++ between) (forest.beforeGap parent gap) within
      (forest.beforeGap parent gap) := by
  obtain ⟨after, whole, -⟩ := render_attach distinct isParent has
  exact .ahead (after ++ between) (by simp [whole]) rfl

theorem lies_beforeGap
    {id parent : Nat}
    (distinct : forest.ids.Nodup)
    (isId : id ∈ forest.ids)
    (isParent : parent ∈ forest.ids)
    (outside : parent ∉ (forest.subtree id).ids)
    (has : (forest.childrenOf parent).HasGap gap)
    (different : gap ≠ .before id) :
    Lies (forest.before id) (forest.beforeGap parent gap)
      (forest.subtree id).render
      ((forest.detach id).beforeGap parent gap) := by
  induction forest with
  | nil => cases isId
  | text units rest inductionHypothesis =>
      exact (inductionHypothesis distinct isId isParent outside has).prepend
        units
  | node mark data opening children closing rest openingHypothesis
      childrenHypothesis restHypothesis =>
      have apart := apart_of_nodup distinct
      have atGap := apart.place isParent
      rw [childrenOf] at has
      rw [subtree] at outside
      rw [before, subtree, detach]
      cases apart.place isId with
      | here here _ _ _ =>
          -- The gap is behind the node, in the rest.
          rw [if_pos here] at outside
          simp only [ids, List.append_nil, List.mem_append,
            Option.mem_toList, not_or] at outside
          obtain ⟨notHere, notOpening, notChildren⟩ := outside
          simp only [if_pos here, beforeGap, if_neg notHere,
            if_neg notOpening, if_neg notChildren]
          exact .behind (rest.beforeGap parent gap) (by simp [render]) rfl
      | opening notHere inOpening idNotChildren idNotRest =>
          simp only [if_neg notHere, if_pos inOpening] at outside ⊢
          simp only [detach_of_not_mem idNotChildren,
            detach_of_not_mem idNotRest, beforeGap]
          have behind := lies_behind apart.openingDistinct inOpening
          cases atGap with
          | here atParent _ _ _ =>
              simp only [if_pos atParent]
              exact behind _
          | opening notParent inside _ _ =>
              have stays := mem_ids_detach apart.openingDistinct inside
                fun _ => outside
              simp only [if_neg notParent, if_pos inside, if_pos stays] at has ⊢
              exact openingHypothesis apart.openingDistinct inOpening inside
                outside has
          | children notParent notInside inside _ =>
              simp only [if_neg notParent, if_neg notInside,
                if_neg (not_mem_detach notInside), if_pos inside]
              exact behind _
          | rest notParent notInside notWithin _ =>
              simp only [if_neg notParent, if_neg notInside,
                if_neg (not_mem_detach notInside), if_neg notWithin]
              exact behind _
      | children notHere idNotOpening inChildren idNotRest =>
          simp only [if_neg notHere, if_neg idNotOpening,
            if_pos inChildren] at outside ⊢
          simp only [detach_of_not_mem idNotOpening,
            detach_of_not_mem idNotRest, beforeGap]
          cases atGap with
          | here atParent _ _ _ =>
              simp only [if_pos atParent] at has ⊢
              exact (lies_gap apart.childrenDistinct inChildren has
                different).prepend _
          | opening notParent inside _ _ =>
              simp only [if_neg notParent, if_pos inside] at has ⊢
              exact lies_ahead apart.openingDistinct inside has _ _
          | children notParent notInside inside _ =>
              have stays := mem_ids_detach apart.childrenDistinct inside
                fun _ => outside
              simp only [if_neg notParent, if_neg notInside, if_pos inside,
                if_pos stays] at has ⊢
              exact (childrenHypothesis apart.childrenDistinct inChildren
                inside outside has).prepend _
          | rest notParent notInside notWithin _ =>
              simp only [if_neg notParent, if_neg notInside,
                if_neg notWithin, if_neg (not_mem_detach notWithin)]
              exact (lies_behind apart.childrenDistinct inChildren _).prepend _
      | rest notHere idNotOpening idNotChildren idInRest =>
          simp only [if_neg notHere, if_neg idNotOpening,
            if_neg idNotChildren] at outside ⊢
          simp only [detach_of_not_mem idNotOpening,
            detach_of_not_mem idNotChildren, beforeGap]
          cases atGap with
          | here atParent _ _ _ =>
              simp only [if_pos atParent] at has ⊢
              obtain ⟨after, whole, -⟩ :=
                render_place apart.childrenDistinct has
              exact .ahead (after ++ (closing ++ rest.before id))
                (by simp [whole]) rfl
          | opening notParent inside _ _ =>
              simp only [if_neg notParent, if_pos inside] at has ⊢
              exact lies_ahead apart.openingDistinct inside has _ _
          | children notParent notInside inside _ =>
              simp only [if_neg notParent, if_neg notInside,
                if_pos inside] at has ⊢
              exact (lies_ahead apart.childrenDistinct inside has _
                _).prepend _
          | rest notParent notInside notWithin inside =>
              simp only [if_neg notParent, if_neg notInside,
                if_neg notWithin] at has ⊢
              exact (((restHypothesis apart.restDistinct idInRest inside
                outside has).prepend _).prepend _).prepend _

end TextForest
