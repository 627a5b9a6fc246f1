import Selene.RevisionDiff

/-!
# Paths of changes

A path is read back as the names that lead to a property, and the paths of two
changes of one difference do not overlap.
-/

namespace Selene.History

open Js Collaboration

/-! ## Pointers -/

/-- The path of a list of names. -/
def pointer (names : List JsString) : JsString :=
  names.flatMap fun name => 0x2F :: pointerToken name

@[simp] theorem pointer_nil : pointer [] = [] :=
  rfl

theorem pointer_cons (name : JsString) (rest : List JsString) :
    pointer (name :: rest) = 0x2F :: (pointerToken name ++ pointer rest) := by
  simp [pointer]

theorem nextPath_pointer (names : List JsString) (name : JsString) :
    nextPath (pointer names) name = pointer (names ++ [name]) := by
  simp [nextPath, pointer]

theorem not_mem_pointerToken (name : JsString) :
    0x2F ∉ pointerToken name := by
  intro member
  obtain ⟨unit, -, inside⟩ := List.mem_flatMap.mp member
  split at inside
  · revert inside
    decide
  · split at inside
    · revert inside
      decide
    · rename_i different
      exact different (List.mem_singleton.mp inside).symm

/-- The text that a token stands for. -/
def unescapeToken : JsString → JsString
  | [] => []
  | 0x7E :: 0x30 :: rest => 0x7E :: unescapeToken rest
  | 0x7E :: 0x31 :: rest => 0x2F :: unescapeToken rest
  | unit :: rest => unit :: unescapeToken rest

theorem unescapeToken_pointerToken (name : JsString) :
    unescapeToken (pointerToken name) = name := by
  induction name with
  | nil => rfl
  | cons unit rest inductionHypothesis =>
      have split : pointerToken (unit :: rest) =
          (if unit = 0x7E then js "~0" else if unit = 0x2F then js "~1"
            else [unit]) ++ pointerToken rest := rfl
      rw [split]
      by_cases tilde : unit = 0x7E
      · rw [if_pos tilde, tilde]
        show unescapeToken (0x7E :: 0x30 :: pointerToken rest) = _
        rw [unescapeToken, inductionHypothesis]
      · rw [if_neg tilde]
        by_cases slash : unit = 0x2F
        · rw [if_pos slash, slash]
          show unescapeToken (0x7E :: 0x31 :: pointerToken rest) = _
          rw [unescapeToken, inductionHypothesis]
        · rw [if_neg slash, List.singleton_append, unescapeToken,
            inductionHypothesis]
          · exact fun _ same => absurd same tilde
          · exact fun _ same => absurd same tilde

/-- The names that a path leads through. -/
def pointerNames (path : JsString) : List JsString :=
  (path.splitOn 0x2F).tail.map unescapeToken

theorem pointerNames_pointer (names : List JsString) :
    pointerNames (pointer names) = names := by
  have joined : ∀ tokens : List JsString,
      [0x2F].intercalate ([] :: tokens) =
        tokens.flatMap fun token => 0x2F :: token := by
    intro tokens
    induction tokens with
    | nil => rfl
    | cons token rest inductionHypothesis =>
        cases rest with
        | nil => simp [List.intercalate]
        | cons next others =>
            simp [List.intercalate, List.intersperse] at inductionHypothesis ⊢
            simp [inductionHypothesis]
  have isJoined : pointer names =
      [0x2F].intercalate ([] :: names.map pointerToken) := by
    rw [joined, List.flatMap_map]
    rfl
  rw [pointerNames, isJoined, List.splitOn_intercalate]
  · simp [Function.comp_def, unescapeToken_pointerToken]
  · intro token member
    rcases List.mem_cons.mp member with rfl | later
    · simp
    · obtain ⟨name, -, rfl⟩ := List.mem_map.mp later
      exact not_mem_pointerToken name
  · simp

theorem pointerToken_injective : Function.Injective pointerToken :=
  Function.LeftInverse.injective unescapeToken_pointerToken

/-- A text after which a token has ended. -/
def AfterToken (text : JsString) : Prop :=
  ∀ unit ∈ text.head?, unit = 0x2F

theorem afterToken_pointer (names : List JsString) :
    AfterToken (pointer names) := by
  cases names with
  | nil => simp [AfterToken]
  | cons name rest => simp [AfterToken, pointer_cons]

theorem token_unique
    {first second before after : JsString}
    (firstToken : 0x2F ∉ first)
    (secondToken : 0x2F ∉ second)
    (beforeEnds : AfterToken before)
    (afterEnds : AfterToken after)
    (same : first ++ before = second ++ after) :
    first = second ∧ before = after := by
  refine @append_inj_of_boundary _ (· ≠ 0x2F) _ _ _ _
    (fun unit member isSlash => firstToken (isSlash ▸ member))
    (fun unit member isSlash => secondToken (isSlash ▸ member)) ?_ ?_ same
  · exact fun unit isHead => not_not.mpr (beforeEnds unit isHead)
  · exact fun unit isHead => not_not.mpr (afterEnds unit isHead)

theorem isPrefix_of_pointer_append
    {first second : List JsString}
    {rest : JsString}
    (ends : AfterToken rest)
    (same : pointer first ++ rest = pointer second) :
    first <+: second := by
  induction first generalizing second with
  | nil => exact List.nil_prefix
  | cons name others inductionHypothesis =>
      cases second with
      | nil => simp [pointer_cons] at same
      | cons otherName otherRest =>
          rw [pointer_cons, pointer_cons, List.cons_append, List.cons.injEq,
            List.append_assoc] at same
          have restEnds : AfterToken (pointer others ++ rest) := by
            cases others with
            | nil => simpa using ends
            | cons => simp [AfterToken, pointer_cons]
          obtain ⟨sameToken, sameRest⟩ := token_unique
            (not_mem_pointerToken name) (not_mem_pointerToken otherName)
            restEnds (afterToken_pointer otherRest) same.2
          rw [pointerToken_injective sameToken]
          exact List.cons_prefix_cons.mpr ⟨rfl, inductionHypothesis sameRest⟩

/-- Lists of names of which neither goes on from the other. -/
def Apart (first second : List JsString) : Prop :=
  ¬ first <+: second ∧ ¬ second <+: first

theorem pathsOverlap_pointer
    {first second : List JsString}
    (apart : Apart first second) :
    pathsOverlap (pointer first) (pointer second) = false := by
  have goesOn : ∀ {some other : List JsString},
      (pointer other ++ [0x2F]).isPrefixOf (pointer some) = true →
        other <+: some := by
    intro some other isPrefix
    obtain ⟨rest, same⟩ := List.isPrefixOf_iff_prefix.mp isPrefix
    rw [List.append_assoc] at same
    exact isPrefix_of_pointer_append (by simp [AfterToken]) same
  rw [Bool.eq_false_iff]
  intro overlap
  rw [pathsOverlap, Bool.or_eq_true, Bool.or_eq_true,
    decide_eq_true_eq] at overlap
  rcases overlap with (same | isFirst) | isSecond
  · have goes : pointer first ++ [] = pointer second := by
      rw [List.append_nil, same]
    exact apart.1 (isPrefix_of_pointer_append (by simp [AfterToken]) goes)
  · exact apart.2 (goesOn isFirst)
  · exact apart.1 (goesOn isSecond)

theorem pathsOverlap_self (path : JsString) :
    pathsOverlap path path = true := by
  simp [pathsOverlap]

/-! ## Where changes are -/

/-- Changes at places below a path, of which none goes on from another. -/
def Located (names : List JsString) (changes : List RevisionChange) : Prop :=
  ∃ places : List (List JsString),
    changes.map RevisionChange.path =
        places.map (fun place => pointer (names ++ place)) ∧
      places.Pairwise Apart

theorem located_nil (names : List JsString) : Located names [] :=
  ⟨[], rfl, .nil⟩

theorem located_whole
    (names : List JsString)
    (change : RevisionChange)
    (path : change.path = pointer names) :
    Located names [change] :=
  ⟨[[]], by simp [path], List.pairwise_singleton _ _⟩

theorem located_leaf (left right : Operand) (names : List JsString) :
    Located names (diffLeaf left right (pointer names)) := by
  rw [diffLeaf]
  split
  · exact located_nil names
  · exact located_whole names _ rfl

theorem apart_cons
    {first second : JsString}
    {firstRest secondRest : List JsString} :
    (first ≠ second ∨ Apart firstRest secondRest) →
      Apart (first :: firstRest) (second :: secondRest) := by
  rintro (different | apart)
  · exact ⟨fun isPrefix => different (List.cons_prefix_cons.mp isPrefix).1,
      fun isPrefix => different (List.cons_prefix_cons.mp isPrefix).1.symm⟩
  · exact ⟨fun isPrefix => apart.1 (List.cons_prefix_cons.mp isPrefix).2,
      fun isPrefix => apart.2 (List.cons_prefix_cons.mp isPrefix).2⟩

theorem located_flatMap
    {names keys : List JsString}
    (distinct : keys.Nodup)
    {each : JsString → List RevisionChange}
    (located : ∀ key, Located (names ++ [key]) (each key)) :
    Located names (keys.flatMap each) := by
  induction keys with
  | nil => exact located_nil names
  | cons key rest inductionHypothesis =>
      obtain ⟨fresh, others⟩ := List.nodup_cons.mp distinct
      choose placesOf paths apart using located
      refine ⟨(key :: rest).flatMap fun key =>
        (placesOf key).map (key :: ·), ?_, ?_⟩
      · rw [List.map_flatMap, List.map_flatMap]
        refine List.flatMap_congr fun other _ => ?_
        rw [paths other, List.map_map]
        refine List.map_congr_left fun place _ => ?_
        simp
      · rw [List.pairwise_flatMap]
        refine ⟨fun other _ => List.pairwise_map.mpr
          ((apart other).imp fun isApart => apart_cons (Or.inr isApart)), ?_⟩
        refine distinct.imp fun {first second} different place isPlace other
          isOther => ?_
        obtain ⟨firstRest, -, rfl⟩ := List.mem_map.mp isPlace
        obtain ⟨secondRest, -, rfl⟩ := List.mem_map.mp isOther
        exact apart_cons (Or.inl different)

theorem nodup_sortedKeys (left right : Operand) :
    (sortedKeys left right).Nodup :=
  (sortByKey_perm id _).nodup_iff.mpr (List.nodup_dedup _)

theorem mem_sortedKeys
    {left right : Operand}
    {key : JsString} :
    key ∈ sortedKeys left right ↔ key ∈ left.keys ∨ key ∈ right.keys := by
  rw [sortedKeys, (sortByKey_perm id _).mem_iff, List.mem_dedup,
    List.mem_append]

theorem located_keys
    {inside : JsString → Operand → Operand → JsString → List RevisionChange}
    (names : List JsString)
    (located : ∀ key before after,
      Located (names ++ [key])
        (inside key before after (pointer (names ++ [key]))))
    (left right : Operand) :
    Located names (diffKeys inside left right (pointer names)) := by
  refine located_flatMap (nodup_sortedKeys left right) fun key => ?_
  rw [nextPath_pointer]
  split
  · exact located_whole _ _ rfl
  · exact located_whole _ _ rfl
  · exact located key _ _

theorem located_inherited (left right : Operand) (names : List JsString) :
    Located names (diffInherited left right (pointer names)) := by
  rw [diffInherited]
  split
  · exact located_nil names
  · split
    · exact located_keys names (fun key before after =>
        located_leaf before after _) left right
    · exact located_whole names _ rfl

theorem find?_diffEntries (entries : Record) (key : JsString) :
    ((diffEntries entries).find? fun inside => inside.1 = key) =
      if key ∈ entries.keys then some (key, diffValue (entries.get key))
      else none := by
  induction entries with
  | nil => rfl
  | cons entry rest inductionHypothesis =>
      obtain ⟨name, value⟩ := entry
      rw [diffEntries, List.find?_cons]
      by_cases same : name = key
      · subst same
        simp
      · simp [same, Ne.symm same, inductionHypothesis]

/-- The difference of the values that two records have under a name. -/
def diffInside (entries : Record) (key : JsString) (before after : Operand)
    (path : JsString) : List RevisionChange :=
  if key ∈ entries.keys then diffValue (entries.get key) after path
  else diffInherited before after path

theorem diffValue_object (entries : Record) (right : Operand)
    (path : JsString) :
    diffValue (.object entries) right path =
      if (Operand.data (.object entries)).equal right then []
      else if right.recordObject then
        diffKeys (diffInside entries) (.data (.object entries)) right path
      else
        [wholeChange (.data (.object entries)) right path] := by
  have inside : diffFound (diffEntries entries) = diffInside entries := by
    funext key before after next
    rw [diffFound, find?_diffEntries, diffInside]
    by_cases isKey : key ∈ entries.keys
    · rw [if_pos isKey, if_pos isKey]
    · rw [if_neg isKey, if_neg isKey]
  rw [diffValue]
  rw [inside]

theorem located_value
    {left : JsValue}
    (formed : left.WellFormed)
    (right : Operand)
    (names : List JsString) :
    Located names (diffValue left right (pointer names)) := by
  induction formed generalizing right names with
  | @object entries distinct values inductionHypothesis =>
      rw [diffValue_object]
      split
      · exact located_nil names
      · split
        · refine located_keys names (fun key before after => ?_) _ right
          rw [diffInside]
          split
          · rename_i isKey
            exact inductionHypothesis _ (Record.mem_of_get isKey) after _
          · exact located_inherited before after _
        · exact located_whole names _ rfl
  | _ => exact located_leaf _ right names

theorem pairwise_pathsOverlap
    {left : JsValue}
    (formed : left.WellFormed)
    (right : Operand) :
    (diffValue left right []).Pairwise fun first second =>
      pathsOverlap first.path second.path = false := by
  obtain ⟨places, paths, apart⟩ := located_value formed right []
  refine List.pairwise_map.mp (?_ : List.Pairwise
    (fun first second => pathsOverlap first second = false)
    ((diffValue left right []).map RevisionChange.path))
  rw [show ([] : JsString) = pointer [] from rfl, paths, List.pairwise_map]
  exact apart.imp fun isApart => pathsOverlap_pointer isApart

end Selene.History
