import Selene.CanonicalOrder
import Selene.CollaborationCopies
import Selene.InertEquality

/-!
# Differences of revisions

`diffRevisions` lists the changes that lead from the content of one revision to
that of another: at the properties of nested objects, with paths that are JSON
pointers.  `planRevisionMerge` compares the changes of two revisions since their
base.

The contents are copies, whose objects inherit from `Object.prototype`.  A
property is looked up with `in` and by plain access, so a name that is inherited
is found in every object (`Operand`).
-/

namespace Selene.History

open Js Collaboration

/-! ## Operands -/

/-- The names of the methods of `Object.prototype`. -/
def prototypeMethods : List JsString :=
  ["constructor", "__defineGetter__", "__defineSetter__", "hasOwnProperty",
    "__lookupGetter__", "__lookupSetter__", "isPrototypeOf",
    "propertyIsEnumerable", "toString", "valueOf", "toLocaleString"].map js

/-- The accessor of the prototype. -/
def prototypeAccessor : JsString :=
  js "__proto__"

/-- What a difference is taken of: data, or what an object inherits. -/
inductive Operand where
  | data (value : JsValue)
  | method
  | objectPrototype

namespace Operand

/-- What every plain object inherits under a name. -/
def inherited (key : JsString) : Option Operand :=
  if key ∈ prototypeMethods then some .method
  else if key = prototypeAccessor then some .objectPrototype
  else none

/-- `key in value`, with `value[key]`. -/
def read? : Operand → JsString → Option Operand
  | .data (.object entries), key =>
      if key ∈ Record.keys entries then
        some (.data (Record.get entries key))
      else inherited key
  | .objectPrototype, key =>
      if key ∈ prototypeMethods then some .method
      -- The prototype of `Object.prototype`.
      else if key = prototypeAccessor then some (.data .null)
      else none
  | _, _ => none

/-- `recordObject`. -/
def recordObject : Operand → Bool
  | .data (.object _) => true
  | .objectPrototype => true
  | _ => false

/-- `Object.keys`; what `Object.prototype` has is not enumerable. -/
def keys : Operand → List JsString
  | .data (.object entries) => Record.keys entries
  | _ => []

/-- The value of an operand, unless it is `undefined`. -/
def present? : Operand → Option JsValue
  | .data .undefined => none
  | .data value => some value
  | .method => some .exotic
  | .objectPrototype => some .exotic

/-- `equal`; the boundary copies neither a function nor `Object.prototype`. -/
def equal : Operand → Operand → Bool
  | .data left, .data right => equalCollaborationValues left right
  | _, _ => false

end Operand

/-! ## Changes -/

inductive RevisionChangeKind where
  | add
  | remove
  | replace
  deriving DecidableEq

structure RevisionChange where
  kind : RevisionChangeKind
  path : JsString
  before : Option JsValue
  after : Option JsValue

/-- `pointerToken`. -/
def pointerToken (value : JsString) : JsString :=
  value.flatMap fun unit =>
    if unit = 0x7E then js "~0" else if unit = 0x2F then js "~1" else [unit]

/-- The path of a property. -/
def nextPath (path key : JsString) : JsString :=
  path ++ 0x2F :: pointerToken key

/-- The names of two objects, each once, in order. -/
def sortedKeys (left right : Operand) : List JsString :=
  sortByKey id (left.keys ++ right.keys).dedup

/-- The change of a value as a whole. -/
def wholeChange (left right : Operand) (path : JsString) : RevisionChange where
  kind :=
    if left.present?.isNone then .add
    else if right.present?.isNone then .remove
    else .replace
  path
  before := left.present?
  after := right.present?

/-- The difference of values of which one is no record. -/
def diffLeaf (left right : Operand) (path : JsString) : List RevisionChange :=
  if left.equal right then [] else [wholeChange left right path]

/--
The loop over the names of two records; `inside` is the difference of the values
that both of them have under a name.
-/
def diffKeys
    (inside : JsString → Operand → Operand → JsString → List RevisionChange)
    (left right : Operand)
    (path : JsString) :
    List RevisionChange :=
  (sortedKeys left right).flatMap fun key =>
    match left.read? key, right.read? key with
    | none, after =>
        [⟨.add, nextPath path key, none, after.bind Operand.present?⟩]
    | some before, none =>
        [⟨.remove, nextPath path key, before.present?, none⟩]
    | some before, some after => inside key before after (nextPath path key)

/-- The difference of something inherited and another operand. -/
def diffInherited (left right : Operand) (path : JsString) :
    List RevisionChange :=
  if left.equal right then []
  else if left.recordObject && right.recordObject then
    -- What `Object.prototype` has is no record.
    diffKeys (fun _ => diffLeaf) left right path
  else
    [wholeChange left right path]

/-- The difference of a value with another operand, at a path. -/
abbrev Differ := Operand → JsString → List RevisionChange

/-- The difference of what is found under a name in two records. -/
def diffFound (insides : List (JsString × Differ)) (key : JsString)
    (before after : Operand) (path : JsString) : List RevisionChange :=
  match insides.find? fun inside => inside.1 = key with
  | some inside => inside.2 after path
  | none => diffInherited before after path

mutual

/-- `diffValue`: the changes that it appends. -/
def diffValue : JsValue → Differ
  | .object entries, right, path =>
      let left := Operand.data (.object entries)
      if left.equal right then []
      else if right.recordObject then
        diffKeys (diffFound (diffEntries entries)) left right path
      else
        [wholeChange left right path]
  | left, right, path => diffLeaf (.data left) right path

/-- The differences of the values of an object with other operands. -/
def diffEntries : Record → List (JsString × Differ)
  | [] => []
  | (name, value) :: rest => (name, diffValue value) :: diffEntries rest

end

/-! ## Differences of revisions -/

/-- What the functions throw: an error of the package or of its boundary. -/
inductive HistoryError where
  | collaboration (error : CollaborationError)
  | boundary
  deriving DecidableEq

/-- `new CollaborationError('INVALID', message)`. -/
def historyInvalid (message : String) : HistoryError :=
  .collaboration (invalid (js message))

/-- `appendChange`. -/
def appendChange (changes : List RevisionChange) (change : RevisionChange) :
    Except HistoryError (List RevisionChange) :=
  if collaborationBudgets.maxItems ≤ changes.length then
    .error (historyInvalid "Revision diff exceeds the maximum item count")
  else
    .ok (changes ++ [change])

structure RevisionDiff where
  fromRevisionId : JsString
  toRevisionId : JsString
  changes : List RevisionChange

def RevisionChangeKind.text : RevisionChangeKind → JsString
  | .add => js "add"
  | .remove => js "remove"
  | .replace => js "replace"

def RevisionChange.toJs (change : RevisionChange) : JsValue :=
  .object (Record.ofFields
    [(js "kind", some (.string change.kind.text)),
      (js "path", some (.string change.path)),
      (js "before", change.before), (js "after", change.after)])

def RevisionDiff.toJs (diff : RevisionDiff) : JsValue :=
  .object (Record.ofFields
    [(js "fromRevisionId", some (.string diff.fromRevisionId)),
      (js "toRevisionId", some (.string diff.toRevisionId)),
      (js "changes", some (.array (diff.changes.map RevisionChange.toJs)))])

/-- The copy of a change. -/
def RevisionChange.copy (change : RevisionChange) : RevisionChange :=
  { change with
    before := change.before.map inertCopy
    after := change.after.map inertCopy }

/-- `diffRevisions`. -/
def diffRevisions (source target : Revision) :
    Except HistoryError RevisionDiff := do
  if ¬ (collaborationBudgets.Admits source.toJs ∧
      collaborationBudgets.Admits target.toJs) then
    throw (historyInvalid "Revision comparison input is invalid")
  let source := source.copy
  let target := target.copy
  if source.projectId ≠ target.projectId then
    throw (historyInvalid "Cannot diff revisions from different projects")
  let changes ← (diffValue source.content.val (.data target.content.val)
    []).foldlM appendChange []
  let diff : RevisionDiff := ⟨source.id, target.id, changes⟩
  if collaborationBudgets.Admits diff.toJs then
    pure { diff with
      changes := diff.changes.map RevisionChange.copy }
  else
    throw .boundary

/-! ## Merge plans -/

/-- `pathsOverlap`. -/
def pathsOverlap (left right : JsString) : Bool :=
  decide (left = right) || (right ++ [0x2F]).isPrefixOf left ||
    (left ++ [0x2F]).isPrefixOf right

structure RevisionMergeConflict where
  path : JsString
  target : RevisionChange
  source : RevisionChange

structure RevisionMergePlan where
  baseRevisionId : JsString
  targetRevisionId : JsString
  sourceRevisionId : JsString
  changes : List RevisionChange
  conflicts : List RevisionMergeConflict

def RevisionMergeConflict.toJs (conflict : RevisionMergeConflict) : JsValue :=
  .object (Record.ofFields
    [(js "path", some (.string conflict.path)),
      (js "target", some conflict.target.toJs),
      (js "source", some conflict.source.toJs)])

def RevisionMergePlan.toJs (plan : RevisionMergePlan) : JsValue :=
  .object (Record.ofFields
    [(js "baseRevisionId", some (.string plan.baseRevisionId)),
      (js "targetRevisionId", some (.string plan.targetRevisionId)),
      (js "sourceRevisionId", some (.string plan.sourceRevisionId)),
      (js "changes", some (.array (plan.changes.map RevisionChange.toJs))),
      (js "conflicts",
        some (.array (plan.conflicts.map RevisionMergeConflict.toJs)))])

def RevisionMergeConflict.copy (conflict : RevisionMergeConflict) :
    RevisionMergeConflict :=
  { conflict with
    target := conflict.target.copy
    source := conflict.source.copy }

/-- `equal(colliding.after, candidate.after)`; nothing equals `undefined`. -/
def sameAfter (first second : RevisionChange) : Bool :=
  equalCollaborationValues (presentOr first.after) (presentOr second.after)

/-- What the filter of the source changes finds. -/
def conflictOf (targetChanges : List RevisionChange)
    (candidate : RevisionChange) :
    Option RevisionMergeConflict :=
  match targetChanges.find? fun change =>
      pathsOverlap change.path candidate.path with
  | none => none
  | some colliding =>
      if sameAfter colliding candidate then none
      else some ⟨candidate.path, colliding, candidate⟩

/-- `planRevisionMerge`. -/
def planRevisionMerge (base target source : Revision) :
    Except HistoryError RevisionMergePlan := do
  if ¬ (collaborationBudgets.Admits base.toJs ∧
      collaborationBudgets.Admits target.toJs ∧
      collaborationBudgets.Admits source.toJs) then
    throw (historyInvalid "Revision merge input is invalid")
  let base := base.copy
  let target := target.copy
  let source := source.copy
  if base.projectId ≠ target.projectId ∨ base.projectId ≠ source.projectId then
    throw (historyInvalid "Cannot merge revisions from different projects")
  let targetChanges := (← diffRevisions base target).changes
  let sourceChanges := (← diffRevisions base source).changes
  let conflicts := sourceChanges.filterMap (conflictOf targetChanges)
  let safeSource := sourceChanges.filter fun candidate =>
    (conflictOf targetChanges candidate).isNone
  let plan : RevisionMergePlan :=
    ⟨base.id, target.id, source.id, safeSource, conflicts⟩
  if collaborationBudgets.Admits plan.toJs then
    pure { plan with
      changes := plan.changes.map RevisionChange.copy
      conflicts := plan.conflicts.map RevisionMergeConflict.copy }
  else
    throw .boundary

end Selene.History
