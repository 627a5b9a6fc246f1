import Selene.EnterpriseFields
import Selene.EnterprisePolicy
import Selene.InsertionTable

/-!
# Revision stores

The high-water marks of signed policies and of entitlements.  Both stores
replace a state by a compare-and-set; the states of one key form a chain that
only advances, which is what decisions on them rest on.
-/

namespace Selene.Enterprise

open Js

/-! ## States -/

/-- The state of a policy key or of an entitlement namespace. -/
structure RevisionState where
  revision : Nat
  revoked : Bool
  digest : JsString
  expiresAt : JsString
  deriving DecidableEq

/-- The checks on the fields of a state. -/
def normalizeState
    (revisionField digestField expiresAtField : String)
    (state : RevisionState) :
    Except Thrown RevisionState := do
  let revision ← boundedPositiveInteger (.number (.ofNat state.revision))
    revisionField JsNumber.maxSafeInteger
  let digest ← sha256Digest (.string state.digest) digestField
  let expiresAt ← canonicalInstant (.string state.expiresAt) expiresAtField
  pure ⟨revision, state.revoked, digest, expiresAt⟩

def normalizePolicyRevisionState :
    RevisionState → Except Thrown RevisionState :=
  normalizeState "policy revision store revision"
    "policy revision store digest" "policy revision store expiresAt"

def normalizeRevisionState (state : RevisionState) (field : String) :
    Except Thrown RevisionState :=
  normalizeState (field ++ ".revision") (field ++ ".digest")
    (field ++ ".expiresAt") state

/-- `sameState`, on states that may be absent. -/
def sameState (left right : Option RevisionState) : Bool :=
  decide (left.map RevisionState.revision = right.map RevisionState.revision) &&
    decide (left.map RevisionState.revoked = right.map RevisionState.revoked) &&
    decide (left.map RevisionState.digest = right.map RevisionState.digest) &&
    decide (left.map RevisionState.expiresAt =
      right.map RevisionState.expiresAt)

theorem normalizeState_eq_ok
    {revisionField digestField expiresAtField : String}
    {state result : RevisionState}
    (accepted : normalizeState revisionField digestField expiresAtField state =
      .ok result) :
    result = state := by
  simp only [normalizeState, bind_eq_ok, pure, Except.pure,
    Except.ok.injEq] at accepted
  obtain ⟨revision, isRevision, digest, isDigest, expiresAt, isInstant,
    rfl⟩ := accepted
  cases boundedInteger_ofNat_eq_ok isRevision
  cases sha256Digest_eq_ok isDigest
  cases (canonicalInstant_eq_ok.mp isInstant).1
  rfl

theorem sameState_iff
    {left right : Option RevisionState} :
    sameState left right = true ↔ left = right := by
  constructor
  · intro same
    simp only [sameState, Bool.and_eq_true, decide_eq_true_eq] at same
    obtain ⟨⟨⟨revision, revoked⟩, digest⟩, expiresAt⟩ := same
    cases left with
    | none =>
        cases right with
        | none => rfl
        | some right => cases revision
    | some left =>
        cases right with
        | none => cases revision
        | some right =>
            simp only [Option.map_some, Option.some.injEq] at *
            cases left
            cases right
            simp_all
  · rintro rfl
    simp [sameState]

/-! ## Policy states -/

/-- The state of the policy of an organization. -/
structure PolicyRow where
  organizationId : JsString
  policyId : JsString
  state : RevisionState
  deriving DecidableEq

def PolicyRow.key (row : PolicyRow) : JsString × JsString :=
  (row.organizationId, row.policyId)

/-- A store whose compare-and-set is atomic. -/
abbrev PolicyRevisionStore := Table PolicyRow.key

namespace PolicyRevisionStore

def read (store : PolicyRevisionStore) (organizationId policyId : JsString) :
    Option RevisionState :=
  (store.find? (organizationId, policyId)).map PolicyRow.state

def compareAndSet (store : PolicyRevisionStore)
    (organizationId policyId : JsString)
    (expected : Option RevisionState) (next : RevisionState) :
    Bool × PolicyRevisionStore :=
  if store.read organizationId policyId = expected then
    (true, store.set ⟨organizationId, policyId, next⟩)
  else
    (false, store)

theorem read_set
    (store : PolicyRevisionStore)
    (row : PolicyRow)
    (organizationId policyId : JsString) :
    PolicyRevisionStore.read (store.set row) organizationId policyId =
      if row.key = (organizationId, policyId) then some row.state
      else store.read organizationId policyId := by
  rw [read, Table.find?_set, apply_ite (Option.map PolicyRow.state)]
  rfl

theorem compareAndSet_cases
    {store after : PolicyRevisionStore}
    {organizationId policyId : JsString}
    {expected : Option RevisionState}
    {next : RevisionState}
    {swapped : Bool}
    (result : store.compareAndSet organizationId policyId expected next =
      (swapped, after)) :
    (swapped = false ∧ after = store) ∨
      (swapped = true ∧ store.read organizationId policyId = expected ∧
        after = store.set ⟨organizationId, policyId, next⟩) := by
  rw [compareAndSet] at result
  split at result
  · rename_i same
    cases result
    exact .inr ⟨rfl, same, rfl⟩
  · cases result
    exact .inl ⟨rfl, rfl⟩

end PolicyRevisionStore

/-! ## Entitlement states -/

structure RevisionNamespace where
  tenantId : JsString
  providerId : JsString
  audience : JsString
  subjectId : JsString
  resource : JsString
  deriving DecidableEq

/-- The five names, in the order of the key. -/
def RevisionNamespace.names (key : RevisionNamespace) : List JsString :=
  [key.tenantId, key.providerId, key.audience, key.subjectId, key.resource]

/-- The names with unit separators between them. -/
def RevisionNamespace.key (key : RevisionNamespace) : JsString :=
  [0x1F].intercalate key.names

/-- Names without unit separators can be read back from the key. -/
theorem RevisionNamespace.key_injective
    {first second : RevisionNamespace}
    (isFirst : ∀ name ∈ first.names, 0x1F ∉ name)
    (isSecond : ∀ name ∈ second.names, 0x1F ∉ name)
    (same : first.key = second.key) :
    first = second := by
  have names : first.names = second.names := by
    rw [← List.splitOn_intercalate 0x1F isFirst (List.cons_ne_nil _ _),
      ← List.splitOn_intercalate 0x1F isSecond (List.cons_ne_nil _ _)]
    exact congrArg (List.splitOn 0x1F) same
  cases first
  cases second
  simp_all [RevisionNamespace.names]

/-- `namespace`. -/
def VerifiedEntitlement.revisionNamespace (entitlement : VerifiedEntitlement) :
    RevisionNamespace where
  tenantId := entitlement.tenantId
  providerId := entitlement.providerId
  audience := entitlement.audience
  subjectId := entitlement.subjectId
  resource := entitlement.resource

structure RevisionRow where
  key : JsString
  state : RevisionState
  deriving DecidableEq

structure InMemoryRevisionStore where
  capacity : Nat
  isCapacity : 1 ≤ capacity ∧ capacity ≤ 10000
  values : Table RevisionRow.key

namespace InMemoryRevisionStore

/-- The constructor, on an integer. -/
def create (capacity : Nat) : Except Thrown InMemoryRevisionStore := do
  let bounds ← require (1 ≤ capacity ∧ capacity ≤ 10000)
    (.security (js "revision store capacity is invalid"))
  pure ⟨capacity, bounds.down, .empty⟩

def read (store : InMemoryRevisionStore) (key : RevisionNamespace) :
    Option RevisionState :=
  (store.values.find? key.key).map RevisionRow.state

/-- Set the state of a namespace. -/
def put (store : InMemoryRevisionStore) (key : RevisionNamespace)
    (state : RevisionState) : InMemoryRevisionStore :=
  { store with values := store.values.set ⟨key.key, state⟩ }

theorem read_put
    (store : InMemoryRevisionStore)
    (key other : RevisionNamespace)
    (state : RevisionState) :
    (store.put key state).read other =
      if key.key = other.key then some state else store.read other := by
  rw [read, put, Table.find?_set, apply_ite (Option.map RevisionRow.state)]
  rfl

/-- A new namespace needs room. -/
def HasRoom (store : InMemoryRevisionStore) (key : RevisionNamespace) : Prop :=
  store.read key = none → store.values.size < store.capacity

instance (store : InMemoryRevisionStore) (key : RevisionNamespace) :
    Decidable (store.HasRoom key) :=
  inferInstanceAs (Decidable (_ → _))

def compareAndSet (store : InMemoryRevisionStore) (key : RevisionNamespace)
    (expected : Option RevisionState) (next : RevisionState) :
    Except Thrown (Bool × InMemoryRevisionStore) :=
  if sameState (store.read key) expected then do
    check (store.HasRoom key)
      (.security (js "revision store capacity reached; failing closed"))
    let next ← normalizeState "revision" "revision digest"
      "revision expiresAt" next
    pure (true, store.put key next)
  else
    pure (false, store)

/-- The state that a revocation of a revision leaves. -/
def revokedState (current : Option RevisionState) (revision : Nat) :
    RevisionState where
  revision := max ((current.map RevisionState.revision).getD 0) revision
  revoked := true
  digest :=
    (current.map RevisionState.digest).getD (List.replicate 64 0x30)
  expiresAt :=
    (current.map RevisionState.expiresAt).getD (js "1970-01-01T00:00:00.000Z")

def revoke (store : InMemoryRevisionStore) (key : RevisionNamespace)
    (revision : JsValue) : Except Thrown InMemoryRevisionStore := do
  let revision ← boundedPositiveInteger revision "revision"
    JsNumber.maxSafeInteger
  check (store.HasRoom key)
    (.security (js "revision store capacity reached; failing closed"))
  pure (store.put key (revokedState (store.read key) revision))

variable {store after : InMemoryRevisionStore}

theorem compareAndSet_cases
    {key : RevisionNamespace}
    {expected : Option RevisionState}
    {next : RevisionState}
    {swapped : Bool}
    (result : store.compareAndSet key expected next = .ok (swapped, after)) :
    (swapped = false ∧ after = store) ∨
      (swapped = true ∧ store.read key = expected ∧
        after = store.put key next) := by
  rw [compareAndSet] at result
  split at result
  · rename_i same
    obtain ⟨_, result⟩ := check_bind_eq_ok.mp result
    obtain ⟨stored, isStored, result⟩ := bind_eq_ok.mp result
    cases Except.ok.inj result
    cases normalizeState_eq_ok isStored
    exact .inr ⟨rfl, sameState_iff.mp same, rfl⟩
  · cases result
    exact .inl ⟨rfl, rfl⟩

theorem revoke_eq_ok
    {key : RevisionNamespace}
    {revision : JsValue}
    (result : store.revoke key revision = .ok after) :
    ∃ bound, boundedPositiveInteger revision "revision"
        JsNumber.maxSafeInteger = .ok bound ∧
      after = store.put key (revokedState (store.read key) bound) := by
  obtain ⟨bound, isBound, result⟩ := bind_eq_ok.mp result
  obtain ⟨_, result⟩ := check_bind_eq_ok.mp result
  cases Except.ok.inj result
  exact ⟨bound, isBound, rfl⟩

end InMemoryRevisionStore

/-! ## Advancing -/

/-- What a policy key may come to: a new revision, or a revocation. -/
inductive PolicyAdvances : Option RevisionState → Option RevisionState → Prop
  | stays (state : Option RevisionState) : PolicyAdvances state state
  | starts (state : RevisionState) : PolicyAdvances none (some state)
  | raised {old new : RevisionState} :
      old.revoked = false → old.revision < new.revision →
      PolicyAdvances (some old) (some new)
  | revoked {old new : RevisionState} :
      new.revoked = true → old.revision ≤ new.revision →
      PolicyAdvances (some old) (some new)

/--
What a namespace may come to: its revision does not fall, and a revoked
revision stays revoked.
-/
inductive RevisionAdvances :
    Option RevisionState → Option RevisionState → Prop
  | starts (state : Option RevisionState) : RevisionAdvances none state
  | later {old new : RevisionState} :
      old.revision ≤ new.revision →
      (old.revision = new.revision → old.revoked = true → new.revoked = true) →
      RevisionAdvances (some old) (some new)

variable {first second third : Option RevisionState}
  {old new : Option RevisionState}

theorem PolicyAdvances.trans
    (early : PolicyAdvances first second)
    (late : PolicyAdvances second third) :
    PolicyAdvances first third := by
  cases early with
  | stays => exact late
  | starts =>
      cases late with
      | stays => exact .starts _
      | raised _ _ => exact .starts _
      | revoked _ _ => exact .starts _
  | raised isLive raises =>
      cases late with
      | stays => exact .raised isLive raises
      | raised _ raisesAgain => exact .raised isLive (raises.trans raisesAgain)
      | revoked isRevoked keeps =>
          exact .revoked isRevoked (raises.le.trans keeps)
  | revoked isRevoked keeps =>
      cases late with
      | stays => exact .revoked isRevoked keeps
      | raised isLive _ =>
          rw [isRevoked] at isLive
          cases isLive
      | revoked isRevokedAgain keepsAgain =>
          exact .revoked isRevokedAgain (keeps.trans keepsAgain)

theorem RevisionAdvances.refl
    (state : Option RevisionState) :
    RevisionAdvances state state := by
  cases state with
  | none => exact .starts none
  | some state => exact .later le_rfl fun _ isRevoked => isRevoked

theorem RevisionAdvances.trans
    (early : RevisionAdvances first second)
    (late : RevisionAdvances second third) :
    RevisionAdvances first third := by
  cases early with
  | starts => exact .starts third
  | later keeps staysRevoked =>
      cases late with
      | later keepsAgain staysRevokedAgain =>
          refine .later (keeps.trans keepsAgain) fun same isRevoked => ?_
          exact staysRevokedAgain (by omega)
            (staysRevoked (by omega) isRevoked)

/-- The revision of a present state is not below that of an earlier one. -/
def NeverBelow (old new : Option RevisionState) : Prop :=
  ∀ state, old = some state →
    ∃ next, new = some next ∧ state.revision ≤ next.revision

theorem PolicyAdvances.neverBelow
    (advances : PolicyAdvances old new) :
    NeverBelow old new := by
  rintro state rfl
  cases advances with
  | stays => exact ⟨state, rfl, le_rfl⟩
  | raised _ raises => exact ⟨_, rfl, raises.le⟩
  | revoked _ keeps => exact ⟨_, rfl, keeps⟩

theorem RevisionAdvances.neverBelow
    (advances : RevisionAdvances old new) :
    NeverBelow old new := by
  rintro state rfl
  cases advances with
  | later keeps _ => exact ⟨_, rfl, keeps⟩

end Selene.Enterprise
