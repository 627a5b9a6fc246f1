import Selene.ProjectService
import Selene.SourcePatch

/-!
# What reading and writing do to storage

A commit and a quarantine change what is stored under one id.  A record is
readable when the decoder accepts what is stored under its own id; reading such
a record returns it and writes it back only if it was migrated or shortened.
-/

namespace Selene.Lifecycle

open Js Generation

/-! ## Storage under one id -/

/-- Storage changes at most under one id. -/
def OnlyAt (id : ProjectId) (before after : World) : Prop :=
  ∀ other, other ≠ id → after.stored other = before.stored other

theorem OnlyAt.refl (id : ProjectId) (world : World) :
    OnlyAt id world world :=
  fun _ _ => rfl

theorem OnlyAt.trans
    {id : ProjectId}
    (first second third : World)
    (earlier : OnlyAt id first second)
    (later : OnlyAt id second third) :
    OnlyAt id first third :=
  fun other different =>
    (later other different).trans (earlier other different)

section

variable
  (surroundings : Surroundings)
  (host : Host)

/-- Whether the next commit under an id puts its record in place. -/
def commitPublishes (world : World) (id : ProjectId) : Bool :=
  (surroundings.commitFails id (world.commits id)).all CommitPhase.published

/-- Whether the next quarantine under an id removes the project. -/
def quarantineRemoves (world : World) (id : ProjectId) : Bool :=
  (surroundings.quarantineFails id (world.quarantines id)).all
    QuarantinePhase.removed

variable (id : ProjectId)

theorem records_commit
    (next : LocalProjectRecord)
    (world : World) :
    (commit surroundings id next world).2.records =
      if commitPublishes surroundings world id = true then
        world.records.set ⟨id, surroundings.kept next.toValue⟩
      else world.records := by
  unfold commit commitPublishes
  cases surroundings.commitFails id (world.commits id) with
  | none => rfl
  | some phase => cases phase <;> rfl

variable (entry : ProjectQuarantineEntry)

theorem records_storeQuarantine
    (world : World) :
    (storeQuarantine surroundings entry world).2.records =
      if quarantineRemoves surroundings world entry.projectId = true then
        world.records.delete entry.projectId
      else world.records := by
  obtain ⟨id, detectedAt, reason, raw⟩ := entry
  unfold storeQuarantine quarantineRemoves
  cases failure : surroundings.quarantineFails id (world.quarantines id) with
  | none => simp [failure]
  | some phase => cases phase <;> simp [failure] <;> rfl

theorem stored_commit
    (id other : ProjectId)
    (next : LocalProjectRecord)
    (world : World) :
    (commit surroundings id next world).2.stored other =
      if id = other ∧ commitPublishes surroundings world id = true then
        some (surroundings.kept next.toValue)
      else world.stored other := by
  rw [World.stored, records_commit]
  by_cases published : commitPublishes surroundings world id = true
  · rw [if_pos published, Table.find?_set]
    by_cases same : id = other
    · rw [if_pos same, if_pos ⟨same, published⟩]
      rfl
    · rw [if_neg same, if_neg fun both => same both.1]
      rfl
  · rw [if_neg published, if_neg fun both => published both.2]
    rfl

theorem stored_storeQuarantine
    (other : ProjectId)
    (world : World) :
    (storeQuarantine surroundings entry world).2.stored other =
      if other = entry.projectId ∧
          quarantineRemoves surroundings world entry.projectId = true then none
      else world.stored other := by
  rw [World.stored, records_storeQuarantine]
  by_cases removed : quarantineRemoves surroundings world entry.projectId = true
  · rw [if_pos removed, Table.find?_delete]
    by_cases same : other = entry.projectId
    · rw [if_pos same, if_pos ⟨same, removed⟩]
      rfl
    · rw [if_neg same, if_neg fun both => same both.1]
      rfl
  · rw [if_neg removed, if_neg fun both => removed both.2]
    rfl

theorem quarantine_eq
    (reason : JsString)
    (raw : RawValue)
    (world : World) :
    ∃ entry later,
      entry.projectId = id ∧
        later.records = world.records ∧
        later.quarantines = world.quarantines ∧
        quarantine surroundings host id reason raw world =
          storeQuarantine surroundings entry later := by
  unfold quarantine
  cases capture host.platform raw host.maxQuarantineBytes with
  | mk captured truncated =>
      exact ⟨⟨id, (surroundings.clock world.answers).val,
          quarantineReason host.platform reason truncated, captured⟩,
        { world with answers := world.answers + 1 }, rfl, rfl, rfl, rfl⟩

theorem stored_quarantine
    (id other : ProjectId)
    (reason : JsString)
    (raw : RawValue)
    (world : World) :
    (quarantine surroundings host id reason raw world).2.stored other =
      if other = id ∧ quarantineRemoves surroundings world id = true then none
      else world.stored other := by
  obtain ⟨entry, later, own, answered, counted, ran⟩ :=
    quarantine_eq surroundings host id reason raw world
  have removes : quarantineRemoves surroundings later id =
      quarantineRemoves surroundings world id := by
    rw [quarantineRemoves, quarantineRemoves, counted]
  rw [ran, stored_storeQuarantine, own, removes, World.stored, answered]
  rfl

theorem keeps_commit
    (next : LocalProjectRecord) :
    FailingState.Keeps (OnlyAt id) (commit surroundings id next) := by
  intro world other different
  rw [stored_commit, if_neg fun same => different same.1.symm]

/-! ## Readable records -/

/-- The record that is read under an id, if it can be read. -/
def World.decoded? (world : World) (id : ProjectId) : Option DecodedRecord :=
  match world.stored id with
  | none => none
  | some raw =>
      match decode host raw with
      | .error _ => none
      | .ok decoded =>
          if decoded.record.project.id = id then some decoded else none

theorem decoded?_eq_some
    {host : Host}
    {world : World}
    {id : ProjectId}
    {decoded : DecodedRecord} :
    world.decoded? host id = some decoded ↔
      ∃ raw, world.stored id = some raw ∧ decode host raw = .ok decoded ∧
        decoded.record.project.id = id := by
  unfold World.decoded?
  cases stored : world.stored id with
  | none => simp
  | some raw =>
      cases read : decode host raw with
      | error message => simp [read]
      | ok found =>
          simp only [Option.ite_none_right_eq_some, Option.some.injEq,
            exists_eq_left', read, Except.ok.injEq]
          constructor
          · rintro ⟨own, rfl⟩
            exact ⟨rfl, own⟩
          · rintro ⟨rfl, own⟩
            exact ⟨own, rfl⟩

theorem decoded?_congr
    {before after : World}
    {id : ProjectId}
    (same : after.stored id = before.stored id) :
    after.decoded? host id = before.decoded? host id := by
  unfold World.decoded?
  rw [same]

end

/-! ## A plain host -/

/-- Validators that accept no designer state. -/
def noDesignerStates : DesignerStates where
  decode _ _ := .error (js "designerState is invalid")
  validateCurrent _ _ := .ok ()
  decodePrototypeGraph _ _ := .error (js "designerState is invalid")

/-- A host for text that is normalized as it is, and for no digests. -/
noncomputable def plainHost : Host where
  platform := {
    normalize := id
    sha256 := fun _ => List.replicate 64 0x30
    numberFormat := exactNumerals
    localeCompare := compareUnits
    isAbsolute := fun path => path.head? = some 0x2F
    engineError := fun _ => js "Invalid React source workspace"
    validateUntyped := fun _ => .error (js "Invalid React source workspace")
    attempts := 8 }
  states := noDesignerStates
  maxVersions := 2
  maxQuarantineBytes := 65536
  maxImportBytes := 1048576
  two_le_maxVersions := Nat.le_refl 2

/-- A project id, given as a literal. -/
def idOf (literal : String)
    (admissible : projectIdPattern (js literal) = true) : ProjectId :=
  ⟨js literal, admissible⟩

/-- An instant, given as a literal. -/
def instantOf (literal : String) (canonical : IsCanonicalDate (js literal)) :
    Instant :=
  ⟨js literal, canonical⟩

/-- Surroundings whose clock stands and whose storage does not fail. -/
def calm : Surroundings where
  clock _ := instantOf "2024-01-02T00:00:00.000Z" (by decide +kernel)
  quarantineId _ := idOf "quarantine-0" (by decide +kernel)
  kept := id
  object _ := id
  commitFails _ _ := none
  quarantineFails _ _ := none

/-- A workspace of one empty file. -/
def plainWorkspace (project : ProjectId) (revision : JsString) : JsValue :=
  .object [
    (js "format", .string (js "selene-react-workspace/v1")),
    (js "projectId", .string project.text),
    (js "entrypoint", .string (js "App.tsx")),
    (js "files", .array [.object [
      (js "path", .string (js "App.tsx")),
      (js "content", .string []),
      (js "language", .string (js "tsx"))]]),
    (js "dependencies", .array []),
    (js "nodes", .array []),
    (js "revision", .object [
      (js "id", .string revision),
      (js "createdAt", .string (js "2024-01-01T00:00:00.000Z")),
      (js "summary", .string (js "First"))])]

/-- The input of a new project with that workspace. -/
def plainInput
    (project : ProjectId)
    (revision : JsString) :
    CreateInput where
  id := project
  name := js "Project"
  origin := .created
  workspace := plainWorkspace project revision

end Selene.Lifecycle
