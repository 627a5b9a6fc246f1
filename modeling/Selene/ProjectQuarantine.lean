import Selene.ProjectReading

/-!
# Rejected imports

An import that is refused before storage is looked at is quarantined under the
project id that its own data names.  A quarantine removes what is stored under
its id, also when that is another, readable project.
-/

namespace Selene.Lifecycle

open Js Generation

section

variable
  {surroundings : Surroundings}
  {host : Host}

/-- Every readable project is stored as before and reads back as before. -/
def KeepsReadable (host : Host) (before after : World) : Prop :=
  ∀ id, (before.decoded? host id).isSome →
    after.stored id = before.stored id ∧
      after.decoded? host id = before.decoded? host id

theorem keepsReadable_of_stored
    {before after : World}
    (same : ∀ id, (before.decoded? host id).isSome →
      after.stored id = before.stored id) :
    KeepsReadable host before after :=
  fun id readable =>
    ⟨same id readable, decoded?_congr host (same id readable)⟩

theorem isSome_stored
    {world : World}
    {id : ProjectId}
    (readable : (world.decoded? host id).isSome) :
    (world.stored id).isSome := by
  obtain ⟨decoded, found⟩ := Option.isSome_iff_exists.mp readable
  obtain ⟨raw, stored, _, _⟩ := decoded?_eq_some.mp found
  exact Option.isSome_iff_exists.mpr ⟨raw, stored⟩

/-! ## Refused imports -/

/-- The id that a refused import is quarantined under. -/
def quarantineTarget
    (surroundings : Surroundings)
    (raw : RawValue)
    (world : World) :
    ProjectId :=
  (ownProjectId raw.value).getD (surroundings.quarantineId world.answers)

variable {raw : RawValue}

theorem stored_importRecord_of_refused
    {message : JsString}
    (refused : importDecode host raw = .error message)
    (world : World)
    (other : ProjectId) :
    (importRecord surroundings host raw world).2.stored other =
      if other = quarantineTarget surroundings raw world ∧
          quarantineRemoves surroundings world
            (quarantineTarget surroundings raw world) = true then none
      else world.stored other := by
  rw [importRecord, refused, quarantineTarget]
  cases ownProjectId raw.value with
  | some id =>
      change ((_ >>= fun _ => FailingState.fail _ : Service LocalProjectRecord)
        world).2.stored other = _
      rw [FailingState.state_bind_fail]
      exact stored_quarantine surroundings host id other _ raw world
  | none =>
      change ((_ >>= fun _ => FailingState.fail _ : Service LocalProjectRecord)
        { world with answers := world.answers + 1 }).2.stored other = _
      rw [FailingState.state_bind_fail]
      exact stored_quarantine surroundings host _ other _ raw _

theorem stored_importRecord_of_decoded
    {decoded : DecodedRecord}
    (accepted : importDecode host raw = .ok decoded)
    {world : World}
    {other : ProjectId}
    (stored : (world.stored other).isSome) :
    (importRecord surroundings host raw world).2.stored other =
      world.stored other := by
  rw [importRecord, accepted]
  change ((FailingState.read _ >>= fun _ => _ : Service LocalProjectRecord)
    world).2.stored other = _
  rw [FailingState.bind_of_ok (FailingState.read_apply _ _)]
  cases existing : world.stored decoded.record.project.id with
  | some old => rfl
  | none =>
      have different : decoded.record.project.id ≠ other := by
        rintro rfl
        rw [existing] at stored
        cases stored
      have keeps : FailingState.Keeps
          (OnlyAt decoded.record.project.id)
          (do
            let clock ← askClock surroundings
            let imported ← .lift (importedRecord clock decoded.record)
            commit surroundings decoded.record.project.id imported
            pure imported) := by
        refine FailingState.keeps_bind OnlyAt.trans (fun _ _ _ => rfl) ?_
        intro clock
        refine FailingState.keeps_bind OnlyAt.trans
          (FailingState.keeps_lift (OnlyAt.refl _) _) fun imported => ?_
        exact FailingState.keeps_bind OnlyAt.trans
          (keeps_commit surroundings _ imported) fun _ =>
            FailingState.keeps_pure (OnlyAt.refl _) imported
      exact keeps world other different.symm

theorem importRecord_rejects_of_refused
    {message : JsString}
    (refused : importDecode host raw = .error message)
    (world : World) :
    ∃ rejection,
      (importRecord surroundings host raw world).1 = .error rejection := by
  rw [importRecord, refused]
  cases ownProjectId raw.value with
  | some id => exact FailingState.rejects_bind_fail _ _ _
  | none => exact FailingState.rejects_bind_fail _ _ _

/--
A rejected import keeps every readable project unless it is refused before
storage is looked at, its quarantine goes under the id of a readable project,
and the quarantine gets as far as removing what is stored there.
-/
theorem importRecord_keepsReadable_iff
    (surroundings : Surroundings)
    (host : Host)
    (raw : RawValue)
    (world : World) :
    (∀ rejection,
      (importRecord surroundings host raw world).1 = .error rejection →
        KeepsReadable host world
          (importRecord surroundings host raw world).2) ↔
      ¬((importDecode host raw).toOption = none ∧
        (world.decoded? host
          (quarantineTarget surroundings raw world)).isSome ∧
        quarantineRemoves surroundings world
          (quarantineTarget surroundings raw world) = true) := by
  cases decoding : importDecode host raw with
  | ok decoded =>
      constructor
      · rintro _ ⟨nothing, _⟩
        cases nothing
      · intro _ _ _
        exact keepsReadable_of_stored fun id readable =>
          stored_importRecord_of_decoded decoding (isSome_stored readable)
  | error message =>
      constructor
      · rintro keeps ⟨_, readable, removes⟩
        obtain ⟨rejection, rejected⟩ :=
          @importRecord_rejects_of_refused surroundings host raw message
            decoding world
        have kept := (keeps rejection rejected _ readable).1
        rw [stored_importRecord_of_refused decoding,
          if_pos ⟨rfl, removes⟩] at kept
        have stored := isSome_stored readable
        rw [← kept] at stored
        cases stored
      · intro harmless _ _
        refine keepsReadable_of_stored fun id readable => ?_
        rw [stored_importRecord_of_refused decoding, if_neg]
        rintro ⟨rfl, removes⟩
        exact harmless ⟨rfl, readable, removes⟩

end

/-! ## A project that is lost -/

/-- The id of the project in the example. -/
def orders : ProjectId :=
  idOf "orders" (by decide +kernel)

/-- A value of no known format that names the project. -/
def strayImport : RawValue where
  value := .object [
    (js "format", .string (js "unknown")),
    (js "project", .object [(js "id", .string orders.text)])]
  object := id

/-- A project is created, and an import that cannot be read removes it. -/
theorem importRecord_removes_project :
    let world := World.empty.after calm plainHost
      [.create (plainInput orders (js "r1"))]
    let imported := importRecord calm plainHost strayImport world
    (∃ rejection, imported.1 = .error rejection) ∧
      (world.decoded? plainHost orders).isSome ∧
      imported.2.stored orders = none ∧
      ¬KeepsReadable plainHost world imported.2 := by
  intro world imported
  have readable : (world.decoded? plainHost orders).isSome := by
    decide +kernel
  have removed : imported.2.stored orders = none := by
    have gone : (imported.2.stored orders).isNone = true := by
      decide +kernel
    exact Option.isNone_iff_eq_none.mp gone
  have refused : ∃ message,
      importDecode plainHost strayImport = .error message := by
    have fails : (importDecode plainHost strayImport).toOption.isNone := by
      decide +kernel
    cases decoding : importDecode plainHost strayImport with
    | error message => exact ⟨message, rfl⟩
    | ok decoded =>
        rw [decoding] at fails
        cases fails
  obtain ⟨message, refused⟩ := refused
  refine ⟨importRecord_rejects_of_refused refused world, readable, removed, ?_⟩
  intro keeps
  have kept := (keeps orders readable).1
  rw [removed] at kept
  have stored := isSome_stored readable
  rw [← kept] at stored
  cases stored

end Selene.Lifecycle
