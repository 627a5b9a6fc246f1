import Selene.ProjectText
import Selene.SharedLock

/-!
# Locks of the project lifecycle

Every operation of the lifecycle service reads and commits records inside
sections of `withSharedLock`, under keys made of the storage and the project id;
the product map has a key of the same shape.  An operation is the list of its
stages: the sections of a stage are requested together, and the next stage
begins when they have ended.  `configureProductShell` requests project sections
inside the section of the product map.
-/

namespace Selene.Lifecycle

open Js

/-! ## Keys -/

/-- Storage, as far as its lock keys tell it apart. -/
inductive Port where
  | memory
  | file (canonicalRoot : JsString)
  deriving DecidableEq

namespace Port

/-- What the keys of a storage start with. -/
def scope : Port → JsString
  | .memory => js "memory"
  | .file canonicalRoot => js "file:" ++ canonicalRoot

/-- The key of `withProjectLock`. -/
def projectKey (port : Port) (id : ProjectId) : JsString :=
  port.scope ++ colon :: id.text

/-- The key of `withProductMapLock`. -/
def productMapKey (port : Port) : JsString :=
  port.scope ++ colon :: js "product-map"

end Port

/-- Whether a key is that of the product map of some storage. -/
def isProductMapKey (key : JsString) : Bool :=
  decide (js ":product-map" <:+ key)

theorem append_colon_inj
    {first second : JsString}
    {left right : JsString}
    (leftPlain : colon ∉ left)
    (rightPlain : colon ∉ right)
    (same : first ++ colon :: left = second ++ colon :: right) :
    first = second ∧ left = right := by
  rcases List.append_eq_append_iff.mp same with
    ⟨between, rfl, tails⟩ | ⟨between, rfl, tails⟩
  · cases between with
    | nil => exact ⟨(List.append_nil _).symm, (List.cons.inj tails).2⟩
    | cons unit rest =>
        exact absurd ((List.cons.inj tails).2 ▸ by simp) leftPlain
  · cases between with
    | nil => exact ⟨List.append_nil _, (List.cons.inj tails).2.symm⟩
    | cons unit rest =>
        exact absurd ((List.cons.inj tails).2 ▸ by simp) rightPlain

/-- The id `product-map` is admissible, and no other shares the map's key. -/
theorem isProductMapKey_projectKey
    (port : Port)
    (id : ProjectId) :
    isProductMapKey (port.projectKey id) = true ↔
      id.text = js "product-map" := by
  rw [isProductMapKey, decide_eq_true_iff]
  constructor
  · rintro ⟨start, whole⟩
    exact (append_colon_inj (by decide) id.colon_not_mem
      whole).2.symm
  · intro same
    exact ⟨port.scope, by rw [Port.projectKey, same]; rfl⟩

/-! ## Operations -/

/--
A section that an operation requests: its key, the project whose record it reads
and commits, and the stages of project sections that its body requests.
-/
structure LockRequest where
  port : Port
  key : JsString
  project : Option ProjectId
  body : List (List ProjectId)
  deriving DecidableEq

namespace Port

/-- `withProjectLock(id, ...)` around the record of `id`. -/
def projectSection (port : Port) (id : ProjectId) : LockRequest where
  port := port
  key := port.projectKey id
  project := some id
  body := []

/-- The section of an import: the locked id and the id it commits. -/
def importSection (port : Port) (lockId writtenId : ProjectId) : LockRequest where
  port := port
  key := port.projectKey lockId
  project := some writtenId
  body := []

/-- `withProductMapLock(...)` around stages of project sections. -/
def productMapSection
    (port : Port)
    (body : List (List ProjectId)) :
    LockRequest where
  port := port
  key := port.productMapKey
  project := none
  body := body

end Port

/--
The operations by their locks, with the ids that storage lists on the way.
`onProject` stands for all that run one section on one project: `create`,
`open`, `designerState`, the guidance operations, `commitPrototypeGraph`,
`saveDesignerState`, `saveDesignerStateWithGuidance`, `commitDesignerRevision`,
`archive`, `restore`, `autosave`, `recoverAutosave`, `discardAutosave`,
`versions`, `restoreVersion` and `undo`.
-/
inductive Operation where
  | onProject (id : ProjectId)
  | listRecent (stored : List ProjectId)
  | productMap (stored active : List ProjectId)
  | configureProductShell
      (shell : ProjectId)
      (stored storedAfter active : List ProjectId)
  | productHandoffProjects (stored active members : List ProjectId)
  | duplicate (source target : ProjectId)
  | importRecord (lockId writtenId : ProjectId)
  deriving DecidableEq

/-- The stages of an operation. -/
def Operation.stages (port : Port) : Operation → List (List LockRequest)
  | .onProject id => [[port.projectSection id]]
  | .listRecent stored => [stored.map port.projectSection]
  | .productMap stored active =>
      [stored.map port.projectSection, active.map port.projectSection]
  | .configureProductShell shell stored storedAfter active =>
      [[port.productMapSection [stored, [shell]]],
        storedAfter.map port.projectSection, active.map port.projectSection]
  | .productHandoffProjects stored active members =>
      [stored.map port.projectSection, active.map port.projectSection,
        members.map port.projectSection]
  | .duplicate source target =>
      [[port.projectSection source], [port.projectSection target]]
  | .importRecord lockId writtenId => [[port.importSection lockId writtenId]]

/-! ## Sessions -/

/-- Who requests a section: an operation, or the body of a section. -/
inductive Owner where
  | operation (index : Nat)
  | section (index : Nat)
  deriving DecidableEq

/-- The call in whose section a request is made. -/
def Owner.parent : Owner → Option Nat
  | .operation _ => none
  | .section index => some index

/-- A requested section: the project it is about and the stages left. -/
structure LockSection where
  owner : Owner
  project : Option (Port × ProjectId)
  stages : List (List LockRequest)

/-- The stages left of each operation, the sections so far, and the locks. -/
structure Session where
  operations : List (List (List LockRequest))
  sections : List LockSection
  locks : SharedLocks JsString

/-- What can happen next. -/
inductive SessionEvent where
  | begins (port : Port) (operation : Operation)
  | request (owner : Owner) (request : LockRequest)
  | nextStage (owner : Owner)
  | start (index : Nat)
  | finish (index : Nat) (threw : Bool)
  deriving DecidableEq

namespace Session

def empty : Session where
  operations := []
  sections := []
  locks := .empty

/-- The stages left of an owner. -/
def stagesOf (session : Session) : Owner → Option (List (List LockRequest))
  | .operation index => session.operations[index]?
  | .section index => (session.sections[index]?).map LockSection.stages

/-- Other stages for an owner. -/
def setStages
    (session : Session)
    (owner : Owner)
    (stages : List (List LockRequest)) :
    Session :=
  match owner with
  | .operation index =>
      { session with operations := session.operations.set index stages }
  | .section index =>
      { session with
        sections := session.sections.modify index fun inner =>
          { inner with stages } }

/-- Bodies of sections make requests while the section runs. -/
def Active (session : Session) : Owner → Prop
  | .operation _ => True
  | .section index => session.locks.Runs index

instance (session : Session) (owner : Owner) :
    Decidable (session.Active owner) := by
  cases owner <;> unfold Active <;> infer_instance

/-- The section of a request, before its body has begun. -/
def requested (owner : Owner) (request : LockRequest) : LockSection where
  owner := owner
  project := request.project.map fun id => (request.port, id)
  stages := request.body.map fun stage =>
    stage.map request.port.projectSection

/-- One event; an event that cannot happen is refused. -/
def step (session : Session) : SessionEvent → Except Unit Session
  | .begins port operation =>
      pure { session with
        operations := session.operations ++ [operation.stages port] }
  | .request owner request =>
      match session.stagesOf owner with
      | some (stage :: later) => do
          check (request ∈ stage ∧ session.Active owner) ()
          let next := session.setStages owner (stage.erase request :: later)
          pure { next with
            sections := next.sections ++ [requested owner request]
            locks := next.locks.request request.key owner.parent }
      | _ => .error ()
  | .nextStage owner =>
      match session.stagesOf owner with
      | some ([] :: later) => do
          check (∀ pair ∈ session.sections.zip session.locks.calls,
            pair.1.owner = owner → pair.2.status.isReleased = true) ()
          pure (session.setStages owner later)
      | _ => .error ()
  | .start index => do
      check (session.locks.CanStart index) ()
      pure { session with locks := session.locks.setStatus index .running }
  | .finish index threw => do
      check (session.locks.CanFinish index) ()
      pure { session with locks := session.locks.release index threw }

end Session

/-! ## What every session keeps -/

/--
No project section inside the section of the product map is on the project
`product-map`, and an import commits the id that it has locked.
-/
def Operation.KeepsLocks : Operation → Prop
  | .configureProductShell shell stored _ _ =>
      ∀ id ∈ shell :: stored, id.text ≠ js "product-map"
  | .importRecord lockId writtenId => lockId = writtenId
  | _ => True

instance (operation : Operation) : Decidable operation.KeepsLocks := by
  cases operation <;> unfold Operation.KeepsLocks <;> infer_instance

/-- The product map is above the projects. -/
def mapLevel (key : JsString) : Nat :=
  if isProductMapKey key then 1 else 0

theorem mapLevel_projectKey
    (port : Port)
    {id : ProjectId}
    (plain : id.text ≠ js "product-map") :
    mapLevel (port.projectKey id) = 0 :=
  if_neg fun isMap => plain ((isProductMapKey_projectKey port id).mp isMap)

theorem mapLevel_productMapKey (port : Port) :
    mapLevel port.productMapKey = 1 :=
  if_pos (decide_eq_true ⟨port.scope, rfl⟩)

/-- What holds of every section that an operation requests. -/
structure LockRequest.Keeps (request : LockRequest) : Prop where
  project : ∀ id ∈ request.project, request.key = request.port.projectKey id
  level : request.body ≠ [] → mapLevel request.key = 1
  body : ∀ stage ∈ request.body, ∀ id ∈ stage,
    mapLevel (request.port.projectKey id) = 0

theorem keeps_projectSection
    (port : Port)
    (id : ProjectId) :
    (port.projectSection id).Keeps where
  project := by
    rintro own ⟨⟩
    rfl
  level := fun inner => absurd rfl inner
  body := by
    rintro stage ⟨⟩

theorem Operation.KeepsLocks.keeps
    {operation : Operation}
    (keepsLocks : operation.KeepsLocks)
    (port : Port) :
    ∀ stage ∈ operation.stages port, ∀ request ∈ stage, request.Keeps := by
  cases operation with
  | onProject id =>
      simpa [Operation.stages] using keeps_projectSection port id
  | listRecent stored =>
      simpa [Operation.stages] using fun id _ => keeps_projectSection port id
  | productMap stored active =>
      simpa [Operation.stages] using ⟨fun id _ => keeps_projectSection port id,
        fun id _ => keeps_projectSection port id⟩
  | configureProductShell shell stored storedAfter active =>
      have outer : (port.productMapSection [stored, [shell]]).Keeps := {
        project := by rintro id ⟨⟩
        level := fun _ => mapLevel_productMapKey port
        body := by
          intro stage member id inside
          refine mapLevel_projectKey port (keepsLocks id ?_)
          rcases List.mem_cons.mp member with rfl | member
          · exact List.mem_cons_of_mem _ inside
          · rw [List.mem_singleton.mp member] at inside
            rw [List.mem_singleton.mp inside]
            exact List.mem_cons_self }
      simpa [Operation.stages] using ⟨outer,
        fun id _ => keeps_projectSection port id,
        fun id _ => keeps_projectSection port id⟩
  | productHandoffProjects stored active members =>
      simpa [Operation.stages] using ⟨fun id _ => keeps_projectSection port id,
        fun id _ => keeps_projectSection port id,
        fun id _ => keeps_projectSection port id⟩
  | duplicate source target =>
      simpa [Operation.stages] using ⟨keeps_projectSection port source,
        keeps_projectSection port target⟩
  | importRecord lockId writtenId =>
      obtain rfl : lockId = writtenId := keepsLocks
      have same : port.importSection lockId lockId =
          port.projectSection lockId := rfl
      simpa [Operation.stages, same] using keeps_projectSection port lockId

namespace Session

/-- What holds of a session whose operations keep the locks. -/
structure Keeps (session : Session) : Prop where
  queued : session.locks.Queued
  nests : session.locks.NestsBelow mapLevel
  aligned : session.sections.length = session.locks.calls.length
  requests : ∀ (owner : Owner) (stages : List (List LockRequest)),
    session.stagesOf owner = some stages →
      ∀ stage ∈ stages, ∀ request ∈ stage, request.Keeps
  inner : ∀ (index : Nat) (inner' : LockSection),
    session.sections[index]? = some inner' →
      ∀ stage ∈ inner'.stages, ∀ request ∈ stage,
        mapLevel request.key = 0 ∧
          ∀ key ∈ session.locks.keys[index]?, mapLevel key = 1
  projects : ∀ (index : Nat) (inner' : LockSection),
    session.sections[index]? = some inner' →
      ∀ project ∈ inner'.project, ∀ key ∈ session.locks.keys[index]?,
        key = project.1.projectKey project.2

variable {session : Session} {owner : Owner}

theorem stagesOf_setStages
    {before : List (List LockRequest)}
    (found : session.stagesOf owner = some before)
    (after : List (List LockRequest))
    (other : Owner) :
    (session.setStages owner after).stagesOf other =
      if owner = other then some after else session.stagesOf other := by
  cases owner with
  | operation index =>
      cases other with
      | operation place =>
          have bound : index < session.operations.length :=
            (List.getElem?_eq_some_iff.mp found).1
          by_cases same : index = place
          · subst same
            simp [setStages, stagesOf, bound]
          · simp [setStages, stagesOf, same]
      | «section» place => rfl
  | «section» index =>
      cases other with
      | operation place => rfl
      | «section» place =>
          obtain ⟨inner, there, _⟩ := Option.map_eq_some_iff.mp found
          by_cases same : index = place
          · subst same
            simp [setStages, stagesOf, there]
          · simp [setStages, stagesOf, same]

theorem section_of_setStages
    {after : List (List LockRequest)}
    {index : Nat}
    {inner : LockSection}
    (found : (session.setStages owner after).sections[index]? = some inner) :
    ∃ earlier, session.sections[index]? = some earlier ∧
      inner.project = earlier.project ∧
      (inner.stages = earlier.stages ∨
        owner = .section index ∧ inner.stages = after) := by
  cases owner with
  | operation place => exact ⟨inner, found, rfl, .inl rfl⟩
  | «section» place =>
      simp only [setStages, List.getElem?_modify,
        Option.map_eq_map, Option.map_eq_some_iff] at found
      obtain ⟨earlier, there, rfl⟩ := found
      by_cases same : place = index
      · exact ⟨earlier, there, by simp [same]⟩
      · exact ⟨earlier, there, by simp [same]⟩

section

variable (keeps : session.Keeps)

include keeps

theorem Keeps.setStages
    {before after : List (List LockRequest)}
    (found : session.stagesOf owner = some before)
    (fewer : ∀ stage ∈ after, ∀ request ∈ stage,
      ∃ earlier ∈ before, request ∈ earlier) :
    (session.setStages owner after).Keeps := by
  have locks : (session.setStages owner after).locks = session.locks := by
    cases owner <;> rfl
  have sections : (session.setStages owner after).sections.length =
      session.sections.length := by
    cases owner with
    | operation index => rfl
    | «section» index => exact List.length_modify ..
  exact {
    queued := locks ▸ keeps.queued
    nests := locks ▸ keeps.nests
    aligned := by rw [locks, sections, keeps.aligned]
    requests := by
      intro other stages stagesFound stage member request inside
      rw [stagesOf_setStages found] at stagesFound
      by_cases same : owner = other
      · rw [if_pos same] at stagesFound
        cases stagesFound
        obtain ⟨earlier, there, request_mem⟩ := fewer stage member request inside
        exact keeps.requests owner before found earlier there request
          request_mem
      · rw [if_neg same] at stagesFound
        exact keeps.requests other stages stagesFound stage member request inside
    inner := by
      intro index inner innerFound stage member request inside
      rw [locks]
      obtain ⟨old, there, _, same | ⟨rfl, changed⟩⟩ :=
        section_of_setStages innerFound
      · exact keeps.inner index old there stage (same ▸ member) request inside
      · rw [changed] at member
        obtain ⟨earlier, listed, request_mem⟩ :=
          fewer stage member request inside
        simp only [stagesOf, there, Option.map_some, Option.some.injEq] at found
        exact keeps.inner index old there earlier (found ▸ listed) request
          request_mem
    projects := by
      intro index inner innerFound
      rw [locks]
      obtain ⟨old, there, same, _⟩ := section_of_setStages innerFound
      rw [same]
      exact keeps.projects index old there }

theorem Keeps.begins
    {stages : List (List LockRequest)}
    (good : ∀ stage ∈ stages, ∀ request ∈ stage, request.Keeps) :
    Keeps { session with operations := session.operations ++ [stages] } where
  queued := keeps.queued
  nests := keeps.nests
  aligned := keeps.aligned
  requests := by
    intro owner others found
    cases owner with
    | operation index =>
        rcases List.mem_append.mp (List.mem_of_getElem? found) with old | new
        · obtain ⟨place, there⟩ := List.mem_iff_getElem?.mp old
          exact keeps.requests (.operation place) others there
        · rw [List.mem_singleton.mp new]
          exact good
    | «section» index => exact keeps.requests (.section index) others found
  inner := keeps.inner
  projects := keeps.projects

theorem Keeps.nests_request
    {request : LockRequest}
    (active : session.Active owner)
    (level : ∀ index, owner = .section index →
      mapLevel request.key = 0 ∧
        ∀ key ∈ session.locks.keys[index]?, mapLevel key = 1) :
    (session.locks.request request.key owner.parent).NestsBelow mapLevel := by
  intro outer inner key around made keyFound aroundFound
  rw [SharedLocks.parents_request, List.getElem?_append] at made
  rw [SharedLocks.keys_request, List.getElem?_append] at keyFound aroundFound
  rw [SharedLocks.length_keys] at keyFound aroundFound
  rw [SharedLocks.length_parents] at made
  by_cases old : inner < session.locks.calls.length
  · rw [if_pos old] at made keyFound
    have less := keeps.queued.parent_lt made
    rw [if_pos (less.trans old)] at aroundFound
    exact keeps.nests outer inner key around made keyFound aroundFound
  · rw [if_neg old, List.getElem?_singleton] at made keyFound
    split at made
    · rename_i last
      rw [if_pos last] at keyFound
      obtain rfl := Option.some.inj keyFound
      obtain ⟨index, rfl⟩ : ∃ index, owner = .section index := by
        cases owner with
        | operation index => cases made
        | «section» index => exact ⟨index, rfl⟩
      obtain rfl : index = outer := Option.some.inj (Option.some.inj made)
      obtain ⟨low, high⟩ := level index rfl
      obtain ⟨call, callFound, _⟩ := active
      rw [if_pos (SharedLocks.lt_of_getElem? callFound)] at aroundFound
      rw [low, high around aroundFound]
      exact Nat.zero_lt_one
    · cases made

theorem Keeps.request
    {request : LockRequest}
    (good : request.Keeps)
    (active : session.Active owner)
    (level : ∀ index, owner = .section index →
      mapLevel request.key = 0 ∧
        ∀ key ∈ session.locks.keys[index]?, mapLevel key = 1) :
    Keeps { session with
      sections := session.sections ++ [requested owner request]
      locks := session.locks.request request.key owner.parent } := by
  have aligned := keeps.aligned
  have keyOf : ∀ (index : Nat) (inner : LockSection),
      (session.sections ++ [requested owner request])[index]? = some inner →
        session.sections[index]? = some inner ∧
            (session.locks.keys ++ [request.key])[index]? =
              session.locks.keys[index]? ∨
          inner = requested owner request ∧
            (session.locks.keys ++ [request.key])[index]? =
              some request.key := by
    intro index inner found
    rw [List.getElem?_append] at found ⊢
    rw [SharedLocks.length_keys, ← aligned]
    by_cases old : index < session.sections.length
    · rw [if_pos old] at found ⊢
      exact .inl ⟨found, rfl⟩
    · rw [if_neg old, List.getElem?_singleton] at found ⊢
      split at found
      · rename_i last
        exact .inr ⟨(Option.some.inj found).symm, if_pos last⟩
      · cases found
  exact {
    queued := by
      refine keeps.queued.request request.key ?_
      intro index inside
      cases owner with
      | operation place => cases inside
      | «section» place =>
          obtain rfl := Option.some.inj inside
          exact active
    nests := keeps.nests_request active level
    aligned := by
      simp only [SharedLocks.request, List.length_append,
        List.length_singleton, aligned]
    requests := by
      intro other stages found
      cases other with
      | operation index => exact keeps.requests (.operation index) stages found
      | «section» index =>
          obtain ⟨inner, innerFound, rfl⟩ := Option.map_eq_some_iff.mp found
          rcases keyOf index inner innerFound with ⟨old, _⟩ | ⟨rfl, _⟩
          · exact keeps.requests (.section index) inner.stages
              (by rw [stagesOf, old]; rfl)
          · intro stage member own inside
            obtain ⟨ids, _, rfl⟩ := List.mem_map.mp member
            obtain ⟨id, _, rfl⟩ := List.mem_map.mp inside
            exact keeps_projectSection request.port id
    inner := by
      intro index inner found stage member own inside
      rw [SharedLocks.keys_request]
      rcases keyOf index inner found with ⟨old, same⟩ | ⟨rfl, same⟩
      · rw [same]
        exact keeps.inner index inner old stage member own inside
      · rw [same]
        obtain ⟨ids, listed, rfl⟩ := List.mem_map.mp member
        obtain ⟨id, listedId, rfl⟩ := List.mem_map.mp inside
        refine ⟨good.body ids listed id listedId, ?_⟩
        rintro key ⟨⟩
        exact good.level (List.ne_nil_of_mem listed)
    projects := by
      intro index inner found project member
      rw [SharedLocks.keys_request]
      rcases keyOf index inner found with ⟨old, same⟩ | ⟨rfl, same⟩
      · rw [same]
        exact keeps.projects index inner old project member
      · rw [same]
        rintro key ⟨⟩
        obtain ⟨id, own, rfl⟩ := Option.map_eq_some_iff.mp member
        exact good.project id own }

theorem Keeps.locks
    {locks : SharedLocks JsString}
    (queued : locks.Queued)
    (keys : locks.keys = session.locks.keys)
    (parents : locks.parents = session.locks.parents) :
    Keeps { session with locks } where
  queued := queued
  nests := by
    intro outer inner key around
    change locks.parents[inner]? = _ → locks.keys[inner]? = _ →
      locks.keys[outer]? = _ → _
    rw [keys, parents]
    exact keeps.nests outer inner key around
  aligned := by
    change session.sections.length = locks.calls.length
    rw [← SharedLocks.length_keys, keys, SharedLocks.length_keys,
      keeps.aligned]
  requests := keeps.requests
  inner := by
    change ∀ index inner, _ → ∀ stage ∈ _, ∀ request ∈ stage, _ ∧
      ∀ key ∈ locks.keys[index]?, _
    rw [keys]
    exact keeps.inner
  projects := by
    change ∀ index inner, _ → ∀ project ∈ _, ∀ key ∈ locks.keys[index]?, _
    rw [keys]
    exact keeps.projects

/-- Every event keeps the session, if operations begin that keep the locks. -/
theorem Keeps.step
    {next : Session}
    {event : SessionEvent}
    (orderly : ∀ port operation, event = .begins port operation →
      operation.KeepsLocks)
    (taken : session.step event = .ok next) :
    next.Keeps := by
  cases event with
  | begins port operation =>
      cases taken
      exact keeps.begins ((orderly port operation rfl).keeps port)
  | request owner request =>
      rw [Session.step] at taken
      split at taken
      · rename_i stage later found
        obtain ⟨⟨member, active⟩, rest⟩ := check_bind_eq_ok.mp taken
        cases rest
        have own := keeps.requests owner _ found stage List.mem_cons_self
          request member
        have fewer : (session.setStages owner
            (stage.erase request :: later)).Keeps := by
          refine keeps.setStages found fun left leftMember other inside => ?_
          rcases List.mem_cons.mp leftMember with rfl | behind
          · exact ⟨stage, List.mem_cons_self, List.mem_of_mem_erase inside⟩
          · exact ⟨left, List.mem_cons_of_mem _ behind, inside⟩
        have locks : (session.setStages owner
            (stage.erase request :: later)).locks = session.locks := by
          cases owner <;> rfl
        refine fewer.request own ?_ ?_
        · cases owner with
          | operation index => trivial
          | «section» index =>
              rw [Active, locks]
              exact active
        · rintro index rfl
          rw [locks]
          obtain ⟨inner, there, stages⟩ := Option.map_eq_some_iff.mp found
          exact keeps.inner index inner there stage
            (stages ▸ List.mem_cons_self) request member
      · cases taken
  | nextStage owner =>
      rw [Session.step] at taken
      split at taken
      · rename_i later found
        obtain ⟨_, rest⟩ := check_bind_eq_ok.mp taken
        cases rest
        exact keeps.setStages found fun stage member request inside =>
          ⟨stage, List.mem_cons_of_mem _ member, inside⟩
      · cases taken
  | start index =>
      obtain ⟨can, rest⟩ := check_bind_eq_ok.mp taken
      cases rest
      exact keeps.locks (keeps.queued.start can)
        (SharedLocks.keys_setStatus ..) (SharedLocks.parents_setStatus ..)
  | finish index threw =>
      obtain ⟨can, rest⟩ := check_bind_eq_ok.mp taken
      cases rest
      exact keeps.locks (keeps.queued.release can threw)
        (SharedLocks.keys_release ..) (SharedLocks.parents_release ..)

/-! ## Safety -/

/--
What the locks promise: sections about one project exclude each other; sections
on one key start in the order of their requests, after the earlier ones have
returned or thrown; a section that has ended holds up nobody, and the next one
can start; no section requests, at any depth, a key that it holds; and nothing
waits in a circle.
-/
structure Safe (session : Session) : Prop where
  exclusive : ∀ (first second : Nat) (inner other : LockSection)
    (project : Port × ProjectId),
    session.sections[first]? = some inner →
    session.sections[second]? = some other →
    inner.project = some project → other.project = some project →
    session.locks.Runs first → session.locks.Runs second → first = second
  inOrder : ∀ (first second : Nat) (call other : LockCall JsString),
    session.locks.calls[first]? = some call →
    session.locks.calls[second]? = some other →
    call.key = other.key → first < second → other.status ≠ .waiting →
    call.status.isReleased = true
  releases : ∀ (index : Nat) (call : LockCall JsString),
    session.locks.calls[index]? = some call →
    call.status.isReleased = true → ∀ other,
      ¬session.locks.WaitsFor other index
  next : ∀ (index : Nat) (call : LockCall JsString),
    session.locks.calls[index]? = some call → call.status = .waiting →
    (∀ (other : Nat) (entry : LockCall JsString),
      session.locks.calls[other]? = some entry → entry.key = call.key →
      other < index → entry.status.isReleased = true) →
    session.locks.CanStart index
  notSelf : ∀ (outer inner : Nat) (call entry : LockCall JsString),
    Relation.TransGen session.locks.Encloses outer inner →
    session.locks.calls[inner]? = some call →
    session.locks.calls[outer]? = some entry → call.key ≠ entry.key
  acyclic : ∀ index, ¬Relation.TransGen session.locks.WaitsFor index index

theorem Keeps.exclusive
    {first second : Nat}
    {inner other : LockSection}
    {project : Port × ProjectId}
    (found : session.sections[first]? = some inner)
    (otherFound : session.sections[second]? = some other)
    (about : inner.project = some project)
    (otherAbout : other.project = some project)
    (runs : session.locks.Runs first)
    (otherRuns : session.locks.Runs second) :
    first = second := by
  obtain ⟨call, there, running⟩ := runs
  obtain ⟨otherCall, otherThere, otherRunning⟩ := otherRuns
  have keyOf : ∀ (index : Nat) (call : LockCall JsString),
      session.locks.calls[index]? = some call →
        session.locks.keys[index]? = some call.key := by
    intro index call there
    rw [SharedLocks.keys, List.getElem?_map, there, Option.map_some]
  have key := keeps.projects first inner found project about call.key
    (keyOf first call there)
  have otherKey := keeps.projects second other otherFound project otherAbout
    otherCall.key (keyOf second otherCall otherThere)
  exact keeps.queued.exclusive there otherThere running otherRunning
    (key.trans otherKey.symm)

theorem Keeps.safe :
    session.Safe where
  exclusive := fun _ _ _ _ _ found otherFound about otherAbout =>
    keeps.exclusive found otherFound about otherAbout
  inOrder := fun first second call other found otherFound same less started =>
    keeps.queued.ordered second other otherFound started first call found same
      less
  releases := by
    intro index call found released other waits
    obtain ⟨entry, there, pending⟩ := waits.unfinished
    obtain rfl := Option.some.inj (found.symm.trans there)
    rw [released] at pending
    cases pending
  next := fun _ _ found waiting first =>
    keeps.queued.canStart found waiting first
  notSelf := fun _ _ _ _ encloses found outerFound =>
    keeps.queued.key_ne_of_encloses keeps.nests encloses found outerFound
  acyclic := keeps.queued.acyclic keeps.nests

end

end Session

end Selene.Lifecycle
