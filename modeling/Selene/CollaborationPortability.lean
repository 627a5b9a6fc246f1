import Selene.CollaborationReviewCalls
import Selene.CollaborationReplacement

/-!
# Portable review states

A commit checks a semantic change with a list of its own, which is shorter than
that of the portable validator: it looks neither at the lists of the scope nor
at the links of the evidence, at no fingerprint, and not at the size of the
state that the change is added to.  A review state stays portable as long as
every commit passes the checks that are left out.
-/

namespace Selene.Collaboration

open Js
open Baseline (DesignRevisionReference DesignBaseline VisualEvidence
  SemanticDesignChange)

/-! ## What the portable validator checks -/

/-- A text that `requireText` accepts with its default limit. -/
def IsText (value : JsString) : Prop :=
  isBlank value = false ∧ value.length ≤ 4000 ∧ utf8Length value ≤ 4000 * 4

instance (value : JsString) : Decidable (IsText value) :=
  inferInstanceAs (Decidable (_ ∧ _))

theorem requireText_eq_ok
    {value field : JsString} :
    requireText value field 4000 = .ok () ↔ IsText value :=
  check_eq_ok

theorem validateVisualEvidence_eq_ok
    {evidence : VisualEvidence} :
    validateVisualEvidence evidence = .ok () ↔
      IsText evidence.description ∧
        (∀ href ∈ evidence.href, IsText href) ∧
        ∀ checksum ∈ evidence.checksum, IsText checksum := by
  unfold validateVisualEvidence
  simp only [unit_bind_eq_ok, requireText_eq_ok, whenPresent_eq_ok]

variable {projectId : JsString}

theorem validateSemanticDesignChange_eq_ok
    {change : SemanticDesignChange} :
    validateSemanticDesignChange change projectId = .ok () ↔
      IsText change.id ∧ IsText change.reason ∧
        isTimestamp change.occurredAt ∧
        IsText change.beforeRevision.id ∧
        IsText change.beforeRevision.fingerprint ∧
        IsText change.currentRevision.id ∧
        IsText change.currentRevision.fingerprint ∧
        change.beforeRevision.id ≠ change.currentRevision.id ∧
        change.affected.projectId = projectId ∧
        (∀ list ∈ scopeLists change.affected, list.2.Nodup) ∧
        change.evidence ≠ [] ∧
        (∀ evidence ∈ change.evidence,
          validateVisualEvidence evidence = .ok ()) ∧
        validateChangeProvenance change.provenance = .ok () := by
  unfold validateSemanticDesignChange timestamp
  simp only [unit_bind_eq_ok, requireText_eq_ok, check_eq_ok, forM_eq_ok]

/-- The checks of a baseline besides those of the changes since it. -/
structure PortableBaseline (projectId : JsString) (baseline : DesignBaseline) :
    Prop where
  id : IsText baseline.id
  inProject : baseline.projectId = projectId
  revisionId : IsText baseline.revision.id
  fingerprint : IsText baseline.revision.fingerprint
  createdBy : IsText baseline.createdBy
  createdAt : isTimestamp baseline.createdAt

variable {state : DesignReviewState}

variable {given : CommitDesignRevisionInput} {baseline : DesignBaseline}
  {before after : Repository}

theorem validateBaseline_eq_ok :
    validateBaseline state baseline = .ok () ↔
      PortableBaseline state.projectId baseline ∧
        state.readiness = readinessOf baseline.intent ∧
        validateCurrency state = .ok () ∧
        ∀ change ∈ state.changesSinceBaseline,
          validateSemanticDesignChange change state.projectId = .ok () := by
  unfold validateBaseline timestamp
  simp only [unit_bind_eq_ok, requireText_eq_ok, check_eq_ok, forM_eq_ok]
  constructor
  · rintro ⟨id, inProject, revisionId, fingerprint, createdBy, createdAt,
      rest⟩
    exact ⟨⟨id, inProject, revisionId, fingerprint, createdBy, createdAt⟩,
      rest⟩
  · rintro ⟨portable, rest⟩
    exact ⟨portable.id, portable.inProject, portable.revisionId,
      portable.fingerprint, portable.createdBy, portable.createdAt, rest⟩

theorem validateCurrency_current
    (isCurrent : state.currency = .current) :
    validateCurrency state = .ok () ↔
      state.approvalsStale = false ∧ state.changesSinceBaseline = [] := by
  unfold validateCurrency
  rw [isCurrent]
  exact check_eq_ok

theorem validateCurrency_stale
    (isStale : state.currency = .stale) :
    validateCurrency state = .ok () ↔
      state.approvalsStale = true ∧ state.changesSinceBaseline ≠ [] := by
  unfold validateCurrency
  rw [isStale]
  exact check_eq_ok

theorem validateDesignReviewState_eq_ok
    (hasBaseline : state.baseline = some baseline) :
    validateDesignReviewState state = .ok () ↔
      collaborationBudgets.Admits state.toJs ∧
        state.format = designReviewStateFormat ∧
        IsText state.projectId ∧
        validateBaseline state baseline = .ok () := by
  unfold validateDesignReviewState owned
  simp only [unit_bind_eq_ok, requireText_eq_ok, check_eq_ok, hasBaseline]

/-! ## What a commit has to bring -/

/-- A revision that can be referred to from a portable state. -/
structure PortableRevision (revision : Revision) : Prop where
  id : IsText revision.id
  fingerprint : IsText revision.contentSha256

/-- A commit marks a baseline that can be exported. -/
structure PortableMark (context : DesignRevisionCommandContext)
    (readiness : DesignReadinessInput) (revision : Revision) : Prop where
  projectId : IsText context.projectId
  id : IsText readiness.id
  ofRevision : PortableRevision revision
  actorId : IsText context.actorId
  occurredAt : isTimestamp context.occurredAt
  fits : collaborationBudgets.Admits
    (readyState context readiness revision).toJs

/-- A commit records a change that can be exported. -/
structure PortableRecord (context : DesignRevisionCommandContext)
    (state : DesignReviewState) (change : SemanticDesignChangeInput)
    (before revision : Revision) : Prop where
  occurredAt : isTimestamp context.occurredAt
  ofBefore : PortableRevision before
  ofRevision : PortableRevision revision
  advances : before.id ≠ revision.id
  scope : ∀ list ∈ scopeLists change.affected, list.2.Nodup
  links : ∀ evidence ∈ change.evidence,
    (∀ href ∈ evidence.href, IsText href) ∧
      ∀ checksum ∈ evidence.checksum, IsText checksum
  fits : collaborationBudgets.Admits
    (staleState state (recordedChange context change before revision)).toJs

/-- What a waiting commit brings to the repository it finds. -/
structure PortableCommit (found : Repository) (waiting : WaitingCommit) :
    Prop where
  marks : ∀ readiness ∈ waiting.input.command.readiness,
    ∀ revision ∈ waiting.input.command.revision.or
        (found.revisions.find? readiness.revisionId),
      PortableMark waiting.input.context readiness revision
  records : hadBaseline found waiting.input = true →
    ∀ change ∈ waiting.input.command.semanticChange,
      ∀ revision ∈ waiting.input.command.revision,
        ∀ before ∈ waiting.before,
          PortableRecord waiting.input.context
            (reviewStateOf found waiting.input.context.projectId) change
            before revision

variable {context : DesignRevisionCommandContext} {revision : Revision}

theorem readyState_portable
    {readiness : DesignReadinessInput} :
    validateDesignReviewState (readyState context readiness revision) =
        .ok () ↔
      PortableMark context readiness revision := by
  rw [validateDesignReviewState_eq_ok rfl, validateBaseline_eq_ok]
  constructor
  · rintro ⟨fits, _, inProject, portable, _⟩
    exact ⟨inProject, portable.id,
      ⟨portable.revisionId, portable.fingerprint⟩, portable.createdBy,
      portable.createdAt, fits⟩
  · intro portable
    refine ⟨portable.fits, rfl, portable.projectId, ?_, rfl, ?_, ?_⟩
    · exact ⟨portable.id, rfl, portable.ofRevision.id,
        portable.ofRevision.fingerprint, portable.actorId,
        portable.occurredAt⟩
    · exact (validateCurrency_current rfl).mpr ⟨rfl, rfl⟩
    · intro change member
      cases member

variable {repository : Repository} {change : SemanticDesignChangeInput}

theorem checkSemanticChange_eq_ok
    (checked : checkSemanticChange repository projectId change = .ok ()) :
    change.affected.projectId = projectId ∧ IsText change.id ∧
      IsText change.reason ∧ change.evidence ≠ [] ∧
      (∀ evidence ∈ change.evidence, IsText evidence.description) ∧
      validateChangeProvenance change.provenance = .ok () := by
  unfold checkSemanticChange at checked
  obtain ⟨inProject, named⟩ := check_bind_eq_ok.mp checked
  obtain ⟨id, reasoned⟩ := unit_bind_eq_ok.mp named
  obtain ⟨reason, evident⟩ := unit_bind_eq_ok.mp reasoned
  obtain ⟨nonempty, described⟩ := check_bind_eq_ok.mp evident
  obtain ⟨descriptions, proven⟩ := unit_bind_eq_ok.mp described
  obtain ⟨provenance, _⟩ := unit_bind_eq_ok.mp proven
  refine ⟨inProject, requireText_eq_ok.mp id, requireText_eq_ok.mp reason,
    nonempty, ?_, provenance⟩
  intro evidence member
  exact requireText_eq_ok.mp (forM_eq_ok.mp descriptions evidence member)

theorem recordedChange_portable
    {before : Revision}
    (checked : checkSemanticChange repository projectId change = .ok ()) :
    validateSemanticDesignChange
        (recordedChange context change before revision) projectId = .ok () ↔
      isTimestamp context.occurredAt ∧ PortableRevision before ∧
        PortableRevision revision ∧ before.id ≠ revision.id ∧
        (∀ list ∈ scopeLists change.affected, list.2.Nodup) ∧
        ∀ evidence ∈ change.evidence,
          (∀ href ∈ evidence.href, IsText href) ∧
            ∀ checksum ∈ evidence.checksum, IsText checksum := by
  obtain ⟨inProject, id, reason, nonempty, descriptions, provenance⟩ :=
    checkSemanticChange_eq_ok checked
  rw [validateSemanticDesignChange_eq_ok]
  constructor
  · rintro ⟨_, _, occurredAt, beforeId, beforeFingerprint, currentId,
      currentFingerprint, advances, _, scope, _, evidence, _⟩
    refine ⟨occurredAt, ⟨beforeId, beforeFingerprint⟩,
      ⟨currentId, currentFingerprint⟩, advances, scope, ?_⟩
    intro piece member
    exact (validateVisualEvidence_eq_ok.mp (evidence piece member)).2
  · rintro ⟨occurredAt, portableBefore, portableRevision, advances, scope,
      links⟩
    refine ⟨id, reason, occurredAt, portableBefore.id,
      portableBefore.fingerprint, portableRevision.id,
      portableRevision.fingerprint, advances, inProject, scope, nonempty,
      ?_, provenance⟩
    intro piece member
    exact validateVisualEvidence_eq_ok.mpr
      ⟨descriptions piece member, links piece member⟩

theorem staleState_portable
    {before : Revision}
    (portable : validateDesignReviewState state = .ok ())
    (hasBaseline : state.baseline.isSome)
    (checked :
      checkSemanticChange repository state.projectId change = .ok ()) :
    validateDesignReviewState
        (staleState state (recordedChange context change before revision)) =
          .ok () ↔
      PortableRecord context state change before revision := by
  obtain ⟨baseline, isBaseline⟩ := Option.isSome_iff_exists.mp hasBaseline
  obtain ⟨_, format, projectId, baselined⟩ :=
    (validateDesignReviewState_eq_ok isBaseline).mp portable
  obtain ⟨portableBaseline, ready, _, changes⟩ :=
    validateBaseline_eq_ok.mp baselined
  have isStale :
      (staleState state
        (recordedChange context change before revision)).baseline =
          some baseline := isBaseline
  rw [validateDesignReviewState_eq_ok isStale, validateBaseline_eq_ok]
  constructor
  · rintro ⟨fits, _, _, _, _, _, each⟩
    have added := each (recordedChange context change before revision)
      (List.mem_append_right _ (List.mem_singleton_self _))
    obtain ⟨occurredAt, beforeOk, revisionOk, advances, scope, links⟩ :=
      (recordedChange_portable checked).mp added
    exact ⟨occurredAt, beforeOk, revisionOk, advances, scope, links, fits⟩
  · intro record
    refine ⟨record.fits, format, projectId, portableBaseline, ready,
      (validateCurrency_stale rfl).mpr ⟨rfl, by simp [staleState]⟩, ?_⟩
    intro other member
    rcases List.mem_append.mp member with old | added
    · exact changes other old
    · cases List.mem_singleton.mp added
      exact (recordedChange_portable checked).mpr
        ⟨record.occurredAt, record.ofBefore, record.ofRevision, record.advances,
          record.scope, record.links⟩

/-! ## One commit -/

/-- Every stored review state is accepted by the portable validator. -/
def AllPortable (repository : Repository) : Prop :=
  ∀ state ∈ repository.reviewStates.rows,
    validateDesignReviewState state = .ok ()

theorem AllPortable.of_same
    (same : after.reviewStates = before.reviewStates)
    (portable : AllPortable before) :
    AllPortable after := by
  unfold AllPortable
  rw [same]
  exact portable

theorem AllPortable.set
    (same : after.reviewStates = before.reviewStates.set state)
    (portable : AllPortable before)
    (valid : validateDesignReviewState state = .ok ()) :
    AllPortable after := by
  intro other member
  rw [same] at member
  rcases Table.mem_set.mp member with rfl | ⟨old, _⟩
  · exact valid
  · exact portable other old

theorem find?_of_hadBaseline
    {found : Repository}
    {input : CommitDesignRevisionInput}
    (had : hadBaseline found input = true) :
    found.reviewStates.find? input.context.projectId =
        some (reviewStateOf found input.context.projectId) ∧
      (reviewStateOf found input.context.projectId).baseline.isSome ∧
      input.command.readiness = none := by
  unfold hadBaseline at had
  obtain ⟨hasBaseline, unmarked⟩ := Bool.and_eq_true_iff.mp had
  refine ⟨?_, hasBaseline, Option.isNone_iff_eq_none.mp unmarked⟩
  unfold reviewStateOf at hasBaseline ⊢
  cases stored : found.reviewStates.find? input.context.projectId with
  | none =>
      rw [stored] at hasBaseline
      cases hasBaseline
  | some state => rfl

variable {waiting : WaitingCommit}

theorem appendCommitted_reviewStates
    {appended : Repository}
    (isAppended : appendCommitted repository waiting = .ok appended) :
    appended.reviewStates = repository.reviewStates := by
  rcases appendCommitted_eq_ok.mp isAppended with
    ⟨_, rfl⟩ | ⟨revision, _, _, _, _, _, rfl⟩
  · rfl
  · rfl

theorem markCommitted_portable
    {appended marked : Repository}
    (portable : PortableCommit repository waiting)
    (isAppended : appendCommitted repository waiting = .ok appended)
    (isMarked : markCommitted appended waiting = .ok marked)
    (all : AllPortable repository) :
    AllPortable marked := by
  have appendedStates := appendCommitted_reviewStates isAppended
  rcases markCommitted_cases isMarked with
    ⟨_, rfl⟩ | ⟨readiness, revision, isReadiness, isRevision, _, _, rfl⟩
  · exact all.of_same appendedStates
  · have known : revision ∈ waiting.input.command.revision.or
        (repository.revisions.find? readiness.revisionId) := by
      rcases appendCommitted_eq_ok.mp isAppended with
        ⟨_, rfl⟩ | ⟨own, isOwn, _⟩
      · exact isRevision
      · rw [isOwn] at isRevision ⊢
        exact isRevision
    have mark := portable.marks readiness isReadiness revision known
    exact (all.of_same appendedStates).set rfl
      (readyState_portable.mpr mark)

theorem recordCommitted_portable
    {marked : Repository}
    (portable : PortableCommit repository waiting)
    (checked : checkCommit repository waiting.input = .ok ())
    (all : AllPortable repository)
    (allMarked : AllPortable marked) :
    AllPortable (recordCommitted repository marked waiting) := by
  unfold recordCommitted
  split
  · exact allMarked
  · rename_i recorded isRecorded
    refine allMarked.set rfl ?_
    unfold changeOf at isRecorded
    split at isRecorded
    · rename_i revision change before isRevision isChange isBefore
      obtain ⟨had, same⟩ := Option.ite_none_right_eq_some.mp isRecorded
      cases same
      obtain ⟨stored, hasBaseline, _⟩ := find?_of_hadBaseline had
      obtain ⟨member, inProject⟩ := Table.find?_eq_some.mp stored
      unfold checkCommit at checked
      obtain ⟨_, required⟩ := check_bind_eq_ok.mp checked
      obtain ⟨_, semantic⟩ := check_bind_eq_ok.mp required
      have checkedChange :=
        whenPresent_eq_ok.mp semantic change isChange
      rw [← inProject] at checkedChange
      exact (staleState_portable (all _ member) hasBaseline
        checkedChange).mpr
          (portable.records had change isChange revision isRevision before
            isBefore)
    · cases isRecorded

/-- A portable commit keeps the states portable however it ends. -/
theorem Committed.portable
    {next : Repository}
    (committed : Committed repository waiting next)
    (portable : PortableCommit repository waiting)
    (all : AllPortable repository) :
    AllPortable next := by
  cases committed with
  | refused => exact all
  | appended _ _ isAppended =>
      exact all.of_same (appendCommitted_reviewStates isAppended)
  | recorded appended marked checked isAppended isMarked =>
      exact recordCommitted_portable portable checked all
        (markCommitted_portable portable isAppended isMarked all)
  | stored appended marked _ checked isAppended isMarked isStored =>
      have recorded := recordCommitted_portable portable checked all
        (markCommitted_portable portable isAppended isMarked all)
      rcases storeResponse_cases isStored with rfl | ⟨response, _, rfl⟩
      · exact recorded
      · exact recorded.of_same rfl

/-! ## Runs -/

/-- A command that goes on with a commit goes on with a portable one. -/
def PortableCommand (system : System) : Command → Prop
  | .resume ticket =>
      ∀ waiting, system.waiting[ticket]? = some (.commit waiting) →
        PortableCommit system.repository waiting
  | _ => True

variable {host : Host}

/-- Every command that commits portably keeps the states portable. -/
theorem execute_portable
    {system : System}
    {command : Command}
    (all : AllPortable system.repository)
    (portable : PortableCommand system command) :
    AllPortable (execute host system command).1.repository := by
  have ofEffect :
      command.KeepsProjects →
        AllPortable (execute host system command).1.repository := by
    intro keeps
    have effect := execute_effect host system keeps
    generalize (execute host system command).1.repository = after at effect ⊢
    cases effect with
    | idle => exact all
    | row _ _ write => exact all.of_same (by cases write <;> rfl)
    | committed ticket waiting _ resumes waits committed =>
        subst resumes
        exact committed.portable (portable waiting waits) all
    | stores => exact all.of_same rfl
  cases command with
  | replaceProject snapshot expected =>
      rw [execute]
      cases replaced :
          replaceProject host system.repository snapshot expected with
      | error error => exact all
      | ok next =>
        have replacement := (replaceProject_replaces replaced).2.2
        obtain ⟨reviewStates, _, rfl, _, _, states⟩ := replacement.maps
        intro state member
        rcases states state member with isPut | old
        · exact replacement.portable state isPut
        · exact all state old
  | deleteProject projectId =>
      rw [execute]
      cases deleted : deleteProject system.repository projectId with
      | error error => exact all
      | ok next =>
        rcases deleteProject_cases deleted with rfl | rfl
        · exact all
        · intro state member
          exact all state (Table.mem_delete.mp member).1
  | _ => exact ofEffect trivial

/--
In every run whose commits bring what the commit path leaves unchecked, every
stored review state is accepted by the portable validator.
-/
theorem reviewStates_portable
    (host : Host)
    {commands : List Command}
    (portable : ∀ step ∈ taken (execute host) .initial commands,
      PortableCommand step.before step.call) :
    ∀ projectId state,
      (takeAll (execute host) .initial commands).repository.reviewStates.find?
          projectId =
        some state →
      validateDesignReviewState state = .ok () := by
  have all := takeAll_invariant (fun system => AllPortable system.repository)
    PortableCommand (fun _ _ all portable => execute_portable all portable)
    (by intro state member; cases member) portable
  intro projectId state stored
  exact all state (Table.find?_eq_some.mp stored).1

/-! ## Two commits -/

theorem beginCommitDesignRevision_waits
    (begun :
      beginCommitDesignRevision host repository given =
        .ok (.inr waiting)) :
    waiting.input = { given with command := given.command.copy } ∧
      waiting.before =
        latestRevision host repository given.context.projectId := by
  unfold beginCommitDesignRevision at begun
  obtain ⟨_, keyed⟩ := unit_bind_eq_ok.mp begun
  obtain ⟨_, replayed⟩ := unit_bind_eq_ok.mp keyed
  split at replayed
  · obtain ⟨_, same⟩ := unit_bind_eq_ok.mp replayed
    cases same
  · obtain ⟨_, known⟩ := check_bind_eq_ok.mp replayed
    obtain ⟨_, owned⟩ := unit_bind_eq_ok.mp known
    obtain ⟨_, marked⟩ := unit_bind_eq_ok.mp owned
    obtain ⟨before, isLatest, same⟩ := bind_eq_ok.mp marked
    cases same
    unfold getLatestRevision at isLatest
    obtain ⟨_, bounded⟩ := unit_bind_eq_ok.mp isLatest
    obtain ⟨_, same⟩ := unit_bind_eq_ok.mp bounded
    cases same
    exact ⟨rfl, rfl⟩

@[simp] theorem System.waiting_store
    (system : System)
    (result : Checked Repository) :
    (system.store result).1.waiting = system.waiting := by
  cases result <;> rfl

theorem System.waiting_commit
    {system : System}
    (isFirst : system.waiting = [])
    (waits :
      (system.commit host given).1.waiting[0]? = some (.commit waiting)) :
    beginCommitDesignRevision host system.repository given =
      .ok (.inr waiting) := by
  unfold System.commit at waits
  split at waits
  · rw [isFirst] at waits
    cases waits
  · rw [isFirst] at waits
    cases waits
  · rename_i other begun
    rw [isFirst] at waits
    cases waits
    exact begun

def sampleContext : DesignRevisionCommandContext where
  projectId := js "project-1"
  actorId := js "designer"
  occurredAt := sampleTime
  idempotencyKey := none
  idempotencyScope := none

def sampleReadiness : DesignReadinessInput where
  id := js "baseline-1"
  revisionId := js "revision-1"
  intent := .review
  revisionFingerprint := js "fingerprint-1"

/-- The first revision, marked ready for review. -/
def sampleMark : CommitDesignRevisionInput :=
  ⟨sampleContext,
    .appendRevisionAndMarkReady sampleRevision none sampleReadiness⟩

def markedHistory : List Command :=
  [.createProject sampleProject, .commitDesignRevision sampleMark, .resume 0]

theorem portableMark_sample :
    PortableMark sampleContext sampleReadiness sampleRevision.copy where
  projectId := by decide +kernel
  id := by decide +kernel
  ofRevision := ⟨by decide +kernel, by decide +kernel⟩
  actorId := by decide +kernel
  occurredAt := by decide +kernel
  fits := by decide +kernel

theorem reviewStates_portable_marked :
    ∃ state,
      (takeAll (execute codeUnitHost) .initial
          markedHistory).repository.reviewStates.find? (js "project-1") =
        some state ∧
      validateDesignReviewState state = .ok () := by
  have stored :
      ((takeAll (execute codeUnitHost) .initial
        markedHistory).repository.reviewStates.find?
          (js "project-1")).isSome = true := by
    decide +kernel
  obtain ⟨state, found⟩ := Option.isSome_iff_exists.mp stored
  refine ⟨state, found, reviewStates_portable codeUnitHost ?_ _ _ found⟩
  simp only [markedHistory, taken, List.forall_mem_cons]
  refine ⟨trivial, trivial, ?_, by simp⟩
  have isFirst :
      (execute codeUnitHost .initial
        (.createProject sampleProject)).1.waiting = [] := by
    rw [execute, System.waiting_store]
    rfl
  generalize
    (execute codeUnitHost .initial (.createProject sampleProject)).1 =
      created at isFirst ⊢
  intro waiting waits
  dsimp only [take, execute] at waits ⊢
  obtain ⟨isInput, _⟩ :=
    beginCommitDesignRevision_waits (System.waiting_commit isFirst waits)
  constructor
  · intro readiness isReadiness revision isRevision
    rw [isInput] at isReadiness isRevision ⊢
    cases isReadiness
    cases isRevision
    exact portableMark_sample
  · intro _ change isChange
    rw [isInput] at isChange
    cases isChange

/-- A change of one screen that is listed twice. -/
def repeatedScope : SemanticDesignChangeInput where
  id := js "change-1"
  kind := .visual
  affected :=
    { projectId := js "project-1"
      screenIds := [js "screen-1", js "screen-1"]
      routePaths := []
      scenarioIds := []
      componentIds := []
      stableNodeIds := [] }
  evidence :=
    [{ description := js "Darker primary button"
       href := none
       checksum := none }]
  provenance := .actor (js "designer")
  reason := js "Contrast"

def secondRevision : Revision :=
  { sampleRevision with
    id := js "revision-2"
    sequence := Count.one.next
    parentRevisionId := some (js "revision-1") }

/-- The second revision, with a change of the repeated scope. -/
def repeatedHistory : List Command :=
  markedHistory ++
    [.commitDesignRevision
        ⟨sampleContext,
          .appendRevision secondRevision (some (js "revision-1"))
            (some repeatedScope)⟩,
      .resume 0]

/-- A commit that is accepted leaves a state that cannot be exported. -/
theorem commit_stores_unportable_state :
    ((takeAll (execute codeUnitHost) .initial
        repeatedHistory).repository.reviewStates.find?
          (js "project-1")).map validateDesignReviewState =
      some (.error (invalid
        (js "Design review change screenIds must be unique strings"))) := by
  decide +kernel

end Selene.Collaboration
