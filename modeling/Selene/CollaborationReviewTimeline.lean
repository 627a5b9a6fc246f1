import Selene.CollaborationReviewHistory

/-!
# Resolving and reopening

A thread is resolved or reopened by a direct method, or by a mutation that
expects its version.  Both store the same thread, but only the direct method
compares the time of a reopening with that of the resolution that it ends: the
mutation drops the resolution before the shared validator reads the times.
-/

namespace Selene.Collaboration

open Js

/-! ## The two paths -/

/-- The direct method that leads to a lifecycle. -/
def lifecycleMethod (host : Host) (repository : Repository)
    (target : ReviewThreadLifecycle) (id actorId occurredAt : JsString) :
    Checked (Repository × ReviewThread) :=
  match target with
  | .resolved => resolveReviewThread host repository id actorId occurredAt
  | .opened => reopenReviewThread host repository id actorId occurredAt

/-- The mutation that leads to a lifecycle. -/
def lifecycleMutation (target : ReviewThreadLifecycle)
    (operationId : JsString) (expectedVersion : OwnNumber)
    (id actorId occurredAt : JsString) : ReviewThreadMutation :=
  match target with
  | .resolved => .resolve operationId expectedVersion id actorId occurredAt
  | .opened => .reopen operationId expectedVersion id actorId occurredAt

/-- The next value of a thread that is led to a lifecycle. -/
def ReviewThread.toward (thread : ReviewThread)
    (target : ReviewThreadLifecycle) (actorId occurredAt : JsString) :
    ReviewThread :=
  match target with
  | .resolved => thread.resolve actorId occurredAt
  | .opened => thread.reopen actorId occurredAt

/-- The thread can be led to a lifecycle: what both paths check. -/
def Admissible (host : Host) (thread : ReviewThread)
    (target : ReviewThreadLifecycle) (actorId occurredAt : JsString) : Prop :=
  thread.lifecycle ≠ target ∧
    validateReviewThread host (thread.toward target actorId occurredAt) =
      .ok ()

/-- A reopening is later than the resolution that it ends. -/
def Timely (host : Host) (thread : ReviewThread)
    (target : ReviewThreadLifecycle) (occurredAt : JsString) : Prop :=
  target = .opened →
    ∃ resolvedAt, thread.resolvedAt = some resolvedAt ∧
      ¬ host.notAfter occurredAt resolvedAt

/--
A mutation of a stored thread is a well-formed operation of a stored project
under an operation identifier that has no receipt.
-/
def Fresh (host : Host) (repository : Repository) (current : ReviewThread)
    (input : ReviewThreadMutation) : Prop :=
  requireText input.operationId (js "review operation id") 256 = .ok () ∧
    ∃ project fingerprint,
      repository.projects.find? current.projectId = some project ∧
      input.fingerprint host = .ok fingerprint ∧
      repository.reviewOperationReceipts.find?
          (receiptOf project current.projectId input fingerprint).key = none

variable {target : ReviewThreadLifecycle} {current thread : ReviewThread}

theorem lifecycleMethod_eq_ok
    {host : Host}
    {repository : Repository}
    {id actorId occurredAt : JsString}
    (found : repository.reviewThreads.find? id = some current) :
    (∃ next,
        lifecycleMethod host repository target id actorId occurredAt =
          .ok (next, thread)) ↔
      Admissible host current target actorId occurredAt ∧
        Timely host current target occurredAt ∧
        thread = current.toward target actorId occurredAt := by
  cases target with
  | resolved =>
      simp only [lifecycleMethod, resolveReviewThread_eq_ok, found,
        Option.some.injEq, exists_eq_left', storeReviewThread_eq_ok,
        Prod.mk.injEq, Admissible, Timely, ReviewThread.toward, reduceCtorEq,
        false_implies, true_and]
      constructor
      · rintro ⟨next, fits, valid, _, same⟩
        exact ⟨⟨fits, valid⟩, same⟩
      · rintro ⟨⟨fits, valid⟩, same⟩
        exact ⟨_, fits, valid, rfl, same⟩
  | opened =>
      simp only [lifecycleMethod, reopenReviewThread_eq_ok, found,
        Option.some.injEq, exists_eq_left', storeReviewThread_eq_ok,
        Prod.mk.injEq, Admissible, Timely, ReviewThread.toward,
        true_implies]
      have isResolved :
          current.lifecycle = .resolved ↔ current.lifecycle ≠ .opened := by
        cases current.lifecycle <;> simp
      constructor
      · rintro ⟨next, fits, later, valid, _, same⟩
        exact ⟨⟨isResolved.mp fits, valid⟩, later, same⟩
      · rintro ⟨⟨fits, valid⟩, later, same⟩
        exact ⟨_, isResolved.mpr fits, later, valid, rfl, same⟩

theorem update_lifecycleMutation
    {operationId id actorId occurredAt : JsString}
    {expectedVersion : OwnNumber} :
    (lifecycleMutation target operationId expectedVersion id actorId
        occurredAt).update current = some thread ↔
      current.lifecycle ≠ target ∧
        thread = current.toward target actorId occurredAt := by
  cases target with
  | resolved =>
      simp only [lifecycleMutation, ReviewThreadMutation.update,
        Option.ite_none_right_eq_some, Option.some.injEq,
        ReviewThread.toward]
      cases current.lifecycle <;> simp [eq_comm]
  | opened =>
      simp only [lifecycleMutation, ReviewThreadMutation.update,
        Option.ite_none_right_eq_some, Option.some.injEq,
        ReviewThread.toward]
      cases current.lifecycle <;> simp [eq_comm]

section Mutation

variable {host : Host} {repository : Repository}
  {current thread : ReviewThread} {target : ReviewThreadLifecycle}
  {operationId id actorId occurredAt : JsString}
  {expectedVersion : OwnNumber}

@[simp] theorem threadId_lifecycleMutation :
    (lifecycleMutation target operationId expectedVersion id actorId
      occurredAt).threadId = id := by
  cases target <;> rfl

@[simp] theorem projectId_lifecycleMutation :
    (lifecycleMutation target operationId expectedVersion id actorId
      occurredAt).projectId (some current) = some current.projectId := by
  cases target <;> rfl

theorem applyReviewMutation_lifecycle
    (receipt : ReviewReceipt)
    (scope : JsString) :
    applyReviewMutation host repository
        (lifecycleMutation target operationId expectedVersion id actorId
          occurredAt) (some current) receipt scope =
      applyReviewUpdate host repository current
        (lifecycleMutation target operationId expectedVersion id actorId
          occurredAt) receipt scope := by
  cases target <;> rfl

theorem mutateReviewThread_lifecycle
    (found : repository.reviewThreads.find? id = some current)
    (matching :
      versionOf (.number expectedVersion.val) = some current.version.val) :
    (∃ next fingerprint,
        mutateReviewThread host repository
            (lifecycleMutation target operationId expectedVersion id actorId
              occurredAt) =
          .ok (next, .applied thread fingerprint)) ↔
      Admissible host current target actorId occurredAt ∧
        Fresh host repository current
          (lifecycleMutation target operationId expectedVersion id actorId
            occurredAt) ∧
        thread = current.toward target actorId occurredAt := by
  generalize isInput :
    lifecycleMutation target operationId expectedVersion id actorId
      occurredAt = input
  have ofThread : input.threadId = id := by
    rw [← isInput, threadId_lifecycleMutation]
  have inProject :
      input.projectId (repository.reviewThreads.find? input.threadId) =
        some current.projectId := by
    rw [ofThread, found, ← isInput, projectId_lifecycleMutation]
  have expected : versionOf (.number input.expectedVersion.val) =
      some current.version.val := by
    rw [← isInput]
    cases target <;> exact matching
  have updates :
      ∀ {thread}, input.update current = some thread ↔
        current.lifecycle ≠ target ∧
          thread = current.toward target actorId occurredAt := by
    intro thread
    rw [← isInput]
    exact update_lifecycleMutation
  have isUpdate :
      ∀ receipt scope,
        applyReviewMutation host repository input (some current) receipt
            scope =
          applyReviewUpdate host repository current input receipt scope := by
    intro receipt scope
    rw [← isInput]
    exact applyReviewMutation_lifecycle receipt scope
  constructor
  · rintro ⟨next, text, answered⟩
    cases stored : repository.projects.find? current.projectId with
    | none =>
        unfold mutateReviewThread at answered
        simp only [inProject, stored] at answered
        obtain ⟨_, _, named⟩ := bind_eq_ok.mp answered
        obtain ⟨_, raised⟩ := unit_bind_eq_ok.mp named
        cases raised
    | some project =>
        rw [mutateReviewThread_eq inProject stored] at answered
        obtain ⟨_, _, named⟩ := bind_eq_ok.mp answered
        obtain ⟨isNamed, taken⟩ := unit_bind_eq_ok.mp named
        obtain ⟨fingerprint, isFingerprint, applied⟩ :=
          bind_eq_ok.mp taken
        dsimp only at applied
        rw [ofThread, found] at applied
        cases kept :
            repository.reviewOperationReceipts.find?
              (receiptOf project current.projectId input
                fingerprint).key with
        | some receipt =>
            rw [kept] at applied
            exact (replayReviewMutation_idle applied).2.elim
        | none =>
            rw [kept] at applied
            dsimp only at applied
            rw [isUpdate] at applied
            rcases applyReviewUpdate_cases applied with
              ⟨_, idle⟩ | ⟨updated, _, isNext, valid, same⟩
            · exact idle.elim
            · cases same
              obtain ⟨fits, isToward⟩ := updates.mp isNext
              exact ⟨⟨fits, isToward ▸ valid⟩,
                ⟨isNamed, project, fingerprint, stored, isFingerprint,
                  kept⟩,
                isToward⟩
  · rintro ⟨⟨fits, valid⟩, ⟨isNamed, project, fingerprint, stored,
      isFingerprint, unused⟩, rfl⟩
    have taken := isFingerprint
    unfold ReviewThreadMutation.fingerprint
      canonicalReviewThreadMutationFingerprint at taken
    obtain ⟨record, normalized, _⟩ := bind_eq_ok.mp taken
    have answered :
        mutateReviewThread host repository input =
          .ok (storeWithReceipt repository
                (current.toward target actorId occurredAt)
                (receiptOf project current.projectId input fingerprint)
                (reviewReceiptScope project.organizationId current.projectId
                  id),
            .applied (current.toward target actorId occurredAt)
              fingerprint) := by
      rw [mutateReviewThread_eq inProject stored, normalized, ok_bind,
        isNamed, ok_bind, isFingerprint, ok_bind]
      dsimp only
      rw [unused, ofThread, found]
      dsimp only
      rw [isUpdate]
      exact applyReviewUpdate_applied expected (updates.mpr ⟨fits, rfl⟩) valid
    exact ⟨_, _, answered⟩

end Mutation

variable {host : Host} {current : ReviewThread} {target : ReviewThreadLifecycle}
   {actorId occurredAt : JsString}

/--
Both paths agree on a stored thread exactly when, on every thread that can be
led to the lifecycle, a new operation and a timely one are the same.
-/
theorem lifecycle_agrees_iff
    {repository : Repository}
    {operationId id : JsString}
    {expectedVersion : OwnNumber}
    (found : repository.reviewThreads.find? id = some current)
    (matching :
      versionOf (.number expectedVersion.val) = some current.version.val) :
    (∀ thread,
        (∃ next fingerprint,
            mutateReviewThread host repository
                (lifecycleMutation target operationId expectedVersion id
                  actorId occurredAt) =
              .ok (next, .applied thread fingerprint)) ↔
          ∃ next,
            lifecycleMethod host repository target id actorId occurredAt =
              .ok (next, thread)) ↔
      (Admissible host current target actorId occurredAt →
        (Fresh host repository current
            (lifecycleMutation target operationId expectedVersion id actorId
              occurredAt) ↔
          Timely host current target occurredAt)) := by
  simp only [lifecycleMethod_eq_ok found,
    mutateReviewThread_lifecycle found matching]
  constructor
  · intro agree admissible
    have here := agree (current.toward target actorId occurredAt)
    simpa [admissible] using here
  · intro agree thread
    refine and_congr_right fun admissible => ?_
    rw [agree admissible]

/-! ## Times along a history -/

/-- The lifecycle that a command leads a thread to, and when. -/
def Command.lifecycle? :
    Command → Option (ReviewThreadLifecycle × JsString)
  | .review (.resolve _ _ resolvedAt) => some (.resolved, resolvedAt)
  | .review (.reopen _ _ reopenedAt) => some (.opened, reopenedAt)
  | .review (.mutate (.resolve _ _ _ _ occurredAt)) =>
      some (.resolved, occurredAt)
  | .review (.mutate (.reopen _ _ _ _ occurredAt)) =>
      some (.opened, occurredAt)
  | _ => none

/-- The lifecycle that a step led a thread to, and when. -/
def lifecycleEvent (id : JsString) (command : Command) (outcome : Outcome) :
    Option (ReviewThreadLifecycle × JsString) :=
  match storedThread command outcome with
  | some thread => if thread.id = id then command.lifecycle? else none
  | none => none

/-- One event follows another: the lifecycle changes, at a later time. -/
def Alternates (host : Host) (first second : ReviewThreadLifecycle × JsString) :
    Prop :=
  first.1 ≠ second.1 ∧ host.before first.2 second.2

/-- A reopening through a mutation is later than the resolution it ends. -/
def TimelyCommand (host : Host) (system : System) : Command → Prop
  | .review (.mutate (.reopen _ _ threadId _ occurredAt)) =>
      ∀ current,
        system.repository.reviewThreads.find? threadId = some current →
          current.lifecycle = .resolved →
            Timely host current .opened occurredAt
  | _ => True

variable {thread : ReviewThread}

theorem times_of_valid
    (valid : validateReviewThread host thread = .ok ()) :
    (∀ resolvedAt ∈ thread.resolvedAt, isTimestamp resolvedAt) ∧
      (∀ reopenedAt ∈ thread.reopenedAt, isTimestamp reopenedAt) ∧
      ∀ reopenedAt ∈ thread.reopenedAt, ∀ resolvedAt ∈ thread.resolvedAt,
        host.before reopenedAt resolvedAt := by
  have timeline := (parts_of_valid valid).2
  unfold validateReviewTimeline at timeline
  obtain ⟨_, opened⟩ := check_bind_eq_ok.mp timeline
  obtain ⟨_, resolved⟩ := check_bind_eq_ok.mp opened
  obtain ⟨resolvedTime, named⟩ := unit_bind_eq_ok.mp resolved
  obtain ⟨_, complete⟩ := unit_bind_eq_ok.mp named
  obtain ⟨_, reopened⟩ := check_bind_eq_ok.mp complete
  obtain ⟨reopenedTime, byName⟩ := unit_bind_eq_ok.mp reopened
  obtain ⟨_, since⟩ := unit_bind_eq_ok.mp byName
  obtain ⟨_, ordered⟩ := unit_bind_eq_ok.mp since
  have resolvedValid : ∀ resolvedAt ∈ thread.resolvedAt,
      isTimestamp resolvedAt := fun resolvedAt present =>
    check_eq_ok.mp (whenPresent_eq_ok.mp resolvedTime resolvedAt present)
  have reopenedValid : ∀ reopenedAt ∈ thread.reopenedAt,
      isTimestamp reopenedAt := fun reopenedAt present =>
    check_eq_ok.mp (whenPresent_eq_ok.mp reopenedTime reopenedAt present)
  refine ⟨resolvedValid, reopenedValid, ?_⟩
  intro reopenedAt isReopened resolvedAt isResolved
  have later := check_eq_ok.mp (whenPresent_eq_ok.mp
    (whenPresent_eq_ok.mp ordered reopenedAt isReopened) resolvedAt
    isResolved)
  exact (Host.not_notAfter (resolvedValid _ isResolved)
    (reopenedValid _ isReopened)).mp later

/-- The last change of the lifecycle, as the stored thread shows it. -/
structure Shows (thread : ReviewThread)
    (event : ReviewThreadLifecycle × JsString) : Prop where
  lifecycle : thread.lifecycle = event.1
  isTime : isTimestamp event.2
  resolvedAt : event.1 = .resolved → thread.resolvedAt = some event.2
  reopenedAt : event.1 = .opened → thread.reopenedAt = some event.2

theorem Shows.of_same
    {other : ReviewThread}
    {event : ReviewThreadLifecycle × JsString}
    (shown : Shows thread event)
    (same :
      other.lifecycle = thread.lifecycle ∧
        other.resolvedAt = thread.resolvedAt ∧
        other.reopenedAt = thread.reopenedAt) :
    Shows other event where
  lifecycle := same.1.trans shown.lifecycle
  isTime := shown.isTime
  resolvedAt isResolved := same.2.1.trans (shown.resolvedAt isResolved)
  reopenedAt isOpen := same.2.2.trans (shown.reopenedAt isOpen)

variable {command : Command}

theorem StoresThread.lifecycle_of_new
    {repository : Repository}
    {outcome : Outcome}
    (stores : StoresThread host repository thread command outcome)
    (isNew : repository.reviewThreads.find? thread.id = none) :
    command.lifecycle? = none := by
  cases stores with
  | created => rfl
  | changed call _ stores =>
      have source := stores.source
      rw [← stores.threadId, isNew] at source
      dsimp only at source
      unfold ReviewCall.Creates at source
      split at source
      · rfl
      · exact source.elim

theorem ReviewCall.lifecycle_next
    {call : ReviewCall}
    (fits : call.Fits host current) :
    match (Command.review call).lifecycle? with
    | none =>
        (call.next current).lifecycle = current.lifecycle ∧
          (call.next current).resolvedAt = current.resolvedAt ∧
          (call.next current).reopenedAt = current.reopenedAt
    | some (target, occurredAt) =>
        current.lifecycle ≠ target ∧
          ∃ actorId, call.next current =
            current.toward target actorId occurredAt := by
  cases call with
  | append => exact ⟨rfl, rfl, rfl⟩
  | react => exact ⟨rfl, rfl, rfl⟩
  | setRead => exact ⟨rfl, rfl, rfl⟩
  | resolve id resolvedBy resolvedAt =>
      have isOpen : current.lifecycle = .opened := fits
      exact ⟨by simp [isOpen], resolvedBy, rfl⟩
  | reopen id reopenedBy reopenedAt =>
      have isResolved : current.lifecycle = .resolved := fits.1
      exact ⟨by simp [isResolved], reopenedBy, rfl⟩
  | move => exact ⟨rfl, rfl, rfl⟩
  | mutate input =>
      obtain ⟨updated, isNext⟩ := Option.isSome_iff_exists.mp fits.2
      rw [next, isNext, Option.getD_some]
      cases input with
      | create operationId expectedVersion given => cases isNext
      | reply operationId expectedVersion threadId message =>
          cases isNext
          exact ⟨rfl, rfl, rfl⟩
      | resolve operationId expectedVersion threadId actorId occurredAt =>
          obtain ⟨isOpen, same⟩ := Option.ite_none_right_eq_some.mp isNext
          cases same
          exact ⟨by simp [isOpen], actorId, rfl⟩
      | reopen operationId expectedVersion threadId actorId occurredAt =>
          obtain ⟨isResolved, same⟩ :=
            Option.ite_none_right_eq_some.mp isNext
          cases same
          exact ⟨by simp [isResolved], actorId, rfl⟩

variable {system : System}

theorem ReviewCall.timely
    {call : ReviewCall}
    (timely : TimelyCommand host system (.review call))
    (found :
      system.repository.reviewThreads.find? call.threadId = some current)
    (fits : call.Fits host current)
    (reopens :
      (Command.review call).lifecycle? = some (.opened, occurredAt)) :
    Timely host current .opened occurredAt := by
  cases call with
  | append => cases reopens
  | react => cases reopens
  | setRead => cases reopens
  | resolve => cases reopens
  | reopen id reopenedBy reopenedAt =>
      cases reopens
      exact fun _ => fits.2
  | move => cases reopens
  | mutate input =>
      cases input with
      | create => cases reopens
      | reply => cases reopens
      | resolve => cases reopens
      | reopen operationId expectedVersion threadId actorId occurredAt =>
          cases reopens
          have isResolved : current.lifecycle = .resolved := by
            by_contra isOpen
            have absent := fits.2
            rw [ReviewThreadMutation.update, if_neg isOpen] at absent
            cases absent
          exact timely current found isResolved

theorem shows_toward
    (valid :
      validateReviewThread host (current.toward target actorId occurredAt) =
        .ok ()) :
    Shows (current.toward target actorId occurredAt)
      (target, occurredAt) := by
  obtain ⟨resolvedValid, reopenedValid, _⟩ := times_of_valid valid
  cases target with
  | resolved =>
      exact ⟨rfl, resolvedValid occurredAt rfl, fun _ => rfl,
        fun same => nomatch same⟩
  | opened =>
      exact ⟨rfl, reopenedValid occurredAt rfl, (fun same => nomatch same),
        fun _ => rfl⟩

/-- The lifecycle that a valid thread is led to is later than what it shows. -/
theorem alternates_toward
    {earlier : ReviewThreadLifecycle × JsString}
    (shown : Shows current earlier)
    (fits : current.lifecycle ≠ target)
    (timely : Timely host current target occurredAt)
    (valid :
      validateReviewThread host (current.toward target actorId occurredAt) =
        .ok ()) :
    Alternates host earlier (target, occurredAt) := by
  refine ⟨shown.lifecycle ▸ fits, ?_⟩
  obtain ⟨_, reopenedValid, ordered⟩ := times_of_valid valid
  obtain ⟨lifecycle, time⟩ := earlier
  cases target with
  | resolved =>
      have isOpen : lifecycle = .opened := by
        cases lifecycle with
        | opened => rfl
        | resolved => exact absurd shown.lifecycle fits
      exact ordered time (shown.reopenedAt isOpen) occurredAt rfl
  | opened =>
      have isResolved : lifecycle = .resolved := by
        cases lifecycle with
        | opened => exact absurd shown.lifecycle fits
        | resolved => rfl
      obtain ⟨resolvedAt, isSome, later⟩ := timely rfl
      rw [shown.resolvedAt isResolved] at isSome
      cases isSome
      exact (Host.not_notAfter (reopenedValid occurredAt rfl)
        shown.isTime).mp later

theorem Effect.lifecycle
    {after : Repository}
    {outcome : Outcome}
    (effect : Effect host system command outcome after)
    (timely : TimelyCommand host system command)
    (id : JsString) :
    match lifecycleEvent id command outcome with
    | none =>
        ∀ current, system.repository.reviewThreads.find? id = some current →
          ∀ event, Shows current event →
            ∃ later, after.reviewThreads.find? id = some later ∧
              Shows later event
    | some event =>
        (∃ later, after.reviewThreads.find? id = some later ∧
            Shows later event) ∧
          ∃ current,
            system.repository.reviewThreads.find? id = some current ∧
            ∀ earlier, Shows current earlier →
              Alternates host earlier event := by
  have find? := effect.find? id
  unfold lifecycleEvent
  cases isStored : storedThread command outcome with
  | none =>
      rw [isStored] at find?
      intro current found event shown
      exact ⟨current, find?.trans found, shown⟩
  | some thread =>
      rw [isStored] at find?
      dsimp only at find? ⊢
      by_cases same : thread.id = id
      · rw [if_pos same] at find? ⊢
        obtain ⟨_, valid, stores⟩ := effect.stored isStored
        have successor := stores.successor
        rw [same] at successor
        cases found : system.repository.reviewThreads.find? id with
        | none =>
            have noEvent : command.lifecycle? = none :=
              stores.lifecycle_of_new (same ▸ found)
            rw [noEvent]
            intro current isSome
            cases isSome
        | some current =>
            rw [found] at successor
            obtain ⟨call, rfl, isNext, fits⟩ := successor
            have ofCall : call.threadId = id := by
              cases stores with
              | changed _ _ stores => exact stores.threadId.symm.trans same
            have lifecycle := ReviewCall.lifecycle_next fits
            cases isEvent : (Command.review call).lifecycle? with
            | none =>
                rw [isEvent] at lifecycle
                dsimp only at lifecycle ⊢
                rw [← isNext] at lifecycle
                intro other isOther event shown
                cases isOther
                exact ⟨thread, find?, shown.of_same lifecycle⟩
            | some event =>
                obtain ⟨target, occurredAt⟩ := event
                rw [isEvent] at lifecycle
                obtain ⟨fitsTarget, actorId, isToward⟩ := lifecycle
                have isThread := isNext.trans isToward
                subst isThread
                refine ⟨⟨_, find?, shows_toward valid⟩, current, rfl, ?_⟩
                intro earlier shown
                refine alternates_toward shown fitsTarget ?_ valid
                intro isOpen
                subst isOpen
                exact ReviewCall.timely timely (ofCall ▸ found) fits isEvent
                  rfl
      · rw [if_neg same] at find? ⊢
        intro current found event shown
        exact ⟨current, find?.trans found, shown⟩

/-! ## Runs -/

/-- The changes of the lifecycle of a thread, in order. -/
def lifecycleEvents (id : JsString)
    (log : List (Taken System Command Outcome)) :
    List (ReviewThreadLifecycle × JsString) :=
  log.filterMap fun step => lifecycleEvent id step.call step.answer

/-- The changes so far alternate, and the last of them shows. -/
def Ordered (host : Host) (id : JsString)
    (log : List (Taken System Command Outcome)) (system : System) : Prop :=
  (lifecycleEvents id log).IsChain (Alternates host) ∧
    ∀ event ∈ (lifecycleEvents id log).getLast?,
      ∃ current, system.repository.reviewThreads.find? id = some current ∧
        Shows current event

theorem Ordered.step
    {id : JsString}
    {log : List (Taken System Command Outcome)}
    (ordered : Ordered host id log system)
    (keeps : command.KeepsProjects)
    (timely : TimelyCommand host system command) :
    Ordered host id (log ++ [take (execute host) system command])
      (execute host system command).1 := by
  have step := (execute_effect host system keeps).lifecycle timely id
  obtain ⟨chain, last⟩ := ordered
  unfold Ordered lifecycleEvents
  rw [List.filterMap_append]
  cases isEvent :
      lifecycleEvent id command (execute host system command).2 with
  | none =>
      rw [isEvent] at step
      have nothing :
          [take (execute host) system command].filterMap
            (fun step => lifecycleEvent id step.call step.answer) = [] := by
        simp [take, isEvent]
      rw [nothing, List.append_nil]
      refine ⟨chain, fun event isLast => ?_⟩
      obtain ⟨current, found, shown⟩ := last event isLast
      exact step current found event shown
  | some event =>
      rw [isEvent] at step
      obtain ⟨shows, current, found, later⟩ := step
      have one :
          [take (execute host) system command].filterMap
            (fun step => lifecycleEvent id step.call step.answer) =
              [event] := by
        simp [take, isEvent]
      rw [one]
      refine ⟨List.isChain_append.mpr
        ⟨chain, List.isChain_singleton _, ?_⟩, ?_⟩
      · intro earlier isLast next isNext
        cases isNext
        obtain ⟨shownIn, isShown, shown⟩ := last earlier isLast
        rw [found] at isShown
        cases isShown
        exact later earlier shown
      · intro other isLast
        rw [List.getLast?_concat] at isLast
        cases isLast
        exact shows

/--
Both paths agree on a stored thread exactly when a valid next value is reached
by a new operation just as it is by a timely one; and between imports and
deletions, when mutations reopen in time, resolutions and reopenings of a
thread alternate with increasing times.
-/
theorem reviewThread_timeline
    (host : Host) :
    (∀ (repository : Repository) (current : ReviewThread)
        (target : ReviewThreadLifecycle)
        (operationId id actorId occurredAt : JsString)
        (expectedVersion : OwnNumber),
      repository.reviewThreads.find? id = some current →
      versionOf (.number expectedVersion.val) = some current.version.val →
        ((∀ thread,
            (∃ next fingerprint,
                mutateReviewThread host repository
                    (lifecycleMutation target operationId expectedVersion id
                      actorId occurredAt) =
                  .ok (next, .applied thread fingerprint)) ↔
              ∃ next,
                lifecycleMethod host repository target id actorId
                    occurredAt =
                  .ok (next, thread)) ↔
          (Admissible host current target actorId occurredAt →
            (Fresh host repository current
                (lifecycleMutation target operationId expectedVersion id
                  actorId occurredAt) ↔
              Timely host current target occurredAt)))) ∧
      ∀ (start : System) (commands : List Command),
        (∀ command ∈ commands, command.KeepsProjects) →
        (∀ step ∈ taken (execute host) start commands,
          TimelyCommand host step.before step.call) →
          ∀ id,
            (lifecycleEvents id
              (taken (execute host) start commands)).IsChain
                (Alternates host) := by
  constructor
  · intro repository current target operationId id actorId occurredAt
      expectedVersion found matching
    exact lifecycle_agrees_iff found matching
  · intro start commands keeps timely id
    have empty : Ordered host id [] start :=
      ⟨List.isChain_nil, fun event isLast => nomatch isLast⟩
    have run := takeAll_tracks (Ordered host id)
      (fun system command => command.KeepsProjects ∧
        TimelyCommand host system command)
      (fun log system command ordered allowed =>
        ordered.step allowed.1 allowed.2) empty
      (fun step member =>
        ⟨forall_call_taken keeps start step member, timely step member⟩)
    exact run.1

/-! ## A reopening before the resolution -/

def reopenedTime : JsString :=
  js "2026-07-25T22:02:00.000Z"

def resolvedTime : JsString :=
  js "2026-07-25T22:03:00.000Z"

/-- The sample thread, resolved two minutes after it was created. -/
def resolvedHistory : List Command :=
  sampleHistory ++
    [.review (.resolve (js "thread-1") (js "reviewer") resolvedTime)]

noncomputable def resolvedSystem : System :=
  takeAll (execute codeUnitHost) .initial resolvedHistory

/-- A mutation that expects the version of the resolved thread. -/
def earlyReopening : ReviewThreadMutation :=
  lifecycleMutation .opened (js "operation-1") Count.one.next.toOwnNumber
    (js "thread-1") (js "designer") reopenedTime

/-- The thread that an answer says was applied. -/
def appliedThread? :
    Checked (Repository × ReviewThreadMutationResult) → Option ReviewThread
  | .ok (_, .applied thread _) => some thread
  | _ => none

theorem find?_resolvedSystem :
    resolvedSystem.repository.reviewThreads.find? (js "thread-1") =
      some (sampleThread.resolve (js "reviewer") resolvedTime) := by
  decide +kernel

theorem reviewThread_timeline_sample :
    (∀ thread,
        (∃ next fingerprint,
            mutateReviewThread codeUnitHost resolvedSystem.repository
                earlyReopening =
              .ok (next, .applied thread fingerprint)) ↔
          ∃ next,
            lifecycleMethod codeUnitHost resolvedSystem.repository .opened
                (js "thread-1") (js "designer") reopenedTime =
              .ok (next, thread)) ↔
      (Admissible codeUnitHost
          (sampleThread.resolve (js "reviewer") resolvedTime) .opened
          (js "designer") reopenedTime →
        (Fresh codeUnitHost resolvedSystem.repository
            (sampleThread.resolve (js "reviewer") resolvedTime)
            earlyReopening ↔
          Timely codeUnitHost
            (sampleThread.resolve (js "reviewer") resolvedTime) .opened
            reopenedTime)) :=
  (reviewThread_timeline codeUnitHost).1 resolvedSystem.repository
    (sampleThread.resolve (js "reviewer") resolvedTime) .opened
    (js "operation-1") (js "thread-1") (js "designer") reopenedTime
    Count.one.next.toOwnNumber find?_resolvedSystem (by decide +kernel)

/-- The mutation reopens a thread before its resolution. -/
theorem mutation_reopens_before_resolution :
    ReachableSystem codeUnitHost resolvedSystem ∧
      appliedThread?
          (mutateReviewThread codeUnitHost resolvedSystem.repository
            earlyReopening) =
        some ((sampleThread.resolve (js "reviewer") resolvedTime).reopen
          (js "designer") reopenedTime) ∧
      (reopenReviewThread codeUnitHost resolvedSystem.repository
        (js "thread-1") (js "designer") reopenedTime).toBool = false := by
  refine ⟨⟨resolvedHistory, rfl⟩, ?_, ?_⟩
  · decide +kernel
  · decide +kernel

end Selene.Collaboration
