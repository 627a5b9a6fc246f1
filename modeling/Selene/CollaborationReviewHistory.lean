import Selene.CollaborationReviewCalls

/-!
# The history of a review thread

Between imports and deletions a stored thread only moves forward: every change
is one version, and its messages are only added to.  A mutation expects a
version, and its fingerprint says which, so no fingerprint is applied twice,
whether or not the receipt of the first time is still kept.
-/

namespace Selene.Collaboration

open Js

/-! ## What is told apart in a history -/

/-- The version of a thread; a thread that is not stored has none. -/
def versionIn (repository : Repository) (id : JsString) : Nat :=
  ((repository.reviewThreads.find? id).map fun thread =>
    thread.version.val).getD 0

/-- What never changes of a message. -/
structure MessageStamp where
  id : JsString
  body : JsString
  createdBy : JsString
  deriving DecidableEq

def ReviewThreadMessage.stamp (message : ReviewThreadMessage) :
    MessageStamp :=
  ⟨message.id, message.body, message.createdBy⟩

def ReviewThread.stamps (thread : ReviewThread) : List MessageStamp :=
  thread.messages.map ReviewThreadMessage.stamp

/-- The stamps of the messages of a thread, in order. -/
def stampsIn (repository : Repository) (id : JsString) :
    List MessageStamp :=
  ((repository.reviewThreads.find? id).map ReviewThread.stamps).getD []

/-- The messages that a command brings. -/
def Command.messages : Command → List ReviewThreadMessage
  | .createReviewThread thread => thread.messages
  | .review (.append _ message) => [message]
  | .review (.mutate (.create _ _ thread)) => thread.messages
  | .review (.mutate (.reply _ _ _ message)) => [message]
  | _ => []

/-- The messages that a command added to a thread. -/
def added (id : JsString) (command : Command) (outcome : Outcome) :
    List MessageStamp :=
  match storedThread command outcome with
  | some thread =>
      if thread.id = id then
        command.messages.map ReviewThreadMessage.stamp
      else
        []
  | none => []

/-- The operation identifier and fingerprint that a command applied. -/
def appliedOperation : Command → Outcome → Option (JsString × JsString)
  | .review (.mutate input), .mutated (.applied _ fingerprint) =>
      some (input.operationId, fingerprint)
  | _, _ => none

/-! ## Changes of a message -/

@[simp] theorem ReviewThread.stamps_withMessage
    (thread : ReviewThread)
    (message : ReviewThreadMessage) :
    (thread.withMessage message).stamps = thread.stamps ++ [message.stamp] := by
  simp [stamps, withMessage]

theorem ReviewThread.stamps_withChanged
    (thread : ReviewThread)
    (messageId : JsString)
    {change : ReviewThreadMessage → ReviewThreadMessage}
    (kept : ∀ message, (change message).stamp = message.stamp) :
    (thread.withChanged messageId change).stamps = thread.stamps := by
  unfold stamps withChanged
  rw [List.map_map]
  refine List.map_congr_left fun message _ => ?_
  dsimp only [Function.comp]
  split
  · exact kept message
  · rfl

variable {host : Host} {call : ReviewCall} {current : ReviewThread}

theorem ReviewCall.stamps_next
    (fits : call.Fits host current) :
    (call.next current).stamps =
      current.stamps ++
        (Command.review call).messages.map ReviewThreadMessage.stamp := by
  have unchanged : current.stamps = current.stamps ++ [] :=
    (List.append_nil _).symm
  cases call with
  | append id message => exact current.stamps_withMessage message
  | react id messageId emoji userId =>
      have kept : ∀ message : ReviewThreadMessage,
          (message.withReaction emoji userId).stamp = message.stamp :=
        fun _ => rfl
      exact (current.stamps_withChanged messageId kept).trans unchanged
  | setRead id messageId userId read =>
      have kept : ∀ message : ReviewThreadMessage,
          (message.withRead userId read).stamp = message.stamp :=
        fun _ => rfl
      exact (current.stamps_withChanged messageId kept).trans unchanged
  | resolve id resolvedBy resolvedAt => exact unchanged
  | reopen id reopenedBy reopenedAt => exact unchanged
  | move id anchor movedBy movedAt => exact unchanged
  | mutate input =>
      obtain ⟨updated, isNext⟩ := Option.isSome_iff_exists.mp fits.2
      rw [next, isNext, Option.getD_some]
      cases input with
      | create operationId expectedVersion given => cases isNext
      | reply operationId expectedVersion threadId message =>
          cases isNext
          exact current.stamps_withMessage message
      | resolve operationId expectedVersion threadId actorId occurredAt =>
          obtain ⟨_, same⟩ := Option.ite_none_right_eq_some.mp isNext
          cases same
          exact unchanged
      | reopen operationId expectedVersion threadId actorId occurredAt =>
          obtain ⟨_, same⟩ := Option.ite_none_right_eq_some.mp isNext
          cases same
          exact unchanged

/-! ## Versions -/

variable {thread : ReviewThread}

theorem parts_of_valid
    (valid : validateReviewThread host thread = .ok ()) :
    (1 ≤ thread.version.val ∧
        thread.version.val ≤ JsNumber.maxSafeInteger) ∧
      validateReviewTimeline host thread = .ok () := by
  unfold validateReviewThread at valid
  obtain ⟨_, owned⟩ := unit_bind_eq_ok.mp valid
  obtain ⟨_, named⟩ := unit_bind_eq_ok.mp owned
  obtain ⟨_, placed⟩ := unit_bind_eq_ok.mp named
  obtain ⟨_, bound⟩ := unit_bind_eq_ok.mp placed
  obtain ⟨_, targeted⟩ := unit_bind_eq_ok.mp bound
  obtain ⟨counted, versioned⟩ := check_bind_eq_ok.mp targeted
  obtain ⟨_, linked⟩ := unit_bind_eq_ok.mp versioned
  obtain ⟨_, created⟩ := unit_bind_eq_ok.mp linked
  obtain ⟨_, dated⟩ := unit_bind_eq_ok.mp created
  exact ⟨counted, (unit_bind_eq_ok.mp dated).1⟩

theorem val_next_of_valid
    {version : Count}
    (valid : validateReviewThread host thread = .ok ())
    (isNext : thread.version = version.next) :
    thread.version.val = version.val + 1 := by
  have bound := (parts_of_valid valid).1.2
  rw [isNext] at bound ⊢
  unfold Count.next at bound ⊢
  split at bound
  · rename_i room
    rw [dif_pos room]
  · rename_i full
    have last := version.property
    simp only [JsNumber.maxSafeInteger] at bound
    omega

theorem ReviewCall.version_next
    (fits : call.Fits host current) :
    (call.next current).version = current.version.next := by
  cases call with
  | append => rfl
  | react => rfl
  | setRead => rfl
  | resolve => rfl
  | reopen => rfl
  | move => rfl
  | mutate input =>
      obtain ⟨updated, isNext⟩ := Option.isSome_iff_exists.mp fits.2
      rw [next, isNext, Option.getD_some]
      obtain ⟨_, rfl⟩ | ⟨_, _, rfl⟩ | ⟨_, _, rfl⟩ :=
        input.update_cases isNext <;> rfl

/-! ## One step -/

variable {after : Repository}

theorem Committed.reviewThreads
    {before : Repository}
    {waiting : WaitingCommit}
    (committed : Committed before waiting after) :
    after.reviewThreads = before.reviewThreads := by
  have writes := committed.writes
  clear committed
  induction writes with
  | refl => rfl
  | tail _ write inductionHypothesis =>
      rw [← inductionHypothesis]
      cases write with
      | row _ write => cases write <;> rfl
      | reviewState => rfl
      | semanticChange => rfl

variable {system : System} {command : Command} {outcome : Outcome}

section

variable (effect : Effect host system command outcome after)

include effect

theorem Effect.reviewThreads
    (noThread : storedThread command outcome = none) :
    after.reviewThreads = system.repository.reviewThreads := by
  cases effect with
  | idle => rfl
  | row _ _ write => cases write <;> rfl
  | committed _ _ _ _ _ committed => exact committed.reviewThreads
  | stores thread _ isStored =>
      rw [noThread] at isStored
      cases isStored

theorem Effect.stored
    (isStored : storedThread command outcome = some thread) :
    after.reviewThreads = system.repository.reviewThreads.set thread ∧
      validateReviewThread host thread = .ok () ∧
      StoresThread host system.repository thread command outcome := by
  cases effect with
  | idle noThread => rw [isStored] at noThread; cases noThread
  | row _ noThread => rw [isStored] at noThread; cases noThread
  | committed ticket _ _ resumes =>
      rw [resumes] at isStored
      cases isStored
  | stores stored _ isSame valid _ stores =>
      rw [isStored] at isSame
      cases isSame
      exact ⟨rfl, valid, stores⟩

theorem Effect.find?
    (id : JsString) :
    after.reviewThreads.find? id =
      match storedThread command outcome with
      | some thread =>
          if thread.id = id then some thread
          else system.repository.reviewThreads.find? id
      | none => system.repository.reviewThreads.find? id := by
  cases isStored : storedThread command outcome with
  | none => rw [effect.reviewThreads isStored]
  | some thread =>
      rw [(effect.stored isStored).1]
      exact Table.find?_set _ _ _

end

theorem StoresThread.successor
    {repository : Repository}
    (stores : StoresThread host repository thread command outcome) :
    match repository.reviewThreads.find? thread.id with
    | some current =>
        ∃ call, command = .review call ∧ thread = call.next current ∧
          call.Fits host current
    | none =>
        command.messages = thread.messages ∧
          ∀ call, command = .review call → thread.version = Count.one := by
  cases stores with
  | created fresh =>
      rw [Table.has_eq_isSome, Option.isSome_eq_false_iff,
        Option.isNone_iff_eq_none] at fresh
      rw [fresh]
      exact ⟨rfl, fun call isCall => by cases isCall⟩
  | changed call _ stores =>
      have source := stores.source
      rw [← stores.threadId] at source
      cases found : repository.reviewThreads.find? thread.id with
      | some current =>
          rw [found] at source
          exact ⟨call, rfl, source⟩
      | none =>
          rw [found] at source
          dsimp only at source
          unfold ReviewCall.Creates at source
          split at source
          · obtain ⟨_, rfl⟩ := source
            exact ⟨rfl, fun _ _ => rfl⟩
          · exact source.elim

theorem Effect.stamps
    (effect : Effect host system command outcome after)
    (id : JsString) :
    stampsIn after id =
      stampsIn system.repository id ++ added id command outcome := by
  unfold stampsIn added
  rw [effect.find? id]
  cases isStored : storedThread command outcome with
  | none => simp
  | some thread =>
      dsimp only
      by_cases same : thread.id = id
      · rw [if_pos same, if_pos same]
        have successor := (effect.stored isStored).2.2.successor
        rw [same] at successor
        cases found : system.repository.reviewThreads.find? id with
        | none =>
            rw [found] at successor
            simp [ReviewThread.stamps, successor.1]
        | some current =>
            rw [found] at successor
            obtain ⟨call, rfl, rfl, fits⟩ := successor
            simpa using ReviewCall.stamps_next fits
      · rw [if_neg same, if_neg same, List.append_nil]

/-- A call on a thread counts its version; other threads keep theirs. -/
theorem Effect.version
    (effect : Effect host system (.review call) outcome after)
    (isStored : storedThread (.review call) outcome = some thread) :
    thread.id = call.threadId ∧
      after.reviewThreads.find? call.threadId = some thread ∧
      thread.version.val =
        versionIn system.repository call.threadId + 1 ∧
      ∀ id, id ≠ call.threadId →
        after.reviewThreads.find? id =
          system.repository.reviewThreads.find? id := by
  obtain ⟨_, valid, stores⟩ := effect.stored isStored
  have find? := effect.find?
  simp only [isStored] at find?
  have sameId : thread.id = call.threadId := by
    cases stores with
    | changed _ _ stores => exact stores.threadId
  refine ⟨sameId, ?_, ?_, ?_⟩
  · rw [find?, if_pos sameId]
  · have successor := stores.successor
    rw [← sameId, versionIn]
    cases found : system.repository.reviewThreads.find? thread.id with
    | none =>
        rw [found] at successor
        rw [successor.2 call rfl]
        rfl
    | some current =>
        rw [found] at successor
        obtain ⟨other, sameCall, isNext, fits⟩ := successor
        cases sameCall
        have counted := ReviewCall.version_next fits
        rw [← isNext] at counted
        exact val_next_of_valid valid counted
  · intro id different
    rw [find?, if_neg (sameId ▸ different.symm)]

/-! ## Fingerprints that cannot be applied again -/

/-- The thread of a fingerprint is past the version that it expects. -/
def Spent (host : Host) (repository : Repository) (fingerprint : JsString) :
    Prop :=
  ∃ mutation current version,
    ReviewThreadMutation.fingerprint host mutation = .ok fingerprint ∧
      repository.reviewThreads.find? mutation.threadId = some current ∧
      versionOf (.number mutation.expectedVersion.val) = some version ∧
      version < current.version.val

section

variable (effect : Effect host system command outcome after)

include effect

theorem Effect.find?_of_find?
    {id : JsString}
    (found : system.repository.reviewThreads.find? id = some current) :
    ∃ later, after.reviewThreads.find? id = some later ∧
      current.version.val ≤ later.version.val := by
  have find? := effect.find? id
  cases isStored : storedThread command outcome with
  | none =>
      rw [isStored] at find?
      exact ⟨current, find?.trans found, le_refl _⟩
  | some thread =>
      rw [isStored] at find?
      by_cases same : thread.id = id
      · simp only [if_pos same] at find?
        obtain ⟨_, valid, stores⟩ := effect.stored isStored
        have successor := stores.successor
        rw [same, found] at successor
        obtain ⟨call, _, isNext, fits⟩ := successor
        have counted := ReviewCall.version_next fits
        rw [← isNext] at counted
        have raised := val_next_of_valid valid counted
        exact ⟨thread, find?, by omega⟩
      · simp only [if_neg same] at find?
        exact ⟨current, find?.trans found, le_refl _⟩

theorem Effect.spent
    {fingerprint : JsString}
    (spent : Spent host system.repository fingerprint) :
    Spent host after fingerprint := by
  obtain ⟨mutation, current, version, taken, found, isVersion, past⟩ := spent
  obtain ⟨later, isLater, raised⟩ := effect.find?_of_find? found
  exact ⟨mutation, later, version, taken, isLater, isVersion,
    past.trans_le raised⟩

omit effect in
/-- The version that an applied mutation expects is that of its thread. -/
theorem StoresThread.expectedVersion
    {repository : Repository}
    {input : ReviewThreadMutation}
    (stores :
      StoresThread host repository thread (.review (.mutate input)) outcome) :
    versionOf (.number input.expectedVersion.val) =
      some (versionIn repository input.threadId) := by
  cases stores with
  | changed _ _ stores =>
      have source := stores.source
      unfold versionIn
      cases found : repository.reviewThreads.find? input.threadId with
      | some current =>
          simp only [ReviewCall.threadId, found] at source
          exact source.2.1
      | none =>
          simp only [ReviewCall.threadId, found] at source
          unfold ReviewCall.Creates at source
          split at source
          · rename_i isCreate
            cases isCreate
            exact source.1
          · exact source.elim

/-- A fingerprint that is applied was not spent, and is afterwards. -/
theorem Effect.applied
    {operation : JsString × JsString}
    (applied : appliedOperation command outcome = some operation) :
    ¬ Spent host system.repository operation.2 ∧
      Spent host after operation.2 := by
  unfold appliedOperation at applied
  split at applied
  · rename_i input thread fingerprint
    cases applied
    obtain ⟨_, isAfter, counted, _⟩ := effect.version rfl
    have stores := (effect.stored rfl).2.2
    have isVersion := stores.expectedVersion
    have taken : input.fingerprint host = .ok fingerprint := by
      cases stores with
      | changed _ _ stores =>
          obtain ⟨text, taken, sameAnswer⟩ := stores.answers
          cases sameAnswer
          exact taken
    constructor
    · rintro ⟨mutation, current, version, takenBefore, found, expected,
        past⟩
      obtain ⟨_, sameThread, sameVersion⟩ :=
        ReviewThreadMutation.fingerprint_determines takenBefore taken
      rw [expected, isVersion] at sameVersion
      cases sameVersion
      rw [versionIn, ← sameThread, found] at past
      exact Nat.lt_irrefl _ past
    · refine ⟨input, thread, _, taken, isAfter, isVersion, ?_⟩
      rw [ReviewCall.threadId] at counted
      omega
  · cases applied

end

/-! ## A sample history -/

def sampleMessage : ReviewThreadMessage where
  id := js "message-1"
  body := js "The primary action is hard to find"
  createdBy := js "reviewer"
  createdAt := sampleTime
  parentMessageId := none
  mentionedUserIds := []
  reactions := []
  readBy := []

def sampleThread : ReviewThread where
  id := js "thread-1"
  projectId := js "project-1"
  hostedBinding := none
  compilerTargetProvenance := none
  version := Count.one
  anchor := sampleAnchor
  messages := [sampleMessage]
  deepLink := js "/reviews/thread-1"
  lifecycle := .opened
  createdBy := js "reviewer"
  createdAt := sampleTime
  resolvedAt := none
  resolvedBy := none
  reopenedAt := none
  reopenedBy := none
  movedAt := none
  movedBy := none

/-- A project with one revision and one thread on it. -/
def sampleHistory : List Command :=
  [.createProject sampleProject,
    .appendRevision sampleRevision none,
    .resume 0,
    .createReviewThread sampleThread]

/-! ## Runs -/

/-- What a run has applied so far, and what it has added to every thread. -/
structure Tracks (host : Host) (start : System)
    (log : List (Taken System Command Outcome)) (system : System) :
    Prop where
  nodup :
    (log.filterMap fun step =>
      appliedOperation step.call step.answer).Nodup
  spent :
    ∀ operation ∈ log.filterMap fun step =>
        appliedOperation step.call step.answer,
      Spent host system.repository operation.2
  stamps :
    ∀ id, stampsIn system.repository id =
      stampsIn start.repository id ++
        log.flatMap fun step => added id step.call step.answer

theorem Tracks.step
    {start : System}
    {log : List (Taken System Command Outcome)}
    (tracks : Tracks host start log system)
    (keeps : command.KeepsProjects) :
    Tracks host start (log ++ [take (execute host) system command])
      (execute host system command).1 := by
  have effect := execute_effect host system keeps
  refine ⟨?_, ?_, ?_⟩
  · rw [List.filterMap_append]
    refine List.Nodup.append tracks.nodup ?_ ?_
    · simp only [List.filterMap_cons, List.filterMap_nil]
      split
      · exact List.nodup_nil
      · exact List.nodup_singleton _
    · intro operation old isNew
      obtain ⟨step, member, applied⟩ := List.mem_filterMap.mp isNew
      cases List.mem_singleton.mp member
      exact (effect.applied applied).1 (tracks.spent operation old)
  · intro operation member
    rw [List.filterMap_append, List.mem_append] at member
    rcases member with old | isNew
    · exact effect.spent (tracks.spent operation old)
    · obtain ⟨step, member, applied⟩ := List.mem_filterMap.mp isNew
      cases List.mem_singleton.mp member
      exact (effect.applied applied).2
  · intro id
    rw [effect.stamps id, tracks.stamps id, List.flatMap_append,
      List.append_assoc]
    simp [take]

theorem tracks_run
    (host : Host)
    (start : System)
    {commands : List Command}
    (keeps : ∀ command ∈ commands, command.KeepsProjects) :
    Tracks host start (taken (execute host) start commands)
      (takeAll (execute host) start commands) := by
  have empty : Tracks host start [] start :=
    ⟨List.nodup_nil, by simp, by simp⟩
  exact takeAll_tracks (Tracks host start)
    (fun _ command => command.KeepsProjects)
    (fun log system command tracks kept => tracks.step kept) empty
    (forall_call_taken keeps start)

/-- Between imports and deletions no step loses or repeats a change. -/
theorem reviewThread_history
    (host : Host)
    (start : System)
    {commands : List Command}
    (keeps : ∀ command ∈ commands, command.KeepsProjects) :
    (∀ step ∈ taken (execute host) start commands,
      ∀ call, step.call = .review call →
        match storedThread step.call step.answer with
        | some thread =>
            thread.id = call.threadId ∧
            step.after.repository.reviewThreads.find? call.threadId =
              some thread ∧
            thread.version.val =
              versionIn step.before.repository call.threadId + 1 ∧
            ∀ id, id ≠ call.threadId →
              step.after.repository.reviewThreads.find? id =
                step.before.repository.reviewThreads.find? id
        | none => step.after = step.before) ∧
      ((taken (execute host) start commands).filterMap fun step =>
        appliedOperation step.call step.answer).Nodup ∧
      ∀ id,
        stampsIn (takeAll (execute host) start commands).repository id =
          stampsIn start.repository id ++
            (taken (execute host) start commands).flatMap fun step =>
              added id step.call step.answer := by
  have tracks := tracks_run host start keeps
  refine ⟨?_, tracks.nodup, tracks.stamps⟩
  intro step member call isCall
  have isTaken := (forall_taken (fun _ => True) (fun _ _ => True)
    (fun _ _ _ _ => trivial) trivial (fun _ _ => trivial) step member).2
  rw [isTaken, take, isCall, execute]
  dsimp only
  rcases step.before.review_cases host call with
    ⟨same, noThread⟩ | ⟨thread, receipts, same, stores⟩
  · rw [noThread]
    exact same
  · have isStored := stores.storedThread
    have effect : Effect host step.before (.review call) _ _ :=
      .stores thread receipts isStored stores.valid stores.room
        (.changed call _ stores)
    rw [isStored, same]
    exact effect.version isStored

/-- A reply to the first message, under an operation of its own. -/
def sampleReply (operationId : JsString) : ReviewThreadMutation :=
  .reply operationId Count.one.toOwnNumber (js "thread-1") {
    sampleMessage with
      id := js "message-2"
      parentMessageId := some (js "message-1") }

/-- One reply is applied, another expects the version before, one is repeated. -/
def repliedHistory : List Command :=
  sampleHistory ++
    [.review (.mutate (sampleReply (js "operation-1"))),
      .review (.mutate (sampleReply (js "operation-2"))),
      .review (.mutate (sampleReply (js "operation-1")))]

/-- The name of the answer to a mutation. -/
def mutationOutcome : Outcome → Option JsString
  | .mutated (.applied ..) => some (js "applied")
  | .mutated (.replayed ..) => some (js "replayed")
  | .mutated (.conflict ..) => some (js "conflict")
  | _ => none

theorem reviewThread_history_sample :
    let steps := taken (execute codeUnitHost) .initial repliedHistory
    (steps.filterMap fun step => mutationOutcome step.answer) =
        [js "applied", js "conflict", js "replayed"] ∧
      (steps.filterMap fun step =>
        appliedOperation step.call step.answer).Nodup ∧
      ∀ id,
        stampsIn
            (takeAll (execute codeUnitHost) .initial
              repliedHistory).repository id =
          stampsIn System.initial.repository id ++
            steps.flatMap fun step => added id step.call step.answer := by
  have keeps : ∀ command ∈ repliedHistory, command.KeepsProjects := by
    simp [repliedHistory, sampleHistory, Command.KeepsProjects]
  exact ⟨by decide +kernel,
    (reviewThread_history codeUnitHost .initial keeps).2⟩

end Selene.Collaboration
