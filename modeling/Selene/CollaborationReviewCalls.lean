import Selene.CollaborationSteps
import Selene.ReviewReceiptText

/-!
# What a call on a review thread does

`ReviewCall.perform_cases` says once what the seven methods can do: leave the
repository as it is, or store one valid thread, which is new or the next value
of the thread that was stored.
-/

namespace Selene.Collaboration

open Js

namespace ReviewCall

/-- The next value of a stored thread under a call that changes it. -/
def next (current : ReviewThread) : ReviewCall → ReviewThread
  | .append _ message => current.withMessage message
  | .react _ messageId emoji userId =>
      current.withChanged messageId fun message =>
        message.withReaction emoji userId
  | .setRead _ messageId userId read =>
      current.withChanged messageId fun message =>
        message.withRead userId read
  | .resolve _ resolvedBy resolvedAt =>
      current.resolve resolvedBy resolvedAt
  | .reopen _ reopenedBy reopenedAt =>
      current.reopen reopenedBy reopenedAt
  | .move _ anchor movedBy movedAt =>
      { current with
        version := current.version.next
        anchor
        movedBy := some movedBy
        movedAt := some movedAt }
  | .mutate input => (input.update current).getD current

/-- What a call asks of the stored thread that it changes. -/
def Fits (host : Host) (current : ReviewThread) : ReviewCall → Prop
  | .append _ _ => True
  | .react _ messageId _ _ =>
      ∃ message ∈ current.messages, message.id = messageId
  | .setRead _ messageId _ _ =>
      ∃ message ∈ current.messages, message.id = messageId
  | .resolve _ _ _ => current.lifecycle = .opened
  | .reopen _ _ reopenedAt =>
      current.lifecycle = .resolved ∧
        ∃ resolvedAt, current.resolvedAt = some resolvedAt ∧
          ¬ host.notAfter reopenedAt resolvedAt
  | .move _ _ _ _ => True
  | .mutate input =>
      versionOf (.number input.expectedVersion.val) =
          some current.version.val ∧
        (input.update current).isSome

/-- The thread that a call creates. -/
def Creates (thread : ReviewThread) : ReviewCall → Prop
  | .mutate (.create _ expectedVersion given) =>
      versionOf (.number expectedVersion.val) = some 0 ∧
        thread = { given with version := Count.one }
  | _ => False

/-- The answer of a call that stored a thread. -/
def Answers (host : Host) (thread : ReviewThread) (outcome : Outcome) :
    ReviewCall → Prop
  | .mutate input =>
      ∃ fingerprint, input.fingerprint host = .ok fingerprint ∧
        outcome = .mutated (.applied thread fingerprint)
  | _ => outcome = .changed thread

/-- A call stores a valid thread. -/
structure Stores (host : Host) (repository : Repository) (call : ReviewCall)
    (thread : ReviewThread) (outcome : Outcome) : Prop where
  valid : validateReviewThread host thread = .ok ()
  room : HasRoom repository.reviewThreads thread
  threadId : thread.id = call.threadId
  answers : call.Answers host thread outcome
  source :
    match repository.reviewThreads.find? call.threadId with
    | none => call.Creates thread
    | some current => thread = call.next current ∧ call.Fits host current

end ReviewCall

variable {repository : Repository} {id : JsString}

theorem requireReviewThread_eq_ok
    {thread : ReviewThread} :
    requireReviewThread repository id = .ok thread ↔
      repository.reviewThreads.find? id = some thread := by
  unfold requireReviewThread
  cases repository.reviewThreads.find? id with
  | none => simp
  | some current => simp

variable {host : Host}

theorem clone_of_valid
    {thread : ReviewThread}
    (valid : validateReviewThread host thread = .ok ()) :
    clone thread.toJs = .ok () := by
  unfold validateReviewThread at valid
  obtain ⟨admitted, _⟩ := unit_bind_eq_ok.mp valid
  unfold owned at admitted
  exact check_of (check_eq_ok.mp admitted)

variable {stored : Repository × ReviewThread}

theorem storeReviewThread_eq_ok
    {updated : ReviewThread} :
    storeReviewThread host repository updated = .ok stored ↔
      validateReviewThread host updated = .ok () ∧
        stored =
          ({ repository with
            reviewThreads := repository.reviewThreads.set updated },
            updated) := by
  unfold storeReviewThread
  constructor
  · intro result
    obtain ⟨valid, copied⟩ := unit_bind_eq_ok.mp result
    obtain ⟨_, same⟩ := unit_bind_eq_ok.mp copied
    cases same
    exact ⟨valid, rfl⟩
  · rintro ⟨valid, rfl⟩
    rw [valid, clone_of_valid valid]
    rfl

/-! ## Direct methods -/

theorem appendReviewThreadMessage_eq_ok
    {message : ReviewThreadMessage} :
    appendReviewThreadMessage host repository id message = .ok stored ↔
      clone message.toJs = .ok () ∧
        ∃ current, repository.reviewThreads.find? id = some current ∧
          storeReviewThread host repository (current.withMessage message) =
            .ok stored := by
  unfold appendReviewThreadMessage
  rw [unit_bind_eq_ok, bind_eq_ok]
  simp only [requireReviewThread_eq_ok]

theorem changeReviewThreadMessage_eq_ok
    {messageId : JsString}
    {change : ReviewThreadMessage → ReviewThreadMessage} :
    changeReviewThreadMessage host repository id messageId change =
        .ok stored ↔
      ∃ current, repository.reviewThreads.find? id = some current ∧
        (∃ message ∈ current.messages, message.id = messageId) ∧
          storeReviewThread host repository
            (current.withChanged messageId change) = .ok stored := by
  unfold changeReviewThreadMessage
  rw [bind_eq_ok]
  simp only [requireReviewThread_eq_ok, check_bind_eq_ok]

theorem resolveReviewThread_eq_ok
    {resolvedBy resolvedAt : JsString} :
    resolveReviewThread host repository id resolvedBy resolvedAt =
        .ok stored ↔
      ∃ current, repository.reviewThreads.find? id = some current ∧
        current.lifecycle ≠ .resolved ∧
          storeReviewThread host repository
            (current.resolve resolvedBy resolvedAt) = .ok stored := by
  unfold resolveReviewThread
  rw [bind_eq_ok]
  simp only [requireReviewThread_eq_ok, check_bind_eq_ok]

theorem reopenReviewThread_eq_ok
    {reopenedBy reopenedAt : JsString} :
    reopenReviewThread host repository id reopenedBy reopenedAt =
        .ok stored ↔
      ∃ current, repository.reviewThreads.find? id = some current ∧
        current.lifecycle = .resolved ∧
          (∃ resolvedAt, current.resolvedAt = some resolvedAt ∧
            ¬ host.notAfter reopenedAt resolvedAt) ∧
          storeReviewThread host repository
            (current.reopen reopenedBy reopenedAt) = .ok stored := by
  unfold reopenReviewThread
  rw [bind_eq_ok]
  simp only [requireReviewThread_eq_ok, check_bind_eq_ok]
  refine exists_congr fun current => and_congr_right fun _ =>
    and_congr_right fun _ => ?_
  cases current.resolvedAt with
  | none => simp
  | some resolvedAt => simp [check_bind_eq_ok]

theorem moveReviewThread_eq_ok
    {movedBy movedAt : JsString}
    {anchor : SpatialAnchor}
    (moved :
      moveReviewThread host repository id anchor movedBy movedAt =
        .ok stored) :
    ∃ current, repository.reviewThreads.find? id = some current ∧
      storeReviewThread host repository
        ((ReviewCall.move id anchor movedBy movedAt).next current) =
          .ok stored := by
  unfold moveReviewThread at moved
  obtain ⟨_, fetched⟩ := unit_bind_eq_ok.mp moved
  obtain ⟨current, isCurrent, bound⟩ := bind_eq_ok.mp fetched
  obtain ⟨revision, _, checked⟩ := bind_eq_ok.mp bound
  obtain ⟨_, result⟩ := unit_bind_eq_ok.mp checked
  exact ⟨current, requireReviewThread_eq_ok.mp isCurrent, result⟩

namespace ReviewCall

theorem stores_direct
    {host : Host}
    {repository next : Repository}
    (call : ReviewCall)
    {current : ReviewThread}
    {outcome : Outcome}
    (isDirect : ∀ thread, call.Answers host thread (.changed thread))
    (sameThread : (call.next current).id = current.id)
    (found : repository.reviewThreads.find? call.threadId = some current)
    (fits : call.Fits host current)
    (stored :
      direct (storeReviewThread host repository (call.next current)) =
        .ok (next, outcome)) :
    ∃ thread receipts,
      next =
        { repository with
          reviewThreads := repository.reviewThreads.set thread
          reviewOperationReceipts := receipts } ∧
        Stores host repository call thread outcome := by
  unfold direct at stored
  cases result : storeReviewThread host repository (call.next current) with
  | error error => rw [result] at stored; cases stored
  | ok pair =>
      obtain ⟨valid, rfl⟩ := storeReviewThread_eq_ok.mp result
      rw [result] at stored
      cases stored
      refine ⟨call.next current, repository.reviewOperationReceipts, rfl,
        valid, hasRoom_of_find? found sameThread, ?_, isDirect _, ?_⟩
      · rw [sameThread]
        exact (Table.find?_eq_some.mp found).2
      · rw [found]
        exact ⟨rfl, fits⟩

end ReviewCall

/-! ## Mutations -/

/-- A mutation that was not applied. -/
def ReviewThreadMutationResult.IsIdle :
    ReviewThreadMutationResult → Prop
  | .applied _ _ => False
  | .replayed _ _ => True
  | .conflict _ _ => True

variable {repository : Repository} {current : ReviewThread}
   {outcome : Repository × ReviewThreadMutationResult}

theorem conflictWith_idle
    (answered : conflictWith repository current = .ok outcome) :
    outcome.1 = repository ∧ outcome.2.IsIdle := by
  unfold conflictWith at answered
  obtain ⟨_, same⟩ := unit_bind_eq_ok.mp answered
  cases same
  exact ⟨rfl, trivial⟩

variable {receipt : ReviewReceipt}

theorem replayReviewMutation_idle
    {fingerprint : JsString}
    (answered :
      replayReviewMutation repository current receipt fingerprint =
        .ok outcome) :
    outcome.1 = repository ∧ outcome.2.IsIdle := by
  unfold replayReviewMutation at answered
  split at answered
  · exact conflictWith_idle answered
  split at answered
  · obtain ⟨_, same⟩ := unit_bind_eq_ok.mp answered
    cases same
    exact ⟨rfl, trivial⟩
  · exact conflictWith_idle answered

variable {host : Host} {input : ReviewThreadMutation} {scope : JsString}

theorem applyReviewUpdate_cases
    (answered :
      applyReviewUpdate host repository current input receipt scope =
        .ok outcome) :
    (outcome.1 = repository ∧ outcome.2.IsIdle) ∨
      ∃ updated,
        versionOf (.number input.expectedVersion.val) =
          some current.version.val ∧
        input.update current = some updated ∧
        validateReviewThread host updated = .ok () ∧
        outcome =
          (storeWithReceipt repository updated receipt scope,
            .applied updated receipt.fingerprint) := by
  unfold applyReviewUpdate at answered
  split at answered
  · exact Or.inl (conflictWith_idle answered)
  · rename_i matching
    cases isNext : input.update current with
    | none =>
        rw [isNext] at answered
        exact Or.inl (conflictWith_idle answered)
    | some updated =>
        rw [isNext] at answered
        obtain ⟨valid, copied⟩ := unit_bind_eq_ok.mp answered
        obtain ⟨_, same⟩ := unit_bind_eq_ok.mp copied
        cases same
        exact Or.inr ⟨updated, not_not.mp matching, rfl, valid, rfl⟩

theorem applyReviewUpdate_applied
    {updated : ReviewThread}
    (matching :
      versionOf (.number input.expectedVersion.val) =
        some current.version.val)
    (isNext : input.update current = some updated)
    (valid : validateReviewThread host updated = .ok ()) :
    applyReviewUpdate host repository current input receipt scope =
      .ok (storeWithReceipt repository updated receipt scope,
        .applied updated receipt.fingerprint) := by
  unfold applyReviewUpdate
  rw [if_neg (not_not.mpr matching), isNext]
  simp only [valid, clone_of_valid valid, ok_bind]

variable {thread : ReviewThread}

theorem applyReviewCreate_cases
    {current : Option ReviewThread}
    (answered :
      applyReviewCreate host repository current thread receipt scope =
        .ok outcome) :
    (outcome.1 = repository ∧ outcome.2.IsIdle) ∨
      current = none ∧
        validateReviewThread host
          { thread with version := Count.one } = .ok () ∧
        HasRoom repository.reviewThreads
          { thread with version := Count.one } ∧
        outcome =
          (storeWithReceipt repository
              { thread with version := Count.one } receipt scope,
            .applied { thread with version := Count.one }
              receipt.fingerprint) := by
  cases current with
  | some current => exact Or.inl (conflictWith_idle answered)
  | none =>
      unfold applyReviewCreate at answered
      obtain ⟨revision, _, anchored⟩ := bind_eq_ok.mp answered
      obtain ⟨_, checked⟩ := unit_bind_eq_ok.mp anchored
      obtain ⟨valid, within⟩ := unit_bind_eq_ok.mp checked
      obtain ⟨room, copied⟩ := unit_bind_eq_ok.mp within
      obtain ⟨_, same⟩ := unit_bind_eq_ok.mp copied
      cases same
      exact Or.inr ⟨rfl, valid, check_eq_ok.mp room, rfl⟩

theorem versionOf_create
    {operationId : JsString}
    {expectedVersion : OwnNumber}
    {record : Record}
    (normalized :
      normalizeReviewThreadMutation host
        (ReviewThreadMutation.create operationId expectedVersion
          thread).toJs = .ok record) :
    versionOf (.number expectedVersion.val) = some 0 := by
  obtain ⟨_, isRecord, _, _, ofKind⟩ :=
    ReviewThreadMutation.normalizeReviewThreadMutation_eq_ok.mp normalized
  have version :=
    ReviewThreadMutation.get_expectedVersion isRecord
  have kind : record.get (js "kind") = .string (js "create") := by
    cases isRecord
    simp [textField, ReviewThreadMutation.kind]
  rw [isReviewMutation, kind] at ofKind
  simp only [decide_true, ↓reduceIte, Bool.and_eq_true,
    decide_eq_true_eq, version] at ofKind
  exact ofKind.1.2

/-- The receipt of a mutation of a project's thread. -/
def receiptOf (project : Project) (projectId : JsString)
    (input : ReviewThreadMutation) (fingerprint : JsString) :
    ReviewReceipt where
  key := storageKey
    (reviewReceiptScope project.organizationId projectId input.threadId)
    input.operationId
  kind := input.kind
  threadId := input.threadId
  fingerprint
  messageId := input.messageId?

/-- Apply a mutation that has no receipt to compare with. -/
def applyReviewMutation (host : Host) (repository : Repository)
    (input : ReviewThreadMutation) (current : Option ReviewThread)
    (receipt : ReviewReceipt) (scope : JsString) :
    Checked (Repository × ReviewThreadMutationResult) :=
  match input, current with
  | .create _ _ thread, _ =>
      applyReviewCreate host repository current thread receipt scope
  | _, none => .ok (repository, .conflict Count.zero none)
  | _, some current =>
      applyReviewUpdate host repository current input receipt scope

theorem mutateReviewThread_eq
    {projectId : JsString}
    {project : Project}
    (inProject :
      input.projectId (repository.reviewThreads.find? input.threadId) =
        some projectId)
    (stored : repository.projects.find? projectId = some project) :
    mutateReviewThread host repository input = (do
      let _ ← normalizeReviewThreadMutation host input.toJs
      requireText input.operationId (js "review operation id") 256
      let fingerprint ← input.fingerprint host
      let receipt := receiptOf project projectId input fingerprint
      match repository.reviewOperationReceipts.find? receipt.key,
          repository.reviewThreads.find? input.threadId with
      | some kept, some current =>
          replayReviewMutation repository current kept fingerprint
      | _, current =>
          applyReviewMutation host repository input current receipt
            (reviewReceiptScope project.organizationId projectId
              input.threadId)) := by
  unfold mutateReviewThread
  simp only [inProject, stored]
  refine bind_congr fun _ => bind_congr fun _ => bind_congr fun _ => ?_
  dsimp only [receiptOf]
  generalize repository.reviewThreads.find? input.threadId = current
  generalize repository.reviewOperationReceipts.find? _ = kept
  cases kept <;> cases current <;> cases input <;> rfl

/-- What a mutation makes of the thread that is stored, if there is one. -/
def Gives (repository : Repository) (input : ReviewThreadMutation)
    (stored : Option ReviewThread) (thread : ReviewThread) : Prop :=
  match stored with
  | none =>
      (ReviewCall.mutate input).Creates thread ∧
        HasRoom repository.reviewThreads thread
  | some current =>
      input.update current = some thread ∧
        versionOf (.number input.expectedVersion.val) =
          some current.version.val

theorem applyReviewMutation_cases
    {record : Record}
    (normalized :
      normalizeReviewThreadMutation host input.toJs = .ok record)
    (answered :
      applyReviewMutation host repository input
        (repository.reviewThreads.find? input.threadId) receipt scope =
          .ok outcome) :
    (outcome.1 = repository ∧ outcome.2.IsIdle) ∨
      ∃ thread,
        outcome =
          (storeWithReceipt repository thread receipt scope,
            .applied thread receipt.fingerprint) ∧
        validateReviewThread host thread = .ok () ∧
        Gives repository input
          (repository.reviewThreads.find? input.threadId) thread := by
  generalize repository.reviewThreads.find? input.threadId = current
    at answered ⊢
  have updates :
      ∀ {current}, applyReviewUpdate host repository current input receipt
          scope = .ok outcome →
        (outcome.1 = repository ∧ outcome.2.IsIdle) ∨
          ∃ thread,
            outcome =
              (storeWithReceipt repository thread receipt scope,
                .applied thread receipt.fingerprint) ∧
            validateReviewThread host thread = .ok () ∧
            Gives repository input (some current) thread := by
    intro current updated
    rcases applyReviewUpdate_cases updated with
      idle | ⟨thread, matching, isNext, valid, same⟩
    · exact Or.inl idle
    · exact Or.inr ⟨thread, same, valid, isNext, matching⟩
  cases input with
  | create operationId expectedVersion given =>
      rcases applyReviewCreate_cases answered with
        idle | ⟨rfl, valid, room, same⟩
      · exact Or.inl idle
      · exact Or.inr ⟨_, same, valid,
          ⟨versionOf_create normalized, rfl⟩, room⟩
  | reply operationId expectedVersion threadId message =>
      cases current with
      | none => cases answered; exact Or.inl ⟨rfl, trivial⟩
      | some current => exact updates answered
  | resolve operationId expectedVersion threadId actorId occurredAt =>
      cases current with
      | none => cases answered; exact Or.inl ⟨rfl, trivial⟩
      | some current => exact updates answered
  | reopen operationId expectedVersion threadId actorId occurredAt =>
      cases current with
      | none => cases answered; exact Or.inl ⟨rfl, trivial⟩
      | some current => exact updates answered

theorem mutateReviewThread_cases
    (answered : mutateReviewThread host repository input = .ok outcome) :
    (outcome.1 = repository ∧ outcome.2.IsIdle) ∨
      ∃ thread receipt scope,
        input.fingerprint host = .ok receipt.fingerprint ∧
        outcome =
          (storeWithReceipt repository thread receipt scope,
            .applied thread receipt.fingerprint) ∧
        validateReviewThread host thread = .ok () ∧
        Gives repository input
          (repository.reviewThreads.find? input.threadId) thread := by
  cases inProject :
      input.projectId (repository.reviewThreads.find? input.threadId) with
  | none =>
      unfold mutateReviewThread at answered
      simp only [inProject] at answered
      obtain ⟨_, _, named⟩ := bind_eq_ok.mp answered
      obtain ⟨_, same⟩ := unit_bind_eq_ok.mp named
      cases same
      exact Or.inl ⟨rfl, trivial⟩
  | some projectId =>
      cases stored : repository.projects.find? projectId with
      | none =>
          unfold mutateReviewThread at answered
          simp only [inProject, stored] at answered
          obtain ⟨_, _, named⟩ := bind_eq_ok.mp answered
          obtain ⟨_, raised⟩ := unit_bind_eq_ok.mp named
          cases raised
      | some project =>
          rw [mutateReviewThread_eq inProject stored] at answered
          obtain ⟨record, normalized, named⟩ := bind_eq_ok.mp answered
          obtain ⟨_, taken⟩ := unit_bind_eq_ok.mp named
          obtain ⟨fingerprint, isFingerprint, applied⟩ :=
            bind_eq_ok.mp taken
          dsimp only at applied
          split at applied
          · exact Or.inl (replayReviewMutation_idle applied)
          · rcases applyReviewMutation_cases normalized applied with
              idle | ⟨thread, same, valid, source⟩
            · exact Or.inl idle
            · exact Or.inr ⟨thread, _, _, isFingerprint, same, valid, source⟩

/-! ## What a call can do -/

theorem ReviewThreadMutation.update_cases
    (isNext : input.update current = some thread) :
    (∃ message, thread = current.withMessage message) ∨
      (∃ actorId occurredAt, thread = current.resolve actorId occurredAt) ∨
      ∃ actorId occurredAt, thread = current.reopen actorId occurredAt := by
  cases input with
  | create operationId expectedVersion given => cases isNext
  | reply operationId expectedVersion threadId message =>
      exact .inl ⟨message, (Option.some.inj isNext).symm⟩
  | resolve operationId expectedVersion threadId actorId occurredAt =>
      obtain ⟨_, same⟩ := Option.ite_none_right_eq_some.mp isNext
      exact .inr (.inl ⟨_, _, (Option.some.inj same).symm⟩)
  | reopen operationId expectedVersion threadId actorId occurredAt =>
      obtain ⟨_, same⟩ := Option.ite_none_right_eq_some.mp isNext
      exact .inr (.inr ⟨_, _, (Option.some.inj same).symm⟩)

theorem ReviewThreadMutation.id_update
    (isNext : input.update current = some thread) :
    thread.id = current.id := by
  obtain ⟨_, rfl⟩ | ⟨_, _, rfl⟩ | ⟨_, _, rfl⟩ := update_cases isNext <;> rfl

namespace ReviewCall

theorem creates_id
    {call : ReviewCall}
    {thread : ReviewThread}
    (creates : call.Creates thread) :
    thread.id = call.threadId := by
  unfold Creates at creates
  split at creates
  · obtain ⟨_, rfl⟩ := creates
    rfl
  · cases creates

/-- An answer of a call that left the repository as it was. -/
def IsIdle : Outcome → Prop
  | .mutated result => result.IsIdle
  | _ => False

/--
A call leaves the repository as it is, or it stores one valid thread: a new
one, or the next value of the one that was stored.
-/
theorem perform_cases
    {host : Host}
    {repository next : Repository}
    {call : ReviewCall}
    {outcome : Outcome}
    (performed : call.perform host repository = .ok (next, outcome)) :
    (next = repository ∧ IsIdle outcome) ∨
      ∃ thread receipts,
        next =
          { repository with
            reviewThreads := repository.reviewThreads.set thread
            reviewOperationReceipts := receipts } ∧
          Stores host repository call thread outcome := by
  have ofDirect :
      ∀ {method : Checked (Repository × ReviewThread)},
        direct method = .ok (next, outcome) →
          ∃ stored, method = .ok stored ∧
            direct (.ok stored) = .ok (next, outcome) := by
    intro method answered
    cases method with
    | error error => cases answered
    | ok stored => exact ⟨stored, rfl, answered⟩
  cases call with
  | append id message =>
      obtain ⟨stored, appended, answered⟩ := ofDirect performed
      obtain ⟨_, current, found, isStored⟩ :=
        appendReviewThreadMessage_eq_ok.mp appended
      exact Or.inr (stores_direct (.append id message)
        (fun _ => rfl) rfl found trivial (isStored ▸ answered))
  | react id messageId emoji userId =>
      obtain ⟨stored, changed, answered⟩ := ofDirect performed
      obtain ⟨current, found, member, isStored⟩ :=
        changeReviewThreadMessage_eq_ok.mp changed
      exact Or.inr (stores_direct (.react id messageId emoji userId)
        (fun _ => rfl) rfl found member (isStored ▸ answered))
  | setRead id messageId userId read =>
      obtain ⟨stored, changed, answered⟩ := ofDirect performed
      obtain ⟨current, found, member, isStored⟩ :=
        changeReviewThreadMessage_eq_ok.mp changed
      exact Or.inr (stores_direct (.setRead id messageId userId read)
        (fun _ => rfl) rfl found member (isStored ▸ answered))
  | resolve id resolvedBy resolvedAt =>
      obtain ⟨stored, resolved, answered⟩ := ofDirect performed
      obtain ⟨current, found, isOpen, isStored⟩ :=
        resolveReviewThread_eq_ok.mp resolved
      have opened : current.lifecycle = .opened := by
        cases lifecycle : current.lifecycle with
        | opened => rfl
        | resolved => exact absurd lifecycle isOpen
      exact Or.inr (stores_direct (.resolve id resolvedBy resolvedAt)
        (fun _ => rfl) rfl found opened (isStored ▸ answered))
  | reopen id reopenedBy reopenedAt =>
      obtain ⟨stored, reopened, answered⟩ := ofDirect performed
      obtain ⟨current, found, isResolved, later, isStored⟩ :=
        reopenReviewThread_eq_ok.mp reopened
      exact Or.inr (stores_direct (.reopen id reopenedBy reopenedAt)
        (fun _ => rfl) rfl found ⟨isResolved, later⟩ (isStored ▸ answered))
  | move id anchor movedBy movedAt =>
      obtain ⟨stored, moved, answered⟩ := ofDirect performed
      obtain ⟨current, found, isStored⟩ := moveReviewThread_eq_ok moved
      exact Or.inr (stores_direct (.move id anchor movedBy movedAt)
        (fun _ => rfl) rfl found trivial (isStored ▸ answered))
  | mutate input =>
      cases mutated : mutateReviewThread host repository input with
      | error error =>
          rw [perform, mutated] at performed
          cases performed
      | ok stored =>
          rw [perform, mutated] at performed
          cases performed
          rcases mutateReviewThread_cases mutated with
            ⟨unchanged, idle⟩ |
              ⟨thread, receipt, scope, taken, rfl, valid, source⟩
          · exact Or.inl ⟨unchanged, idle⟩
          · refine Or.inr ⟨thread, _, rfl, ?_⟩
            cases found :
                repository.reviewThreads.find? input.threadId with
            | none =>
                rw [found] at source
                refine ⟨valid, source.2, creates_id source.1, ⟨_, taken, rfl⟩,
                  ?_⟩
                simpa [threadId, found] using source.1
            | some current =>
                rw [found] at source
                have sameId := ReviewThreadMutation.id_update source.1
                refine ⟨valid, hasRoom_of_find? found sameId,
                  sameId.trans (Table.find?_eq_some.mp found).2,
                  ⟨_, taken, rfl⟩, ?_⟩
                simp [threadId, found, ReviewCall.next, Fits, source.1,
                  source.2]

end ReviewCall

/-! ## What a command can do -/

/-- The review thread that a command stored. -/
def storedThread : Command → Outcome → Option ReviewThread
  | .createReviewThread thread, .accepted => some thread
  | .review _, .changed thread => some thread
  | .review _, .mutated (.applied thread _) => some thread
  | _, _ => none

theorem ReviewCall.IsIdle.storedThread
    {outcome : Outcome}
    (idle : IsIdle outcome)
    (command : Command) :
    Collaboration.storedThread command outcome = none := by
  unfold IsIdle at idle
  split at idle
  · rename_i result
    cases result with
    | applied => exact idle.elim
    | replayed => cases command <;> rfl
    | conflict => cases command <;> rfl
  · exact idle.elim

section

variable (host : Host) (system : System)

theorem System.review_cases
    (call : ReviewCall) :
    ((system.review host call).1 = system ∧
        storedThread (.review call) (system.review host call).2 = none) ∨
      ∃ thread receipts,
        (system.review host call).1 =
          { system with
            repository :=
              { system.repository with
                reviewThreads := system.repository.reviewThreads.set thread
                reviewOperationReceipts := receipts } } ∧
          ReviewCall.Stores host system.repository call thread
            (system.review host call).2 := by
  unfold System.review
  cases performed : call.perform host system.repository with
  | error error => exact Or.inl ⟨rfl, rfl⟩
  | ok answered =>
      rcases ReviewCall.perform_cases performed with
        ⟨same, idle⟩ | ⟨thread, receipts, same, stores⟩
      · refine Or.inl ⟨?_, idle.storedThread _⟩
        dsimp only
        rw [same]
      · refine Or.inr ⟨thread, receipts, ?_, stores⟩
        dsimp only
        rw [same]

theorem System.repository_commit
    (input : CommitDesignRevisionInput) :
    (system.commit host input).1.repository = system.repository := by
  unfold System.commit
  split <;> rfl

theorem System.repository_append
    (revision : Revision)
    (expected : Option JsString) :
    (system.append host revision expected).1.repository =
      system.repository := by
  unfold System.append
  split <;> rfl

end

/-- How a command comes to store a review thread. -/
inductive StoresThread (host : Host) (repository : Repository)
    (thread : ReviewThread) : Command → Outcome → Prop where
  | created
      (fresh : repository.reviewThreads.has thread.id = false) :
      StoresThread host repository thread (.createReviewThread thread)
        .accepted
  | changed (call : ReviewCall) (outcome : Outcome)
      (stores : call.Stores host repository thread outcome) :
      StoresThread host repository thread (.review call) outcome

theorem ReviewCall.Stores.storedThread
    {host : Host}
    {repository : Repository}
    {call : ReviewCall}
    {thread : ReviewThread}
    {outcome : Outcome}
    (stores : call.Stores host repository thread outcome) :
    Collaboration.storedThread (.review call) outcome = some thread := by
  have answers := stores.answers
  unfold ReviewCall.Answers at answers
  split at answers
  · obtain ⟨fingerprint, _, rfl⟩ := answers
    rfl
  · rw [answers]
    rfl

/-- A command and what it makes of the repository. -/
inductive Effect (host : Host) (system : System) (command : Command)
    (outcome : Outcome) : Repository → Prop where
  | idle
      (noThread : storedThread command outcome = none) :
      Effect host system command outcome system.repository
  | row (next : Repository)
      (noThread : storedThread command outcome = none)
      (write : Write system.repository next) :
      Effect host system command outcome next
  | committed (ticket : Nat) (waiting : WaitingCommit) (next : Repository)
      (resumes : command = .resume ticket)
      (waits : system.waiting[ticket]? = some (.commit waiting))
      (committed : Committed system.repository waiting next) :
      Effect host system command outcome next
  | stores (thread : ReviewThread) (receipts : Table ReviewReceipt.key)
      (isStored : storedThread command outcome = some thread)
      (valid : validateReviewThread host thread = .ok ())
      (room : HasRoom system.repository.reviewThreads thread)
      (stores : StoresThread host system.repository thread command outcome) :
      Effect host system command outcome
        { system.repository with
          reviewThreads := system.repository.reviewThreads.set thread
          reviewOperationReceipts := receipts }

theorem System.resume_effect
    (host : Host)
    (system : System)
    (ticket : Nat) :
    Effect host system (.resume ticket) (system.resume ticket).2
      (system.resume ticket).1.repository := by
  unfold System.resume
  dsimp only
  cases waits : system.waiting[ticket]? with
  | none => exact .idle rfl
  | some waiting =>
      cases waiting with
      | commit commit =>
          have committed :=
            resumeCommitDesignRevision_cases system.repository commit
          dsimp only
          split
          · rename_i repository error ended
            rw [ended] at committed
            exact .committed ticket commit repository rfl waits committed
          · rename_i repository outcome ended
            rw [ended] at committed
            exact .committed ticket commit repository rfl waits committed
      | append append =>
          dsimp only
          cases resumed : resumeAppendRevision system.repository append with
          | error error => exact .idle rfl
          | ok next =>
              exact .row next rfl (resumeAppendRevision_writes resumed)

/--
A command that neither imports nor deletes a project sets at most one row,
goes on with a commit, or stores one review thread.
-/
theorem execute_effect
    (host : Host)
    (system : System)
    {command : Command}
    (keeps : command.KeepsProjects) :
    Effect host system command (execute host system command).2
      (execute host system command).1.repository := by
  have single :
      ∀ {result : Checked Repository},
        (∀ outcome, storedThread command outcome = none) →
        (∀ next, result = .ok next → Write system.repository next) →
          Effect host system command (system.store result).2
            (system.store result).1.repository := by
    intro result noThread writes
    cases result with
    | error error => exact .idle (noThread _)
    | ok next => exact .row next (noThread _) (writes next rfl)
  cases command with
  | createProject project =>
      exact single (fun _ => rfl) fun _ => createProject_writes
  | appendRevision revision expected =>
      rw [execute, System.repository_append]
      exact .idle rfl
  | commitDesignRevision input =>
      rw [execute, System.repository_commit]
      exact .idle rfl
  | resume ticket => exact System.resume_effect host system ticket
  | createReviewThread thread =>
      rw [execute]
      cases created : createReviewThread host system.repository thread with
      | error error => exact .idle rfl
      | ok next =>
          obtain ⟨fresh, valid, room, rfl⟩ :=
            createReviewThread_writes created
          exact .stores thread _ rfl valid room (.created fresh)
  | review call =>
      rw [execute]
      rcases System.review_cases host system call with
        ⟨same, noThread⟩ | ⟨thread, receipts, same, stores⟩
      · rw [same]
        exact .idle noThread
      · rw [same]
        exact .stores thread receipts stores.storedThread stores.valid
          stores.room (.changed call _ stores)
  | createAIChangeRequest request =>
      exact single (fun _ => rfl) fun _ => createAIChangeRequest_writes
  | updateAIChangeRequest request =>
      exact single (fun _ => rfl) fun _ => updateAIChangeRequest_writes
  | createDeveloperAnnotation note =>
      exact single (fun _ => rfl) fun _ => createDeveloperAnnotation_writes
  | createThread thread =>
      exact single (fun _ => rfl) fun _ => createThread_writes
  | updateThreadResolution id resolvedBy resolvedAt =>
      exact single (fun _ => rfl) fun _ => updateThreadResolution_writes
  | createComment comment =>
      exact single (fun _ => rfl) fun _ => createComment_writes
  | addReaction reaction =>
      exact single (fun _ => rfl) fun _ => addReaction_writes
  | putApproval approval =>
      exact single (fun _ => rfl) fun _ => putApproval_writes
  | createShareLink link =>
      exact single (fun _ => rfl) fun _ => createShareLink_writes
  | revokeShareLink linkId revokedAt =>
      exact single (fun _ => rfl) fun _ => revokeShareLink_writes
  | putIdempotency scope value response =>
      rw [execute]
      cases put :
          putIdempotency system.repository scope value response with
      | error error => exact .idle rfl
      | ok next =>
          rcases putIdempotency_writes put with rfl | writes
          · exact .idle rfl
          · exact .row next rfl writes
  | replaceProject snapshot expected => exact keeps.elim
  | deleteProject projectId => exact keeps.elim

end Selene.Collaboration
