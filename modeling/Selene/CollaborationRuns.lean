import Selene.CollaborationProject
import Selene.LoggedMachine

/-!
# Runs of the repository

Callers of the repository interleave.  Every method but the two that append a
revision runs without waiting; those two wait once, and other calls may come
between their parts.  A system is a repository together with the calls that
wait, and a run is a list of commands, where `resume` goes on with one of the
calls that wait.
-/

namespace Selene.Collaboration

open Js

/-! ## Calls on review threads -/

/-- The seven methods that change a stored review thread. -/
inductive ReviewCall where
  | append (id : JsString) (message : ReviewThreadMessage)
  | react (id messageId emoji userId : JsString)
  | setRead (id messageId userId : JsString) (read : Bool)
  | resolve (id resolvedBy resolvedAt : JsString)
  | reopen (id reopenedBy reopenedAt : JsString)
  | move (id : JsString) (anchor : SpatialAnchor) (movedBy movedAt : JsString)
  | mutate (input : ReviewThreadMutation)

/-- What a command answers. -/
inductive Outcome where
  | rejected (error : CollaborationError)
  | accepted
  | waits
  | committed (outcome : CommitOutcome)
  | changed (thread : ReviewThread)
  | mutated (result : ReviewThreadMutationResult)

/-- The answer of a direct method: the thread as it was stored. -/
def direct (result : Checked (Repository × ReviewThread)) :
    Checked (Repository × Outcome) :=
  result.map fun stored => (stored.1, .changed stored.2)

namespace ReviewCall

/-- The thread that a call is about. -/
def threadId : ReviewCall → JsString
  | .append id _ => id
  | .react id _ _ _ => id
  | .setRead id _ _ _ => id
  | .resolve id _ _ => id
  | .reopen id _ _ => id
  | .move id _ _ _ => id
  | .mutate input => input.threadId

def perform (host : Host) (repository : Repository) :
    ReviewCall → Checked (Repository × Outcome)
  | .append id message =>
      direct (appendReviewThreadMessage host repository id message)
  | .react id messageId emoji userId =>
      direct
        (reactToReviewThreadMessage host repository id messageId emoji userId)
  | .setRead id messageId userId read =>
      direct
        (setReviewThreadMessageRead host repository id messageId userId read)
  | .resolve id resolvedBy resolvedAt =>
      direct (resolveReviewThread host repository id resolvedBy resolvedAt)
  | .reopen id reopenedBy reopenedAt =>
      direct (reopenReviewThread host repository id reopenedBy reopenedAt)
  | .move id anchor movedBy movedAt =>
      direct (moveReviewThread host repository id anchor movedBy movedAt)
  | .mutate input =>
      (mutateReviewThread host repository input).map fun stored =>
        (stored.1, .mutated stored.2)

end ReviewCall

/-! ## The system -/

/-- A call that waits for the latest revision of its project. -/
inductive Waiting where
  | commit (waiting : WaitingCommit)
  | append (waiting : WaitingAppend)

structure System where
  repository : Repository
  waiting : List Waiting

def System.initial : System :=
  ⟨.empty, []⟩

inductive Command where
  | createProject (project : Project)
  | appendRevision (revision : Revision)
      (expectedParentRevisionId : Option JsString)
  | commitDesignRevision (input : CommitDesignRevisionInput)
  | resume (ticket : Nat)
  | createReviewThread (thread : ReviewThread)
  | review (call : ReviewCall)
  | createAIChangeRequest (request : AIChangeRequest)
  | updateAIChangeRequest (request : AIChangeRequest)
  | createDeveloperAnnotation (note : DeveloperAnnotation)
  | createThread (thread : Thread)
  | updateThreadResolution (id resolvedBy resolvedAt : JsString)
  | createComment (comment : Comment)
  | addReaction (reaction : Reaction)
  | putApproval (approval : Approval)
  | createShareLink (link : SignedShareLink)
  | revokeShareLink (linkId revokedAt : JsString)
  | putIdempotency (scope value : JsString) (response : JsValue)
  | replaceProject (snapshot : CollaborationSnapshot)
      (expectedLatestRevisionId : Option JsString)
  | deleteProject (projectId : JsString)

/-- A command that neither imports nor deletes a project. -/
def Command.KeepsProjects : Command → Prop
  | .replaceProject .. => False
  | .deleteProject .. => False
  | _ => True

/-- Store what a call returned, or leave the repository as it is. -/
def System.store (system : System) (result : Checked Repository) :
    System × Outcome :=
  match result with
  | .error error => (system, .rejected error)
  | .ok repository => ({ system with repository }, .accepted)

/-- Go on with a call that waits. -/
def System.resume (system : System) (ticket : Nat) : System × Outcome :=
  let waiting := system.waiting.eraseIdx ticket
  match system.waiting[ticket]? with
  | none => (system, .accepted)
  | some (.commit commit) =>
      match resumeCommitDesignRevision system.repository commit with
      | (repository, .error error) => (⟨repository, waiting⟩, .rejected error)
      | (repository, .ok outcome) =>
          (⟨repository, waiting⟩, .committed outcome)
  | some (.append append) =>
      { system with waiting }.store
        (resumeAppendRevision system.repository append)

/-- Start a commit: it answers at once, or waits. -/
def System.commit (host : Host) (system : System)
    (input : CommitDesignRevisionInput) : System × Outcome :=
  match beginCommitDesignRevision host system.repository input with
  | .error error => (system, .rejected error)
  | .ok (.inl outcome) => (system, .committed outcome)
  | .ok (.inr waiting) =>
      ({ system with waiting := system.waiting ++ [.commit waiting] }, .waits)

/-- Start a plain append: it waits. -/
def System.append (host : Host) (system : System) (revision : Revision)
    (expectedParentRevisionId : Option JsString) : System × Outcome :=
  match beginAppendRevision host system.repository revision
      expectedParentRevisionId with
  | .error error => (system, .rejected error)
  | .ok waiting =>
      ({ system with waiting := system.waiting ++ [.append waiting] }, .waits)

/-- A call on a review thread. -/
def System.review (host : Host) (system : System) (call : ReviewCall) :
    System × Outcome :=
  match call.perform host system.repository with
  | .error error => (system, .rejected error)
  | .ok (repository, outcome) => ({ system with repository }, outcome)

def execute (host : Host) (system : System) : Command → System × Outcome
  | .createProject project =>
      system.store (createProject system.repository project)
  | .appendRevision revision expected =>
      system.append host revision expected
  | .commitDesignRevision input => system.commit host input
  | .resume ticket => system.resume ticket
  | .createReviewThread thread =>
      system.store (createReviewThread host system.repository thread)
  | .review call => system.review host call
  | .createAIChangeRequest request =>
      system.store (createAIChangeRequest system.repository request)
  | .updateAIChangeRequest request =>
      system.store (updateAIChangeRequest host system.repository request)
  | Command.createDeveloperAnnotation note =>
      system.store <|
        createDeveloperAnnotation system.repository note
  | .createThread thread =>
      system.store (createThread system.repository thread)
  | .updateThreadResolution id resolvedBy resolvedAt =>
      system.store
        (updateThreadResolution system.repository id resolvedBy resolvedAt)
  | .createComment comment =>
      system.store (createComment system.repository comment)
  | .addReaction reaction =>
      system.store (addReaction system.repository reaction)
  | .putApproval approval =>
      system.store (putApproval system.repository approval)
  | .createShareLink link =>
      system.store (createShareLink system.repository link)
  | .revokeShareLink linkId revokedAt =>
      system.store (revokeShareLink system.repository linkId revokedAt)
  | .putIdempotency scope value response =>
      system.store (putIdempotency system.repository scope value response)
  | .replaceProject snapshot expected =>
      system.store
        (replaceProject host system.repository snapshot expected)
  | .deleteProject projectId =>
      system.store (deleteProject system.repository projectId)

/-- A system that some run from the empty repository leads to. -/
abbrev ReachableSystem (host : Host) (system : System) : Prop :=
  Reachable (execute host) System.initial system

end Selene.Collaboration
