import Selene.JsonTextSize
import Selene.SiemOutbox

/-!
# The custody of security events

A ledger keeps, for each event whose enqueueing succeeded, what the outbox
holds of it: the event waits, is leased, was acknowledged or is a dead letter.
Every run of the outbox moves the events of its ledger only in the ways that
`Move` lists, and hands out no claim twice.
-/

namespace Selene.Enterprise

open Js

/-! ## The ledger -/

/-- Where an event is. -/
inductive Custody where
  | waiting
  | leased (lease : Lease)
  | acknowledged
  | deadLettered (reasonCode : JsString)
  deriving DecidableEq

/-- The outbox still has to deliver the event. -/
def Custody.isLive : Custody → Bool
  | .waiting => true
  | .leased _ => true
  | .acknowledged => false
  | .deadLettered _ => false

/-- The claim on an event. -/
def Custody.claim? : Custody → Option Lease
  | .leased lease => some lease
  | _ => none

/-- No lease covers the event at a time. -/
def Custody.IsFreeAt (now : JsString) : Custody → Prop
  | .waiting => True
  | .leased lease => lease.IsExpired now
  | .acknowledged => False
  | .deadLettered _ => False

/-- An event whose enqueueing succeeded. -/
structure Enqueued where
  event : SecurityEvent
  custody : Custody
  deriving DecidableEq

/-- The outbox still has to deliver the event. -/
def Enqueued.isLive (item : Enqueued) : Bool :=
  item.custody.isLive

/-- The outbox still has the event, maybe as a dead letter. -/
def Enqueued.isHeld (item : Enqueued) : Bool :=
  decide (item.custody ≠ .acknowledged)

/-- What a ledger and an outbox say of an event. -/
def Enqueued.view (item : Enqueued) : SecurityEvent × Option Lease :=
  (item.event, item.custody.claim?)

def StoredEvent.view (stored : StoredEvent) : SecurityEvent × Option Lease :=
  (stored.event, stored.claim)

abbrev OutboxEntry := Taken SiemOutbox OutboxCall OutboxAnswer

abbrev OutboxLog := List OutboxEntry

/-- The custody of a stored event. -/
def StoredEvent.custody (stored : StoredEvent) : Custody :=
  match stored.claim with
  | none => .waiting
  | some lease => .leased lease

/-- What the outbox holds of an event that it has not settled before. -/
def custodyIn (outbox : SiemOutbox) (id : JsString) : Custody :=
  match outbox.events.find? id with
  | some stored => stored.custody
  | none =>
      match outbox.deadLetters.find? id with
      | some letter => .deadLettered letter.reasonCode
      | none => .acknowledged

/-- What is seen of an event after a call; what is settled stays so. -/
def observe (outbox : SiemOutbox) (item : Enqueued) : Enqueued :=
  if item.custody.isLive then
    { item with custody := custodyIn outbox item.event.id }
  else
    item

/-- The event that a call has enqueued. -/
def enqueuedBy (entry : OutboxEntry) : List Enqueued :=
  match entry.call, entry.answer with
  | .enqueue value, .ok _ =>
      (normalizeSecurityEvent value).toOption.toList.map fun event =>
        ⟨event, .waiting⟩
  | _, _ => []

/-- The ledger after a call. -/
def ledgerStep (ledger : List Enqueued) (entry : OutboxEntry) :
    List Enqueued :=
  ledger.map (observe entry.after) ++ enqueuedBy entry

/-- The events that were enqueued in a run, in order, and where they are. -/
def ledger (log : OutboxLog) : List Enqueued :=
  log.foldl ledgerStep []

/-- The claims that a call has handed out. -/
def issued (entry : OutboxEntry) : List ClaimedSecurityEvent :=
  match entry.answer with
  | .ok claims => claims
  | .error _ => []

/-! ## Moves -/

/-- The claim that a call settles, the time of the call, and how. -/
def OutboxCall.settlement? :
    OutboxCall → Option (JsString × JsString × Settlement)
  | .ack claimId now => do
      let claimId ← (text claimId "claimId" 256).toOption
      let now ← (canonicalInstant now "now").toOption
      pure (claimId, now, .ack)
  | .nack claimId retryAt now => do
      let retryAt ← (canonicalInstant retryAt "retryAt").toOption
      let claimId ← (text claimId "claimId" 256).toOption
      let now ← (canonicalInstant now "now").toOption
      pure (claimId, now, .nack retryAt)
  | .deadLetter claimId reasonCode now => do
      let reasonCode ←
        (identifier reasonCode "dead-letter reason code").toOption
      let claimId ← (text claimId "claimId" 256).toOption
      let now ← (canonicalInstant now "now").toOption
      pure (claimId, now, .deadLetter reasonCode)
  | _ => none

/-- The time of a claim. -/
def OutboxCall.claimTime? : OutboxCall → Option JsString
  | .claim _ now => (canonicalInstant now "now").toOption
  | _ => none

/-- How a call may change the custody of an event. -/
inductive Move (entry : OutboxEntry) (event : SecurityEvent) :
    Custody → Custody → Prop where
  | stays (custody : Custody) : Move entry event custody custody
  | expired {lease : Lease} {now : JsString} :
      entry.call.claimTime? = some now → lease.IsExpired now →
      Move entry event (.leased lease) .waiting
  | refused {lease : Lease} {now : JsString} {settlement : Settlement}
      {error : Thrown} :
      entry.call.settlement? = some (lease.id, now, settlement) →
      lease.IsExpired now → entry.answer = .error error →
      Move entry event (.leased lease) .waiting
  | handedOut {custody : Custody} {now : JsString}
      {claim : ClaimedSecurityEvent} :
      entry.call.claimTime? = some now → custody.IsFreeAt now →
      claim ∈ issued entry → claim.event = event →
      Move entry event custody
        (.leased ⟨claim.claimId, claim.leaseExpiresAt⟩)
  | returned {lease : Lease} {now retryAt : JsString} :
      entry.call.settlement? = some (lease.id, now, .nack retryAt) →
      ¬ lease.IsExpired now → entry.answer = .ok [] →
      Move entry event (.leased lease) .waiting
  | acknowledged {lease : Lease} {now : JsString} :
      entry.call.settlement? = some (lease.id, now, .ack) →
      ¬ lease.IsExpired now → entry.answer = .ok [] →
      Move entry event (.leased lease) .acknowledged
  | deadLettered {lease : Lease} {now reasonCode : JsString} :
      entry.call.settlement? = some (lease.id, now, .deadLetter reasonCode) →
      ¬ lease.IsExpired now → entry.answer = .ok [] →
      Move entry event (.leased lease) (.deadLettered reasonCode)

/-- Where an accepted settlement leaves its event. -/
def Settlement.custody : Settlement → Custody
  | .ack => .acknowledged
  | .nack _ => .waiting
  | .deadLetter reasonCode => .deadLettered reasonCode

/-- A call settles an event whose lease has not ended. -/
def Settles (before : List Enqueued) (entry : OutboxEntry)
    (claimId now : JsString) (settlement : Settlement) : Prop :=
  ∃ item ∈ before, ∃ lease, item.custody = .leased lease ∧
    lease.id = claimId ∧ ¬ lease.IsExpired now ∧
    (observe entry.after item).custody = settlement.custody

/-- What a call does to the events enqueued before it. -/
structure Moves (before : List Enqueued) (entry : OutboxEntry) : Prop where
  moved : ∀ item ∈ before,
    Move entry item.event item.custody (observe entry.after item).custody
  settled : ∀ claimId now settlement,
    entry.call.settlement? = some (claimId, now, settlement) →
      entry.answer.isOk = true →
        Settles before entry claimId now settlement
  handedOut : ∀ claim ∈ issued entry, ∃ now, ∃ item ∈ before,
    entry.call.claimTime? = some now ∧ item.event = claim.event ∧
      item.custody.IsFreeAt now ∧ (observe entry.after item).custody =
        .leased ⟨claim.claimId, claim.leaseExpiresAt⟩

/-! ## The ledger and the outbox -/

/-- The ledger says what the outbox holds. -/
structure Agrees (ledger : List Enqueued) (outbox : SiemOutbox) : Prop where
  live : (ledger.filter Enqueued.isLive).map Enqueued.view =
    outbox.events.rows.map StoredEvent.view
  dead : ∀ letter, letter ∈ outbox.deadLetters.rows ↔
    ⟨letter.event, .deadLettered letter.reasonCode⟩ ∈ ledger
  distinct : ((ledger.filter Enqueued.isHeld).map
    fun item => item.event.id).Nodup

/-- Every event of a run is in the custody that the ledger says. -/
structure Custodial (log : OutboxLog) (outbox : SiemOutbox) : Prop where
  agrees : Agrees (ledger log) outbox
  moves : ∀ index entry, log[index]? = some entry →
    Moves (ledger (log.take index)) entry
  issuedOnce : ((log.flatMap issued).map ClaimedSecurityEvent.claimId).Nodup
  leases : ∀ stored ∈ outbox.events.rows, ∀ lease ∈ stored.claim,
    ∃ claim ∈ log.flatMap issued, claim.event = stored.event ∧
      lease = ⟨claim.claimId, claim.leaseExpiresAt⟩
  bounded : outbox.events.size + outbox.deadLetters.size ≤ outbox.capacity

/-! ## What claiming does -/

/--
The loop over the events, as a relation between the rows before it, the rows
after it and the claims that it hands out, numbered from the next one on.
-/
inductive Claims (now leaseExpiresAt : JsString) : Nat →
    List StoredEvent → List StoredEvent → List ClaimedSecurityEvent →
    Prop where
  | nil {sequence : Nat} : Claims now leaseExpiresAt sequence [] [] []
  | kept {sequence : Nat} {stored : StoredEvent}
      {rest later : List StoredEvent} {claims : List ClaimedSecurityEvent} :
      Claims now leaseExpiresAt sequence rest later claims →
      Claims now leaseExpiresAt sequence (stored :: rest)
        ({ stored with claim := liveClaim now stored } :: later) claims
  | handedOut {sequence : Nat} {stored : StoredEvent}
      {rest later : List StoredEvent} {claims : List ClaimedSecurityEvent} :
      liveClaim now stored = none →
      Claims now leaseExpiresAt (sequence + 1) rest later claims →
      Claims now leaseExpiresAt sequence (stored :: rest)
        ({ stored with
            claim := some ⟨claimIdOf (sequence + 1), leaseExpiresAt⟩ } :: later)
        (⟨claimIdOf (sequence + 1), stored.event, stored.attempts,
          leaseExpiresAt⟩ :: claims)

theorem claims_claimLoop
    (limit : Nat)
    (now leaseExpiresAt : JsString)
    (rows : List StoredEvent)
    (claiming : Claiming) :
    ∃ claims, Claims now leaseExpiresAt claiming.sequence rows
        (claimLoop limit now leaseExpiresAt rows claiming).1 claims ∧
      (claimLoop limit now leaseExpiresAt rows claiming).2 =
        ⟨claiming.claims ++ claims, claiming.sequence + claims.length⟩ := by
  induction rows generalizing claiming with
  | nil => exact ⟨[], .nil, by simp [claimLoop]⟩
  | cons stored rest inductionHypothesis =>
      simp only [claimLoop, claimTurn]
      split
      · obtain ⟨claims, looped, isEnd⟩ := inductionHypothesis claiming
        exact ⟨claims, .kept looped, isEnd⟩
      · rename_i free
        rw [not_or, not_or] at free
        obtain ⟨claims, looped, isEnd⟩ := inductionHypothesis
          ⟨claiming.claims ++ [⟨claimIdOf (claiming.sequence + 1),
            stored.event, stored.attempts, leaseExpiresAt⟩],
            claiming.sequence + 1⟩
        refine ⟨_, .handedOut (Option.not_isSome_iff_eq_none.mp free.2.1)
          looped, isEnd.trans ?_⟩
        simp only [List.append_assoc, List.cons_append, List.nil_append,
          List.length_cons, Claiming.mk.injEq, true_and]
        omega

namespace Claims

variable {now leaseExpiresAt : JsString} {sequence : Nat}
  {rows later : List StoredEvent} {claims : List ClaimedSecurityEvent}

section

variable (looped : Claims now leaseExpiresAt sequence rows later claims)

include looped

theorem events :
    later.map StoredEvent.event = rows.map StoredEvent.event := by
  induction looped with
  | nil => rfl
  | kept _ inductionHypothesis => simp [inductionHypothesis]
  | handedOut _ _ inductionHypothesis => simp [inductionHypothesis]

theorem numbers :
    claims.map ClaimedSecurityEvent.claimId =
      (List.range' (sequence + 1) claims.length).map claimIdOf := by
  induction looped with
  | nil => rfl
  | kept _ inductionHypothesis => exact inductionHypothesis
  | handedOut _ _ inductionHypothesis =>
      rw [List.map_cons, inductionHypothesis, List.length_cons,
        List.range'_succ, List.map_cons]

theorem of_mem_later :
    ∀ after ∈ later, ∃ stored ∈ rows, after.event = stored.event ∧
      (after.claim = liveClaim now stored ∨
        liveClaim now stored = none ∧ ∃ claim ∈ claims,
          claim.event = stored.event ∧
            after.claim = some ⟨claim.claimId, claim.leaseExpiresAt⟩) := by
  induction looped with
  | nil => simp
  | kept _ inductionHypothesis =>
      rw [List.forall_mem_cons]
      refine ⟨⟨_, List.mem_cons_self, rfl, .inl rfl⟩, fun after member => ?_⟩
      obtain ⟨stored, isStored, found⟩ := inductionHypothesis after member
      exact ⟨stored, List.mem_cons_of_mem _ isStored, found⟩
  | handedOut free _ inductionHypothesis =>
      rw [List.forall_mem_cons]
      refine ⟨⟨_, List.mem_cons_self, rfl, .inr ⟨free, _, List.mem_cons_self,
        rfl, rfl⟩⟩, fun after member => ?_⟩
      obtain ⟨stored, isStored, same, found⟩ := inductionHypothesis after member
      refine ⟨stored, List.mem_cons_of_mem _ isStored, same, ?_⟩
      rcases found with kept | ⟨isFree, claim, isClaim, found⟩
      · exact .inl kept
      · exact .inr ⟨isFree, claim, List.mem_cons_of_mem _ isClaim, found⟩

theorem of_mem_claims :
    ∀ claim ∈ claims, ∃ stored ∈ rows, ∃ after ∈ later,
      stored.event = claim.event ∧ after.event = claim.event ∧
        liveClaim now stored = none ∧
        after.claim = some ⟨claim.claimId, claim.leaseExpiresAt⟩ := by
  induction looped with
  | nil => simp
  | kept _ inductionHypothesis =>
      intro claim member
      obtain ⟨stored, isStored, after, isAfter, found⟩ :=
        inductionHypothesis claim member
      exact ⟨stored, List.mem_cons_of_mem _ isStored, after,
        List.mem_cons_of_mem _ isAfter, found⟩
  | handedOut free _ inductionHypothesis =>
      rw [List.forall_mem_cons]
      refine ⟨⟨_, List.mem_cons_self, _, List.mem_cons_self, rfl, rfl, free,
        rfl⟩, fun claim member => ?_⟩
      obtain ⟨stored, isStored, after, isAfter, found⟩ :=
        inductionHypothesis claim member
      exact ⟨stored, List.mem_cons_of_mem _ isStored, after,
        List.mem_cons_of_mem _ isAfter, found⟩

end

end Claims

/-! ## What a call can do -/

/-- The outcomes of a call. -/
inductive Effect (outbox : SiemOutbox) (call : OutboxCall) :
    SiemOutbox × OutboxAnswer → Prop where
  | rejected (error : Thrown) : Effect outbox call (outbox, .error error)
  | enqueued {value : JsValue} {event : SecurityEvent} :
      call = .enqueue value → normalizeSecurityEvent value = .ok event →
      outbox.events.has event.id = false →
      outbox.deadLetters.has event.id = false →
      outbox.events.size + outbox.deadLetters.size < outbox.capacity →
      Effect outbox call ({ outbox with
        events := outbox.events.set ⟨event, 0, event.occurredAt, none⟩ },
        .ok [])
  | claimed {limit : Nat} {now : JsString} :
      call.claimTime? = some now →
      Effect outbox call ((claimAt outbox limit now).1,
        .ok (claimAt outbox limit now).2)
  | refused {stored : StoredEvent} {lease : Lease} {now : JsString}
      {settlement : Settlement} (error : Thrown) :
      call.settlement? = some (lease.id, now, settlement) →
      stored ∈ outbox.events.rows → stored.claim = some lease →
      lease.IsExpired now →
      Effect outbox call ({ outbox with
        events := outbox.events.set { stored with claim := none } },
        .error error)
  | settled {stored : StoredEvent} {lease : Lease} {now : JsString}
      {settlement : Settlement} :
      call.settlement? = some (lease.id, now, settlement) →
      stored ∈ outbox.events.rows → stored.claim = some lease →
      ¬ lease.IsExpired now →
      Effect outbox call (settle outbox stored settlement, .ok [])

variable {outbox : SiemOutbox}

theorem effect_finishAt
    {call : OutboxCall}
    {claimId now : JsString}
    {settlement : Settlement}
    (settles : call.settlement? = some (claimId, now, settlement)) :
    Effect outbox call (settled (finishAt outbox claimId now settlement)) := by
  rw [finishAt]
  cases found : eventUnder outbox claimId with
  | none => exact .rejected _
  | some stored =>
      have member := List.mem_of_find?_eq_some found
      have isClaim := of_decide_eq_true (List.find?_some
        (p := fun stored : StoredEvent =>
          decide (stored.claim.map Lease.id = some claimId)) found)
      obtain ⟨lease, isLease, rfl⟩ := Option.map_eq_some_iff.mp isClaim
      simp only [isLease, Option.mem_def, Option.some.injEq, exists_eq_left']
      split
      · rename_i isOver
        exact .refused _ settles member isLease isOver
      · rename_i isOver
        exact .settled settles member isLease isOver

theorem effect_finish
    {call : OutboxCall}
    {claimId now : JsValue}
    {settlement : Settlement}
    (settles : call.settlement? = do
      let claimId ← (text claimId "claimId" 256).toOption
      let now ← (canonicalInstant now "now").toOption
      pure (claimId, now, settlement)) :
    Effect outbox call (settled (finish outbox claimId now settlement)) := by
  rw [finish]
  cases isText : text claimId "claimId" 256 with
  | error error => exact .rejected _
  | ok claimId =>
      cases isTime : canonicalInstant now "now" with
      | error error => exact .rejected _
      | ok now =>
          rw [isText, isTime] at settles
          exact effect_finishAt settles

theorem effect
    (outbox : SiemOutbox)
    (call : OutboxCall) :
    Effect outbox call (outboxStep outbox call) := by
  cases call with
  | enqueue value =>
      rw [outboxStep]
      cases outcome : enqueue outbox value with
      | error error => exact .rejected _
      | ok next =>
          obtain ⟨event, normal, rest⟩ := bind_eq_ok.mp outcome
          obtain ⟨fresh, rest⟩ := check_bind_eq_ok.mp rest
          obtain ⟨room, rest⟩ := check_bind_eq_ok.mp rest
          cases Except.ok.inj rest
          exact .enqueued rfl normal fresh.1 fresh.2 room
  | claim limit now =>
      rw [outboxStep]
      cases isTime : canonicalInstant now "now" with
      | error error =>
          have thrown : claim outbox limit now = .error error := by
            rw [claim, isTime]
            rfl
          rw [thrown]
          exact .rejected _
      | ok timestamp =>
          have asked : (OutboxCall.claim limit now).claimTime? =
              some timestamp := by
            rw [OutboxCall.claimTime?, isTime]
            rfl
          rw [claim, isTime, ok_bind]
          split
          · rename_i limited
            split at limited
            · split at limited
              · cases Except.ok.inj limited
                exact .claimed asked
              · cases limited
            · cases limited
          · exact .rejected _
  | ack claimId now => exact effect_finish rfl
  | nack claimId retryAt now =>
      rw [outboxStep, nack]
      cases isTime : canonicalInstant retryAt "retryAt" with
      | error error => exact .rejected _
      | ok retryAt =>
          refine effect_finish ?_
          rw [OutboxCall.settlement?, isTime]
          rfl
  | deadLetter claimId reasonCode now =>
      rw [outboxStep, deadLetter]
      cases isCode : identifier reasonCode "dead-letter reason code" with
      | error error => exact .rejected _
      | ok reasonCode =>
          refine effect_finish ?_
          rw [OutboxCall.settlement?, isCode]
          rfl

/-! ## What is seen after a call -/

theorem custodyIn_of_mem
    {stored : StoredEvent}
    (member : stored ∈ outbox.events.rows) :
    custodyIn outbox stored.id = stored.custody := by
  rw [custodyIn, Table.find?_keyOf member]

@[simp] theorem claim?_custody
    (stored : StoredEvent) :
    stored.custody.claim? = stored.claim := by
  rw [StoredEvent.custody]
  cases stored.claim <;> rfl

@[simp] theorem isLive_custody
    (stored : StoredEvent) :
    stored.custody.isLive = true := by
  rw [StoredEvent.custody]
  cases stored.claim <;> rfl

theorem custody_eq
    {custody : Custody}
    {stored : StoredEvent}
    (live : custody.isLive = true)
    (same : custody.claim? = stored.claim) :
    custody = stored.custody := by
  rw [StoredEvent.custody, ← same]
  cases custody with
  | waiting => rfl
  | leased lease => rfl
  | acknowledged => cases live
  | deadLettered reasonCode => cases live

@[simp] theorem event_observe
    (outbox : SiemOutbox)
    (item : Enqueued) :
    (observe outbox item).event = item.event := by
  rw [observe]
  split <;> rfl

theorem observe_of_settled
    {item : Enqueued}
    (ended : item.custody.isLive = false) :
    observe outbox item = item := by
  rw [observe, ended]
  rfl

theorem custody_observe
    {item : Enqueued}
    (live : item.custody.isLive = true) :
    (observe outbox item).custody = custodyIn outbox item.event.id := by
  rw [observe, if_pos live]

namespace Agrees

variable {ledger : List Enqueued} {outbox : SiemOutbox}

section

variable (agrees : Agrees ledger outbox)

include agrees

theorem exists_stored
    {item : Enqueued}
    (member : item ∈ ledger)
    (live : item.custody.isLive = true) :
    ∃ stored ∈ outbox.events.rows, stored.event = item.event ∧
      stored.custody = item.custody := by
  have inLive : item.view ∈ outbox.events.rows.map StoredEvent.view := by
    rw [← agrees.live]
    exact List.mem_map_of_mem (List.mem_filter.mpr ⟨member, live⟩)
  obtain ⟨stored, isStored, same⟩ := List.mem_map.mp inLive
  obtain ⟨sameEvent, sameClaim⟩ := Prod.mk.inj same
  exact ⟨stored, isStored, sameEvent, (custody_eq live sameClaim.symm).symm⟩

theorem exists_item
    {stored : StoredEvent}
    (member : stored ∈ outbox.events.rows) :
    ∃ item ∈ ledger, item.event = stored.event ∧
      item.custody = stored.custody := by
  have inRows : stored.view ∈
      (ledger.filter Enqueued.isLive).map Enqueued.view := by
    rw [agrees.live]
    exact List.mem_map_of_mem member
  obtain ⟨item, isItem, same⟩ := List.mem_map.mp inRows
  obtain ⟨inLedger, live⟩ := List.mem_filter.mp isItem
  obtain ⟨sameEvent, sameClaim⟩ := Prod.mk.inj same
  exact ⟨item, inLedger, sameEvent, custody_eq live sameClaim⟩

theorem not_has_deadLetter
    {stored : StoredEvent}
    (member : stored ∈ outbox.events.rows) :
    outbox.deadLetters.find? stored.id = none := by
  refine Table.find?_eq_none.mpr fun letter isLetter sameId => ?_
  obtain ⟨item, inLedger, sameEvent, sameCustody⟩ := agrees.exists_item member
  have dead := (agrees.dead letter).mp isLetter
  have live : item.custody.isLive = true := by
    rw [sameCustody]
    exact isLive_custody stored
  have held : ∀ other ∈ ledger, other.custody ≠ .acknowledged →
      other ∈ ledger.filter Enqueued.isHeld := fun other inside held =>
    List.mem_filter.mpr ⟨inside, decide_eq_true held⟩
  have same := List.inj_on_of_nodup_map agrees.distinct
    (held _ inLedger (by rintro ended; rw [ended] at live; cases live))
    (held _ dead (by simp))
    (show item.event.id = letter.event.id by
      rw [sameEvent]
      exact sameId.symm)
  rw [same] at live
  cases live

end

end Agrees

theorem filterMap_find?
    {α κ : Type}
    [DecidableEq κ]
    {keyOf : α → κ}
    {rows kept added : List α}
    (distinct : (rows.map keyOf).Nodup)
    (sublist : (kept.map keyOf).Sublist (rows.map keyOf))
    (fresh : ∀ row ∈ added, keyOf row ∉ rows.map keyOf) :
    rows.filterMap (fun row => (kept ++ added).find?
      fun other => decide (keyOf other = keyOf row)) = kept := by
  induction rows generalizing kept with
  | nil =>
      rw [List.map_nil, List.sublist_nil, List.map_eq_nil_iff] at sublist
      rw [sublist]
      rfl
  | cons row rest inductionHypothesis =>
      rw [List.map_cons, List.nodup_cons] at distinct
      rw [List.map_cons] at sublist
      have freshRest : ∀ row ∈ added, keyOf row ∉ rest.map keyOf :=
        fun other member inRest =>
          fresh other member (List.mem_cons_of_mem _ inRest)
      have notAdded : ∀ other ∈ added, keyOf other ≠ keyOf row :=
        fun other member same => fresh other member
          (same ▸ List.mem_cons_self)
      rcases List.sublist_cons_iff.mp sublist with
        inRest | ⟨_, isKept, inRest⟩
      · have absent : ((kept ++ added).find?
            fun other => decide (keyOf other = keyOf row)) = none := by
          refine List.find?_eq_none.mpr fun other member same => ?_
          have same := of_decide_eq_true same
          rcases List.mem_append.mp member with isKept | isAdded
          · exact distinct.1 (same ▸ inRest.subset (List.mem_map_of_mem isKept))
          · exact notAdded other isAdded same
        rw [List.filterMap_cons, absent]
        exact inductionHypothesis distinct.2 inRest freshRest
      · obtain ⟨first, later, rfl, same, rfl⟩ := List.map_eq_cons_iff.mp isKept
        rw [List.filterMap_cons, List.cons_append,
          List.find?_cons_of_pos (by simpa using same)]
        have rested := inductionHypothesis distinct.2 inRest freshRest
        refine congrArg (first :: ·) (Eq.trans ?_ rested)
        refine List.filterMap_congr fun other member => ?_
        rw [List.find?_cons_of_neg]
        rw [decide_eq_true_eq, same]
        intro sameKey
        exact distinct.1 (sameKey ▸ List.mem_map_of_mem member)

theorem live_map_observe
    (after : SiemOutbox)
    (ledger : List Enqueued) :
    ((ledger.map (observe after)).filter Enqueued.isLive).map Enqueued.view =
      ((ledger.filter Enqueued.isLive).map
        Enqueued.event).filterMap fun event =>
          (after.events.find? event.id).map fun stored =>
            (event, stored.claim) := by
  induction ledger with
  | nil => rfl
  | cons item rest inductionHypothesis =>
      rw [List.map_cons]
      by_cases live : item.isLive = true
      · rw [@List.filter_cons_of_pos _ _ item rest live, List.map_cons,
          List.filterMap_cons, ← inductionHypothesis]
        have seen := @custody_observe after _ live
        cases found : after.events.find? item.event.id with
        | some stored =>
            rw [custodyIn, found] at seen
            have stays : (observe after item).isLive = true := by
              rw [Enqueued.isLive, seen]
              exact isLive_custody stored
            rw [List.filter_cons_of_pos stays, List.map_cons, Enqueued.view,
              seen, claim?_custody, event_observe]
            rfl
        | none =>
            have gone : ¬ (observe after item).isLive = true := by
              rw [Enqueued.isLive, seen, custodyIn, found]
              cases after.deadLetters.find? item.event.id <;>
                exact Bool.false_ne_true
            rw [List.filter_cons_of_neg gone]
            rfl
      · rw [observe_of_settled (by simpa [Enqueued.isLive] using live),
          List.filter_cons_of_neg live, List.filter_cons_of_neg live,
          inductionHypothesis]

namespace Agrees

variable {ledger : List Enqueued} {outbox after : SiemOutbox}

section

variable (agrees : Agrees ledger outbox)

include agrees

theorem events :
    (ledger.filter Enqueued.isLive).map Enqueued.event =
      outbox.events.rows.map StoredEvent.event := by
  have views := congrArg (List.map Prod.fst) agrees.live
  rw [List.map_map, List.map_map] at views
  exact views

theorem live_observed
    {kept added : List StoredEvent}
    (isEvents : after.events.rows = kept ++ added)
    (sublist : (kept.map StoredEvent.event).Sublist
      (outbox.events.rows.map StoredEvent.event))
    (fresh : ∀ stored ∈ added,
      stored.id ∉ outbox.events.rows.map StoredEvent.id) :
    ((ledger.map (observe after)).filter Enqueued.isLive).map Enqueued.view =
      kept.map StoredEvent.view := by
  have ids : (kept.map StoredEvent.id).Sublist
      (outbox.events.rows.map StoredEvent.id) := by
    have mapped := sublist.map SecurityEvent.id
    rw [List.map_map, List.map_map] at mapped
    exact mapped
  rw [live_map_observe, agrees.events, List.filterMap_map]
  have found : ∀ row ∈ outbox.events.rows,
      ((fun event : SecurityEvent => (after.events.find? event.id).map
          fun stored => (event, stored.claim)) ∘ StoredEvent.event) row =
        ((kept ++ added).find? fun other => decide (other.id = row.id)).map
          StoredEvent.view := by
    intro row member
    rw [Function.comp_apply, Table.find?, isEvents]
    cases isFound : (kept ++ added).find? fun other =>
        decide (other.id = row.event.id) with
    | none =>
        rw [show row.id = row.event.id from rfl, isFound]
        rfl
    | some stored =>
        have sameId : stored.id = row.id := of_decide_eq_true (List.find?_some
          (p := fun other : StoredEvent => decide (other.id = row.event.id))
          isFound)
        have sameEvent : stored.event = row.event := by
          rcases List.mem_append.mp (List.mem_of_find?_eq_some isFound) with
            isKept | isAdded
          · obtain ⟨other, isOther, same⟩ := List.mem_map.mp
              (sublist.subset (List.mem_map_of_mem isKept))
            have otherId : other.id = row.id := by
              rw [← sameId, StoredEvent.id, same]
              rfl
            rw [← same, Table.eq_of_mem isOther member otherId]
          · exact absurd (sameId ▸ List.mem_map_of_mem member)
              (fresh stored isAdded)
        rw [show row.id = row.event.id from rfl, isFound, Option.map_some,
          Option.map_some, StoredEvent.view, sameEvent]
  rw [List.filterMap_congr found, ← List.map_filterMap]
  exact congrArg (List.map StoredEvent.view)
    (filterMap_find? outbox.events.distinct ids fresh)

theorem dead_observed
    {event : SecurityEvent}
    {reasonCode : JsString} :
    ⟨event, .deadLettered reasonCode⟩ ∈ ledger.map (observe after) ↔
      ⟨event, .deadLettered reasonCode⟩ ∈ ledger ∨
        ∃ stored ∈ outbox.events.rows, stored.event = event ∧
          custodyIn after stored.id = .deadLettered reasonCode := by
  rw [List.mem_map]
  constructor
  · rintro ⟨item, member, seen⟩
    by_cases live : item.custody.isLive = true
    · obtain ⟨stored, isStored, sameEvent, _⟩ :=
        agrees.exists_stored member live
      have custody := @custody_observe after _ live
      rw [seen] at custody
      have isEvent : item.event = event := by
        rw [← event_observe after item, seen]
      exact .inr ⟨stored, isStored, sameEvent.trans isEvent, by
        rw [StoredEvent.id, sameEvent]
        exact custody.symm⟩
    · rw [observe_of_settled (by simpa using live)] at seen
      exact .inl (seen ▸ member)
  · rintro (member | ⟨stored, isStored, rfl, dead⟩)
    · exact ⟨_, member, observe_of_settled rfl⟩
    · obtain ⟨item, member, sameEvent, custody⟩ := agrees.exists_item isStored
      refine ⟨item, member, ?_⟩
      rw [observe, if_pos (by rw [custody]; exact isLive_custody stored),
        sameEvent]
      rw [StoredEvent.id] at dead
      rw [dead, ← sameEvent]

theorem distinct_observed :
    (((ledger.map (observe after)).filter Enqueued.isHeld).map
      fun item => item.event.id).Nodup := by
  refine agrees.distinct.sublist ?_
  clear agrees
  induction ledger with
  | nil => exact List.Sublist.refl []
  | cons item rest inductionHypothesis =>
      rw [List.map_cons]
      by_cases held : item.isHeld = true
      · rw [@List.filter_cons_of_pos _ _ item rest held]
        by_cases heldAfter : (observe after item).isHeld = true
        · rw [List.filter_cons_of_pos heldAfter, List.map_cons, List.map_cons,
            event_observe]
          exact inductionHypothesis.cons_cons _
        · rw [List.filter_cons_of_neg heldAfter, List.map_cons]
          exact inductionHypothesis.cons _
      · have ended : item.custody = .acknowledged := by
          simpa [Enqueued.isHeld] using held
        rw [observe_of_settled (by rw [ended]; rfl),
          List.filter_cons_of_neg held, List.filter_cons_of_neg held]
        exact inductionHypothesis

/-- Events move as the outbox moves the rows that store them. -/
theorem moved
    {entry : OutboxEntry}
    (rows : ∀ stored ∈ outbox.events.rows, Move entry stored.event
      stored.custody (custodyIn entry.after stored.id)) :
    ∀ item ∈ ledger, Move entry item.event item.custody
      (observe entry.after item).custody := by
  intro item member
  by_cases live : item.custody.isLive = true
  · obtain ⟨stored, isStored, sameEvent, custody⟩ :=
      agrees.exists_stored member live
    have moves := rows stored isStored
    rw [StoredEvent.id, sameEvent, custody] at moves
    rw [custody_observe live]
    exact moves
  · rw [observe_of_settled (by simpa using live)]
    exact .stays _

end

end Agrees

/-! ## One call -/

theorem custody_ne_deadLettered
    (stored : StoredEvent)
    (reasonCode : JsString) :
    stored.custody ≠ .deadLettered reasonCode := by
  intro dead
  have live := isLive_custody stored
  rw [dead] at live
  cases live

theorem custodyIn_set
    {outbox : SiemOutbox}
    {stored : StoredEvent}
    (id : JsString) :
    custodyIn { outbox with events := outbox.events.set stored } id =
      if stored.id = id then stored.custody else custodyIn outbox id := by
  by_cases same : stored.id = id
  · simp only [custodyIn, Table.find?_set, if_pos same]
  · simp only [custodyIn, Table.find?_set, if_neg same]

theorem events_set
    {outbox : SiemOutbox}
    {stored next : StoredEvent}
    (member : stored ∈ outbox.events.rows)
    (same : next.event = stored.event) :
    (outbox.events.set next).rows.map StoredEvent.event =
      outbox.events.rows.map StoredEvent.event := by
  have distinct := outbox.events.distinct
  have inRows := member
  change (Table.setRow StoredEvent.id next outbox.events.rows).map _ = _
  generalize outbox.events.rows = rows at distinct inRows
  induction rows with
  | nil => cases inRows
  | cons other rest inductionHypothesis =>
      rw [List.map_cons, List.nodup_cons] at distinct
      rw [Table.setRow]
      split
      · rename_i isRow
        rcases List.mem_cons.mp inRows with rfl | later
        · rw [List.map_cons, List.map_cons, same]
        · have sameId : stored.id = other.id := by
            rw [isRow, StoredEvent.id, StoredEvent.id, same]
          exact absurd (sameId ▸ List.mem_map_of_mem later) distinct.1
      · rename_i notRow
        rcases List.mem_cons.mp inRows with rfl | later
        · exact absurd (congrArg SecurityEvent.id same.symm) notRow
        · rw [List.map_cons, List.map_cons,
            inductionHypothesis distinct.2 later]

variable {entry : OutboxEntry}

theorem enqueuedBy_of_error
    {error : Thrown}
    (thrown : entry.answer = .error error) :
    enqueuedBy entry = [] := by
  rw [enqueuedBy, thrown]
  split
  · cases ‹Except.error error = Except.ok _›
  · rfl

theorem enqueuedBy_of_claim
    {now : JsString}
    (asked : entry.call.claimTime? = some now) :
    enqueuedBy entry = [] := by
  rw [enqueuedBy]
  split
  · rename_i value _ isCall _
    rw [isCall] at asked
    cases asked
  · rfl

theorem settlement?_of_claim
    {now : JsString}
    (asked : entry.call.claimTime? = some now) :
    entry.call.settlement? = none := by
  cases isCall : entry.call with
  | claim limit now => rfl
  | _ =>
      rw [isCall] at asked
      cases asked

theorem enqueuedBy_of_settlement
    {settlement : JsString × JsString × Settlement}
    (settles : entry.call.settlement? = some settlement) :
    enqueuedBy entry = [] := by
  rw [enqueuedBy]
  split
  · rename_i value _ isCall _
    rw [isCall] at settles
    cases settles
  · rfl

namespace Agrees

variable {ledger : List Enqueued} {outbox after : SiemOutbox}

theorem id_ne_of_fresh
    (agrees : Agrees ledger outbox)
    {id : JsString}
    (fresh : outbox.events.has id = false)
    (freshLetter : outbox.deadLetters.has id = false)
    {item : Enqueued}
    (member : item ∈ ledger)
    (held : item.custody ≠ .acknowledged) :
    item.event.id ≠ id := by
  rintro rfl
  cases custody : item.custody with
  | acknowledged => exact held custody
  | deadLettered reasonCode =>
      have isLetter := (agrees.dead ⟨item.event, reasonCode⟩).mpr (by
        rw [← custody]
        exact member)
      have known : DeadLetteredSecurityEvent.id ⟨item.event, reasonCode⟩ ∈
          outbox.deadLetters.rows.map DeadLetteredSecurityEvent.id :=
        List.mem_map_of_mem isLetter
      simp only [Table.has, decide_eq_false_iff_not] at freshLetter
      exact freshLetter known
  | waiting | leased lease =>
      obtain ⟨stored, isStored, same, _⟩ := agrees.exists_stored member
        (by rw [custody]; rfl)
      have known : stored.id ∈ outbox.events.rows.map StoredEvent.id :=
        List.mem_map_of_mem isStored
      rw [StoredEvent.id, same] at known
      simp only [Table.has, decide_eq_false_iff_not] at fresh
      exact fresh known

theorem of_kept
    (agrees : Agrees ledger outbox)
    (sublist : (after.events.rows.map StoredEvent.event).Sublist
      (outbox.events.rows.map StoredEvent.event))
    (dead : ∀ letter, letter ∈ after.deadLetters.rows ↔
      letter ∈ outbox.deadLetters.rows ∨
        ∃ stored ∈ outbox.events.rows, stored.event = letter.event ∧
          custodyIn after stored.id = .deadLettered letter.reasonCode) :
    Agrees (ledger.map (observe after)) after := by
  refine ⟨?_, fun letter => ?_, agrees.distinct_observed⟩
  · exact agrees.live_observed (List.append_nil _).symm sublist
      fun _ none => absurd none List.not_mem_nil
  · rw [dead, agrees.dead_observed, agrees.dead letter]

theorem dead_of_eq
    (same : after.deadLetters = outbox.deadLetters)
    (alive : ∀ stored ∈ outbox.events.rows, ∀ reasonCode,
      custodyIn after stored.id ≠ .deadLettered reasonCode)
    (letter : DeadLetteredSecurityEvent) :
    letter ∈ after.deadLetters.rows ↔
      letter ∈ outbox.deadLetters.rows ∨
        ∃ stored ∈ outbox.events.rows, stored.event = letter.event ∧
          custodyIn after stored.id = .deadLettered letter.reasonCode := by
  rw [same]
  refine ⟨.inl, fun either => either.elim id ?_⟩
  rintro ⟨stored, member, _, dead⟩
  exact absurd dead (alive stored member _)

end Agrees

end Selene.Enterprise
