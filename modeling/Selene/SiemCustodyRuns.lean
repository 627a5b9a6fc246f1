import Selene.SiemCustody

/-!
# Runs of the security-event outbox

Each call keeps the agreement of the ledger with the outbox, and moves events
only as the ledger allows.  A run therefore keeps every event in custody.
-/

namespace Selene.Enterprise

open Js

variable {outbox : SiemOutbox} {call : OutboxCall} {stored : StoredEvent}
  {log : OutboxLog}

/-! ## One call -/

/-- What is proved of each call. -/
structure Kept (ledger : List Enqueued) (entry : OutboxEntry) : Prop where
  agrees : Agrees (ledgerStep ledger entry) entry.after
  moves : Moves ledger entry

theorem kept_rejected
    {ledger : List Enqueued}
    (agrees : Agrees ledger outbox)
    (call : OutboxCall)
    (error : Thrown) :
    Kept ledger ⟨outbox, call, .error error, outbox⟩ := by
  have same : ∀ stored ∈ outbox.events.rows,
      custodyIn outbox stored.id = stored.custody :=
    fun _ member => custodyIn_of_mem member
  constructor
  · rw [ledgerStep, enqueuedBy_of_error rfl, List.append_nil]
    refine agrees.of_kept (List.Sublist.refl _) (Agrees.dead_of_eq rfl ?_)
    intro stored member reasonCode
    rw [same stored member]
    exact custody_ne_deadLettered stored reasonCode
  · refine ⟨agrees.moved fun stored member => ?_,
      fun _ _ _ _ accepted => absurd accepted Bool.false_ne_true,
      fun _ none => absurd none List.not_mem_nil⟩
    rw [same stored member]
    exact .stays _

theorem settles_of_stored
    {ledger : List Enqueued}
    {outbox after : SiemOutbox}
    (agrees : Agrees ledger outbox)
    {answer : OutboxAnswer}
    {lease : Lease}
    {now : JsString}
    {settlement : Settlement}
    (member : stored ∈ outbox.events.rows)
    (isLease : stored.claim = some lease)
    (inTime : ¬ lease.IsExpired now)
    (leaves : custodyIn after stored.id = settlement.custody) :
    Settles ledger ⟨outbox, call, answer, after⟩ lease.id now settlement := by
  obtain ⟨item, isItem, itemEvent, custody⟩ := agrees.exists_item member
  refine ⟨item, isItem, lease, ?_, rfl, inTime, ?_⟩
  · rw [custody, StoredEvent.custody, isLease]
  · rw [custody_observe (by rw [custody]; exact isLive_custody stored),
      itemEvent]
    exact leaves

theorem kept_enqueued
    {ledger : List Enqueued}
    (agrees : Agrees ledger outbox)
    {value : JsValue}
    {event : SecurityEvent}
    (normal : normalizeSecurityEvent value = .ok event)
    (fresh : outbox.events.has event.id = false)
    (freshLetter : outbox.deadLetters.has event.id = false) :
    Kept ledger ⟨outbox, .enqueue value, .ok [], { outbox with
      events := outbox.events.set ⟨event, 0, event.occurredAt, none⟩ }⟩ := by
  have newRow : (⟨event, 0, event.occurredAt, none⟩ : StoredEvent).id =
      event.id := rfl
  have rows := Table.rows_set_of_fresh
    (show outbox.events.has (StoredEvent.id
      ⟨event, 0, event.occurredAt, none⟩) = false from fresh)
  have absent : event.id ∉ outbox.events.rows.map StoredEvent.id := by
    simpa [Table.has] using fresh
  have same : ∀ stored ∈ outbox.events.rows,
      custodyIn { outbox with
        events := outbox.events.set ⟨event, 0, event.occurredAt, none⟩ }
          stored.id = stored.custody := by
    intro stored member
    rw [custodyIn_set, if_neg, custodyIn_of_mem member]
    intro isNew
    rw [newRow] at isNew
    exact absent (isNew ▸ List.mem_map_of_mem member)
  have isEnqueued : enqueuedBy ⟨outbox, .enqueue value, .ok [], { outbox with
      events := outbox.events.set ⟨event, 0, event.occurredAt, none⟩ }⟩ =
        [⟨event, .waiting⟩] := by
    simp only [enqueuedBy, normal]
    rfl
  constructor
  · rw [ledgerStep, isEnqueued]
    refine ⟨?_, fun letter => ?_, ?_⟩
    · rw [List.filter_append, List.map_append, agrees.live_observed rows
        (List.Sublist.refl _) (by
          intro stored isNew
          rw [List.mem_singleton.mp isNew]
          exact absent), rows, List.map_append]
      rfl
    · rw [List.mem_append, agrees.dead_observed, ← agrees.dead letter]
      constructor
      · exact fun member => .inl (.inl member)
      · rintro ((member | ⟨stored, member, _, dead⟩) | isNew)
        · exact member
        · exact absurd ((same stored member).symm.trans dead)
            (custody_ne_deadLettered stored _)
        · cases List.mem_singleton.mp isNew
    · rw [List.filter_append, List.map_append, List.nodup_append]
      refine ⟨agrees.distinct_observed, List.nodup_singleton _, ?_⟩
      intro id inOld newId isNew sameId
      obtain ⟨seen, isSeen, rfl⟩ := List.mem_map.mp inOld
      obtain ⟨inSeen, held⟩ := List.mem_filter.mp isSeen
      obtain ⟨item, member, rfl⟩ := List.mem_map.mp inSeen
      rw [event_observe, List.mem_singleton.mp isNew] at sameId
      refine agrees.id_ne_of_fresh fresh freshLetter member ?_ sameId
      intro ended
      rw [observe_of_settled (by rw [ended]; rfl)] at held
      simp [Enqueued.isHeld, ended] at held
  · refine ⟨agrees.moved fun stored member => ?_,
      fun _ _ _ settles => absurd settles (Option.some_ne_none _).symm,
      fun _ none => absurd none List.not_mem_nil⟩
    rw [same stored member]
    exact .stays _

theorem isFreeAt_custody
    {now : JsString}
    (free : liveClaim now stored = none) :
    stored.custody.IsFreeAt now := by
  rw [liveClaim] at free
  rw [StoredEvent.custody]
  cases claim : stored.claim with
  | none => trivial
  | some lease =>
      rw [claim] at free
      simpa [Option.filter_some, Custody.IsFreeAt] using free

theorem liveClaim_eq
    (now : JsString)
    (stored : StoredEvent) :
    liveClaim now stored = stored.claim ∨
      ∃ lease, stored.claim = some lease ∧ lease.IsExpired now ∧
        liveClaim now stored = none := by
  rw [liveClaim]
  cases stored.claim with
  | none => exact .inl rfl
  | some lease =>
      by_cases isOver : lease.IsExpired now
      · exact .inr ⟨lease, rfl, isOver, by simp [isOver]⟩
      · exact .inl (by simp [isOver])

theorem custody_of_claim
    {claim : Option Lease}
    (isClaim : stored.claim = claim) :
    stored.custody = claim.elim .waiting .leased := by
  rw [StoredEvent.custody, isClaim]
  cases claim <;> rfl

theorem kept_claimed
    {ledger : List Enqueued}
    {outbox after : SiemOutbox}
    (agrees : Agrees ledger outbox)
    {now leaseExpiresAt : JsString}
    {claims : List ClaimedSecurityEvent}
    (asked : call.claimTime? = some now)
    (looped : Claims now leaseExpiresAt outbox.sequence outbox.events.rows
      after.events.rows claims)
    (letters : after.deadLetters = outbox.deadLetters) :
    Kept ledger ⟨outbox, call, .ok claims, after⟩ := by
  have sameRow : ∀ stored ∈ outbox.events.rows, ∀ other ∈ outbox.events.rows,
      stored.event = other.event → stored = other :=
    fun _ member _ otherMember same =>
      Table.eq_of_mem member otherMember (congrArg SecurityEvent.id same)
  -- each event is found again among the rows after the loop
  have seen : ∀ stored ∈ outbox.events.rows, ∃ next ∈ after.events.rows,
      next.event = stored.event ∧
        custodyIn after stored.id = next.custody := by
    intro stored member
    have inLater : stored.event ∈ after.events.rows.map StoredEvent.event := by
      rw [looped.events]
      exact List.mem_map_of_mem member
    obtain ⟨next, isNext, same⟩ := List.mem_map.mp inLater
    refine ⟨next, isNext, same, ?_⟩
    rw [StoredEvent.id, ← same]
    exact custodyIn_of_mem isNext
  constructor
  · rw [ledgerStep, enqueuedBy_of_claim asked, List.append_nil]
    refine agrees.of_kept (looped.events ▸ List.Sublist.refl _)
      (Agrees.dead_of_eq letters ?_)
    intro stored member reasonCode
    obtain ⟨next, _, _, custody⟩ := seen stored member
    rw [custody]
    exact custody_ne_deadLettered next reasonCode
  · refine ⟨agrees.moved fun stored member => ?_, fun _ _ _ settles => ?_,
      fun claim member => ?_⟩
    · obtain ⟨next, isNext, same, custody⟩ := seen stored member
      obtain ⟨before, isBefore, sameEvent, found⟩ :=
        looped.of_mem_later next isNext
      cases sameRow before isBefore stored member (sameEvent.symm.trans same)
      rw [custody]
      rcases found with isClaim | ⟨free, claim, isClaim, isEvent, isLease⟩
      · rcases liveClaim_eq now stored with kept | ⟨lease, old, isOver, gone⟩
        · rw [custody_of_claim (isClaim.trans kept), ← custody_of_claim rfl]
          exact .stays _
        · rw [custody_of_claim (isClaim.trans gone), custody_of_claim old]
          exact .expired asked isOver
      · rw [custody_of_claim isLease]
        exact .handedOut asked (isFreeAt_custody free) isClaim isEvent
    · cases (settlement?_of_claim asked).symm.trans settles
    · obtain ⟨stored, isStored, next, isNext, isEvent, nextEvent, free,
        isLease⟩ := looped.of_mem_claims claim member
      obtain ⟨item, isItem, itemEvent, custody⟩ := agrees.exists_item isStored
      refine ⟨now, item, isItem, asked, itemEvent.trans isEvent, ?_, ?_⟩
      · rw [custody]
        exact isFreeAt_custody free
      · rw [custody_observe (by rw [custody]; exact isLive_custody stored),
          itemEvent.trans isEvent, ← nextEvent]
        exact (custodyIn_of_mem isNext).trans (custody_of_claim isLease)

theorem kept_set
    {ledger : List Enqueued}
    (agrees : Agrees ledger outbox)
    {answer : OutboxAnswer}
    {lease : Lease}
    {now : JsString}
    {settlement : Settlement}
    (settles : call.settlement? = some (lease.id, now, settlement))
    {stored next : StoredEvent}
    (member : stored ∈ outbox.events.rows)
    (same : next.event = stored.event)
    (noClaims : issued ⟨outbox, call, answer, outbox⟩ = [])
    (moves : Move ⟨outbox, call, answer, { outbox with
      events := outbox.events.set next }⟩ stored.event stored.custody
        next.custody)
    (isLease : stored.claim = some lease)
    (ends : answer.isOk = true →
      ¬ lease.IsExpired now ∧ next.custody = settlement.custody) :
    Kept ledger ⟨outbox, call, answer, { outbox with
      events := outbox.events.set next }⟩ := by
  have sameId : next.id = stored.id := congrArg SecurityEvent.id same
  have seen : ∀ other ∈ outbox.events.rows,
      other ≠ stored → custodyIn { outbox with
        events := outbox.events.set next } other.id = other.custody := by
    intro other isOther different
    rw [custodyIn_set, if_neg, custodyIn_of_mem isOther]
    rw [sameId]
    exact fun sameIds => different (Table.eq_of_mem isOther member sameIds.symm)
  have seenStored : custodyIn { outbox with
      events := outbox.events.set next } stored.id = next.custody := by
    rw [custodyIn_set, if_pos sameId]
  constructor
  · rw [ledgerStep, enqueuedBy_of_settlement settles, List.append_nil]
    refine agrees.of_kept ((events_set member same) ▸ List.Sublist.refl _)
      (Agrees.dead_of_eq rfl ?_)
    intro other isOther reasonCode
    by_cases isStored : other = stored
    · rw [isStored, seenStored]
      exact custody_ne_deadLettered next reasonCode
    · rw [seen other isOther isStored]
      exact custody_ne_deadLettered other reasonCode
  · refine ⟨agrees.moved fun other isOther => ?_, fun _ _ _ same answered => ?_,
      fun claim isClaim => ?_⟩
    · by_cases isStored : other = stored
      · rw [isStored, seenStored]
        exact moves
      · rw [seen other isOther isStored]
        exact .stays _
    · cases settles.symm.trans same
      obtain ⟨inTime, leaves⟩ := ends answered
      exact settles_of_stored agrees member isLease inTime
        (seenStored.trans leaves)
    · change claim ∈ issued ⟨outbox, call, answer, outbox⟩ at isClaim
      rw [noClaims] at isClaim
      cases isClaim

theorem kept_deleted
    {ledger : List Enqueued}
    {outbox after : SiemOutbox}
    (agrees : Agrees ledger outbox)
    {lease : Lease}
    {now : JsString}
    {settlement : Settlement}
    (settles : call.settlement? = some (lease.id, now, settlement))
    (member : stored ∈ outbox.events.rows)
    (isLease : stored.claim = some lease)
    (inTime : ¬ lease.IsExpired now)
    (leaves : custodyIn after stored.id = settlement.custody)
    (deleted : after.events = outbox.events.delete stored.id)
    (dead : ∀ letter, letter ∈ after.deadLetters.rows ↔
      letter ∈ outbox.deadLetters.rows ∨ stored.event = letter.event ∧
        custodyIn after stored.id = .deadLettered letter.reasonCode)
    (moves : Move ⟨outbox, call, .ok [], after⟩ stored.event stored.custody
      (custodyIn after stored.id)) :
    Kept ledger ⟨outbox, call, .ok [], after⟩ := by
  have seen : ∀ other ∈ outbox.events.rows, other ≠ stored →
      custodyIn after other.id = other.custody := by
    intro other isOther different
    have otherId : other.id ≠ stored.id :=
      fun sameIds => different (Table.eq_of_mem isOther member sameIds)
    rw [custodyIn, deleted, Table.find?_delete, if_neg otherId,
      Table.find?_keyOf isOther]
  constructor
  · rw [ledgerStep, enqueuedBy_of_settlement settles, List.append_nil]
    refine agrees.of_kept ?_ fun letter => ?_
    · rw [deleted]
      exact List.filter_sublist.map StoredEvent.event
    · rw [dead letter]
      refine or_congr_right ⟨fun isLetter => ⟨stored, member, isLetter⟩, ?_⟩
      rintro ⟨other, isOther, isEvent, custody⟩
      by_cases isStored : other = stored
      · exact isStored ▸ ⟨isEvent, custody⟩
      · rw [seen other isOther isStored] at custody
        exact absurd custody (custody_ne_deadLettered other _)
  · refine ⟨agrees.moved fun other isOther => ?_, fun _ _ _ same _ => ?_,
      fun _ none => absurd none List.not_mem_nil⟩
    · by_cases isStored : other = stored
      · rw [isStored]
        exact moves
      · rw [seen other isOther isStored]
        exact .stays _
    · cases settles.symm.trans same
      exact settles_of_stored agrees member isLease inTime leaves

theorem kept_settled
    {ledger : List Enqueued}
    (agrees : Agrees ledger outbox)
    {lease : Lease}
    {now : JsString}
    {settlement : Settlement}
    (settles : call.settlement? = some (lease.id, now, settlement))
    (member : stored ∈ outbox.events.rows)
    (isLease : stored.claim = some lease)
    (inTime : ¬ lease.IsExpired now) :
    Kept ledger ⟨outbox, call, .ok [], settle outbox stored settlement⟩ := by
  have noLetter := agrees.not_has_deadLetter member
  have gone : (outbox.events.delete stored.id).find? stored.id = none := by
    rw [Table.find?_delete, if_pos rfl]
  cases settlement with
  | nack retryAt =>
      refine kept_set agrees settles member rfl rfl ?_ isLease
        fun _ => ⟨inTime, rfl⟩
      rw [custody_of_claim isLease]
      exact .returned settles inTime rfl
  | ack =>
      have custody : custodyIn (settle outbox stored .ack) stored.id =
          .acknowledged := by
        simp only [custodyIn, settle, gone, noLetter]
      refine kept_deleted agrees settles member isLease inTime custody rfl
        (fun letter => ?_) ?_
      · rw [custody]
        simp [settle]
      · rw [custody, custody_of_claim isLease]
        exact .acknowledged settles inTime rfl
  | deadLetter reasonCode =>
      have custody : custodyIn (settle outbox stored (.deadLetter reasonCode))
          stored.id = .deadLettered reasonCode := by
        simp only [custodyIn, settle, gone]
        rw [show stored.id = DeadLetteredSecurityEvent.id
          ⟨stored.event, reasonCode⟩ from rfl, Table.find?_set_self]
      refine kept_deleted agrees settles member isLease inTime custody rfl
        (fun letter => ?_) ?_
      · have rows : (settle outbox stored
            (.deadLetter reasonCode)).deadLetters.rows =
              outbox.deadLetters.rows ++ [⟨stored.event, reasonCode⟩] := by
          refine Table.rows_set_of_fresh ?_
          rw [Table.has_eq_isSome]
          exact congrArg Option.isSome noLetter
        rw [rows, custody, List.mem_append, List.mem_singleton]
        refine or_congr_right ⟨?_, ?_⟩
        · rintro rfl
          exact ⟨rfl, rfl⟩
        · rintro ⟨isEvent, isCode⟩
          cases isCode
          cases letter
          cases isEvent
          rfl
      · rw [custody, custody_of_claim isLease]
        exact .deadLettered settles inTime rfl

theorem kept_outboxStep
    {ledger : List Enqueued}
    (agrees : Agrees ledger outbox)
    (call : OutboxCall) :
    Kept ledger (take outboxStep outbox call) := by
  have happened := effect outbox call
  rw [take]
  generalize outboxStep outbox call = outcome at happened
  cases happened with
  | rejected error => exact kept_rejected agrees call error
  | enqueued isCall normal fresh freshLetter _ =>
      cases isCall
      exact kept_enqueued agrees normal fresh freshLetter
  | @claimed limit now asked =>
      obtain ⟨claims, looped, isEnd⟩ := claims_claimLoop limit now
        (leaseEnd outbox now) outbox.events.rows ⟨[], outbox.sequence⟩
      have issued : (claimAt outbox limit now).2 = claims := by
        simp only [claimAt, isEnd, List.nil_append]
      rw [issued]
      exact kept_claimed agrees asked looped rfl
  | @refused stored lease now settlement error settles member isLease isOver =>
      refine kept_set agrees settles member rfl rfl ?_ isLease
        fun accepted => absurd accepted Bool.false_ne_true
      rw [custody_of_claim isLease]
      exact .refused settles isOver rfl
  | settled settles member isLease inTime =>
      exact kept_settled agrees settles member isLease inTime

/-! ## The other invariants -/

theorem claimIdOf_injective : Function.Injective claimIdOf := by
  intro first second same
  exact decimal.injective (List.append_cancel_left same)

/-- The claims handed out so far are numbered from one on. -/
def Numbered (log : OutboxLog) (outbox : SiemOutbox) : Prop :=
  (log.flatMap issued).map ClaimedSecurityEvent.claimId =
    (List.range' 1 outbox.sequence).map claimIdOf

theorem Numbered.nodup
    (numbered : Numbered log outbox) :
    ((log.flatMap issued).map ClaimedSecurityEvent.claimId).Nodup := by
  rw [numbered]
  exact (List.nodup_range' 1).map claimIdOf_injective

theorem sequence_settle
    (outbox : SiemOutbox)
    (stored : StoredEvent)
    (settlement : Settlement) :
    (settle outbox stored settlement).sequence = outbox.sequence := by
  cases settlement <;> rfl

theorem numbered_outboxStep
    (numbered : Numbered log outbox) :
    Numbered (log ++ [take outboxStep outbox call])
      (outboxStep outbox call).1 := by
  have happened := effect outbox call
  rw [take]
  generalize outboxStep outbox call = outcome at happened
  -- a call that hands out nothing keeps the numbers
  have nothing : ∀ {answer : OutboxAnswer} {after : SiemOutbox},
      issued ⟨outbox, call, answer, after⟩ = [] →
        after.sequence = outbox.sequence →
        Numbered (log ++ [⟨outbox, call, answer, after⟩]) after := by
    intro answer after none same
    rw [Numbered, List.flatMap_append, List.flatMap_singleton, none,
      List.append_nil, same]
    exact numbered
  cases happened with
  | rejected error => exact nothing rfl rfl
  | enqueued _ _ _ _ _ => exact nothing rfl rfl
  | @claimed limit now _ =>
      obtain ⟨claims, looped, isEnd⟩ := claims_claimLoop limit now
        (leaseEnd outbox now) outbox.events.rows ⟨[], outbox.sequence⟩
      have ends : (claimAt outbox limit now).1.sequence =
          outbox.sequence + claims.length := by
        simp only [claimAt, isEnd]
      have handedOut : (claimAt outbox limit now).2 = claims := by
        simp only [claimAt, isEnd, List.nil_append]
      rw [Numbered, List.flatMap_append, List.map_append, numbered, ends,
        ← List.range'_append_1, List.map_append, List.flatMap_singleton,
        Nat.add_comm 1, handedOut]
      exact congrArg _ looped.numbers
  | refused _ _ _ _ _ => exact nothing rfl rfl
  | settled _ _ _ _ => exact nothing rfl (sequence_settle _ _ _)

/-- The claims that the outbox holds on events were handed out for them. -/
def Leased (log : OutboxLog) (outbox : SiemOutbox) : Prop :=
  ∀ stored ∈ outbox.events.rows, ∀ lease ∈ stored.claim,
    ∃ claim ∈ log.flatMap issued, claim.event = stored.event ∧
      lease = ⟨claim.claimId, claim.leaseExpiresAt⟩

theorem Leased.of_old
    {entry : OutboxEntry}
    {outbox after : SiemOutbox}
    (leased : Leased log outbox)
    (old : ∀ next ∈ after.events.rows, next.claim = none ∨
      ∃ stored ∈ outbox.events.rows,
        next.event = stored.event ∧ next.claim = stored.claim) :
    Leased (log ++ [entry]) after := by
  intro next member lease isLease
  rcases old next member with none | ⟨stored, isStored, isEvent, isClaim⟩
  · rw [none] at isLease
    cases isLease
  · rw [isClaim] at isLease
    obtain ⟨claim, isIssued, same, found⟩ :=
      leased stored isStored lease isLease
    refine ⟨claim, ?_, same.trans isEvent.symm, found⟩
    rw [List.flatMap_append]
    exact List.mem_append_left _ isIssued

theorem leased_outboxStep
    (leased : Leased log outbox) :
    Leased (log ++ [take outboxStep outbox call])
      (outboxStep outbox call).1 := by
  have happened := effect outbox call
  rw [take]
  generalize outboxStep outbox call = outcome at happened
  cases happened with
  | rejected error =>
      exact leased.of_old fun next member => .inr ⟨next, member, rfl, rfl⟩
  | enqueued _ _ _ _ _ =>
      refine leased.of_old fun next member => ?_
      rcases Table.mem_set.mp member with rfl | ⟨old, _⟩
      · exact .inl rfl
      · exact .inr ⟨next, old, rfl, rfl⟩
  | @claimed limit now _ =>
      obtain ⟨claims, looped, isEnd⟩ := claims_claimLoop limit now
        (leaseEnd outbox now) outbox.events.rows ⟨[], outbox.sequence⟩
      have handedOut : (claimAt outbox limit now).2 = claims := by
        simp only [claimAt, isEnd, List.nil_append]
      intro next member lease isLease
      obtain ⟨stored, isStored, sameEvent, found⟩ :=
        looped.of_mem_later next member
      rw [List.flatMap_append, List.flatMap_singleton]
      rcases found with kept | ⟨_, claim, isClaim, isEvent, isNew⟩
      · have old : lease ∈ stored.claim := by
          rw [kept, liveClaim] at isLease
          exact (Option.mem_filter_iff.mp isLease).1
        obtain ⟨claim, isIssued, same, found⟩ :=
          leased stored isStored lease old
        exact ⟨claim, List.mem_append_left _ isIssued,
          same.trans sameEvent.symm, found⟩
      · refine ⟨claim, List.mem_append_right _ ?_,
          isEvent.trans sameEvent.symm, ?_⟩
        · change claim ∈ (claimAt outbox limit now).2
          rw [handedOut]
          exact isClaim
        · rw [isNew] at isLease
          exact (Option.some.inj isLease).symm
  | refused _ _ _ _ _ =>
      refine leased.of_old fun next member => ?_
      rcases Table.mem_set.mp member with rfl | ⟨old, _⟩
      · exact .inl rfl
      · exact .inr ⟨next, old, rfl, rfl⟩
  | @settled stored _ _ settlement _ _ _ _ =>
      refine leased.of_old fun next member => ?_
      cases settlement with
      | nack retryAt =>
          rcases Table.mem_set.mp member with rfl | ⟨old, _⟩
          · exact .inl rfl
          · exact .inr ⟨next, old, rfl, rfl⟩
      | ack | deadLetter reasonCode =>
          exact .inr ⟨next, List.mem_of_mem_filter member, rfl, rfl⟩

/-- There is room for what the outbox holds. -/
def Bounded (outbox : SiemOutbox) : Prop :=
  outbox.events.size + outbox.deadLetters.size ≤ outbox.capacity

theorem size_set_of_mem
    {stored next : StoredEvent}
    (member : stored ∈ outbox.events.rows)
    (same : next.event = stored.event) :
    (outbox.events.set next).size = outbox.events.size := by
  have lengths := congrArg List.length (events_set member same)
  rwa [List.length_map, List.length_map] at lengths

theorem size_delete_lt
    (member : stored ∈ outbox.events.rows) :
    (outbox.events.delete stored.id).size < outbox.events.size :=
  List.length_filter_lt_length_iff_exists.mpr ⟨stored, member, by simp⟩

theorem bounded_outboxStep
    (bounded : Bounded outbox) :
    Bounded (outboxStep outbox call).1 := by
  have happened := effect outbox call
  generalize outboxStep outbox call = outcome at happened
  rw [Bounded] at bounded ⊢
  cases happened with
  | rejected error => exact bounded
  | enqueued _ _ fresh _ room =>
      change (outbox.events.set _).size + outbox.deadLetters.size ≤
        outbox.capacity
      rw [Table.size_set]
      split <;> omega
  | @claimed limit now _ =>
      have sizes : (claimAt outbox limit now).1.events.size =
          outbox.events.size := by
        have lengths := congrArg List.length (ids_claimLoop limit now
          (leaseEnd outbox now) outbox.events.rows ⟨[], outbox.sequence⟩)
        rwa [List.length_map, List.length_map] at lengths
      rw [sizes]
      exact bounded
  | refused error _ member _ _ =>
      change (outbox.events.set _).size + outbox.deadLetters.size ≤
        outbox.capacity
      rwa [size_set_of_mem member]
      rfl
  | @settled stored _ _ settlement _ member _ _ =>
      have fewer := size_delete_lt member
      cases settlement with
      | ack =>
          change (outbox.events.delete _).size + outbox.deadLetters.size ≤
            outbox.capacity
          omega
      | nack retryAt =>
          change (outbox.events.set _).size + outbox.deadLetters.size ≤
            outbox.capacity
          rwa [size_set_of_mem member]
          rfl
      | deadLetter reasonCode =>
          change (outbox.events.delete _).size +
            (outbox.deadLetters.set _).size ≤ outbox.capacity
          rw [Table.size_set]
          split <;> omega

/-! ## Runs -/

theorem agrees_outboxStep
    (log : OutboxLog)
    (outbox : SiemOutbox)
    (call : OutboxCall)
    (agrees : Agrees (ledger log) outbox) :
    Agrees (ledger (log ++ [take outboxStep outbox call]))
      (outboxStep outbox call).1 := by
  rw [ledger, List.foldl_append]
  exact (kept_outboxStep agrees call).agrees

/-- Every run of a new outbox keeps its events in custody. -/
theorem custodial
    {capacity leaseSeconds : Nat}
    {outbox : SiemOutbox}
    (made : newSiemOutbox capacity leaseSeconds = .ok outbox)
    (calls : List OutboxCall) :
    Custodial (taken outboxStep outbox calls)
      (takeAll outboxStep outbox calls) := by
  obtain ⟨_, made⟩ := check_bind_eq_ok.mp made
  obtain ⟨_, made⟩ := check_bind_eq_ok.mp made
  obtain rfl := Except.ok.inj made
  have agrees : Agrees (ledger []) ⟨capacity, leaseSeconds, .empty, .empty, 0⟩ :=
    ⟨rfl, fun _ => ⟨fun none => absurd none List.not_mem_nil,
      fun none => absurd none List.not_mem_nil⟩, List.nodup_nil⟩
  have allowed : ∀ entry ∈ taken outboxStep
      ⟨capacity, leaseSeconds, .empty, .empty, 0⟩ calls, True :=
    fun _ _ => trivial
  constructor
  case agrees =>
    exact takeAll_tracks (fun log outbox => Agrees (ledger log) outbox)
      (fun _ _ => True)
      (fun log outbox call agrees _ => agrees_outboxStep log outbox call agrees)
      agrees allowed
  case moves =>
    intro index entry found
    obtain ⟨before, isEntry⟩ := tracks_before
      (fun log outbox => Agrees (ledger log) outbox) agrees_outboxStep agrees
      found
    rw [isEntry]
    exact (kept_outboxStep before entry.call).moves
  case issuedOnce =>
    have numbered := @takeAll_tracks _ _ _ outboxStep Numbered
      (fun _ _ => True)
      (fun _ _ _ numbered _ => numbered_outboxStep numbered)
      [] ⟨capacity, leaseSeconds, .empty, .empty, 0⟩ rfl calls allowed
    exact numbered.nodup
  case leases =>
    exact @takeAll_tracks _ _ _ outboxStep Leased (fun _ _ => True)
      (fun _ _ _ leased _ => leased_outboxStep leased)
      [] ⟨capacity, leaseSeconds, .empty, .empty, 0⟩
      (fun _ none => absurd none List.not_mem_nil) calls allowed
  case bounded =>
    refine takeAll_invariant Bounded (fun _ _ => True)
      (fun outbox call bounded _ => bounded_outboxStep bounded) ?_ allowed
    exact Nat.zero_le capacity

/-! ## A run -/

def signInEvent : JsValue :=
  .object [(js "format", .string (js "selene-security-event/v1")),
    (js "id", .string (js "event-1")),
    (js "tenantId", .string (js "tenant")),
    (js "occurredAt", .string (js "2026-07-25T22:01:00.000Z")),
    (js "type", .string (js "sign-in")),
    (js "payload", .object [
      (js "format", .string (js "selene-redacted-security-payload/v1")),
      (js "summary", .string (js "A member signed in")),
      (js "attributes", .array [])])]

/-- An event is enqueued and claimed; the first lease ends, the second holds. -/
def signInCalls : List OutboxCall :=
  [.enqueue signInEvent,
    .claim (.finite 1) (.string (js "2026-07-25T22:01:00.000Z")),
    .ack (.string (js "claim-1")) (.string (js "2026-07-25T22:01:30.000Z")),
    .claim (.finite 1) (.string (js "2026-07-25T22:01:30.000Z")),
    .ack (.string (js "claim-1")) (.string (js "2026-07-25T22:01:40.000Z")),
    .ack (.string (js "claim-2")) (.string (js "2026-07-25T22:01:40.000Z"))]

theorem signIn_custodial :
    Custodial (taken outboxStep ⟨2, 30, .empty, .empty, 0⟩ signInCalls)
      (takeAll outboxStep ⟨2, 30, .empty, .empty, 0⟩ signInCalls) ∧
    (taken outboxStep ⟨2, 30, .empty, .empty, 0⟩ signInCalls).map
        (fun entry => entry.answer.toOption.isSome) =
      [true, true, false, true, false, true] ∧
    (ledger (taken outboxStep ⟨2, 30, .empty, .empty, 0⟩ signInCalls)).map
        Enqueued.custody = [.acknowledged] :=
  ⟨@custodial 2 30 _ rfl signInCalls,
    by decide +kernel, by decide +kernel⟩

end Selene.Enterprise
