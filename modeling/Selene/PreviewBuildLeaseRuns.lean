import Selene.LoggedMachine
import Selene.PreviewBuildLease

/-!
# Leases over runs of the authority

The authority registers exactly the leases that are not revoked (`Sound`), and
the objects of leases only ever change one way (`Later`): a revoked lease stays
revoked and a claimed one stays claimed.  Every call makes one of three changes
to the authority (`Change`), and both facts follow for whole runs.
-/

namespace Selene.Preview

open Js Canonical

variable {Caller : Type} [DecidableEq Caller]

namespace PreviewBuildLeaseAuthority

variable {numbers : NumberFormat}
  {authority before after : PreviewBuildLeaseAuthority Caller} {lease : Nat}
  {object : Lease Caller} {calls : List (Call Caller)} {now : JsNumber}

/-! ## The registered leases -/

/-- A lease that was issued and is not revoked. -/
def IsLive (authority : PreviewBuildLeaseAuthority Caller) (lease : Nat)
    (object : Lease Caller) : Prop :=
  authority.issued[lease]? = some object ∧ object.aborted = false

/-- The map holds the live leases, and timers run for no others. -/
structure Sound (authority : PreviewBuildLeaseAuthority Caller) : Prop where
  registered : ∀ caller lease,
    authority.leases caller = some lease ↔
      ∃ object, authority.IsLive lease object ∧ object.callerId = caller
  newest : ∀ caller lease, authority.leases caller = some lease →
    ∀ other object, authority.issued[other]? = some object →
      object.callerId = caller → other ≤ lease
  scheduled : ∀ lease,
    lease ∈ authority.timers ↔ ∃ caller, authority.leases caller = some lease

omit [DecidableEq Caller] in
theorem sound_initial :
    (initial : PreviewBuildLeaseAuthority Caller).Sound where
  registered caller lease := by simp [initial, IsLive]
  newest caller lease found := by cases found
  scheduled lease := by simp [initial]

section

variable (authority : PreviewBuildLeaseAuthority Caller)

theorem issued_revoke
    (lease other : Nat) :
    (authority.revoke lease).issued[other]? =
      authority.issued[other]?.map fun object =>
        if other = lease then { object with aborted := true } else object := by
  unfold revoke
  split
  · rename_i absent
    by_cases same : other = lease
    · subst same
      simp [absent]
    · simp [same]
  · rename_i object found
    rw [List.getElem?_set]
    by_cases same : lease = other
    · subst same
      have inside := (List.getElem?_eq_some_iff.mp found).1
      rw [if_pos rfl, if_pos inside, found]
      simp
    · simp [same, Ne.symm same]

theorem issued_revoke_of_ne
    {lease other : Nat}
    (different : other ≠ lease) :
    (authority.revoke lease).issued[other]? = authority.issued[other]? := by
  rw [issued_revoke]
  simp [different]

theorem length_issued_revoke
    (lease : Nat) :
    (authority.revoke lease).issued.length = authority.issued.length := by
  unfold revoke
  split
  · rfl
  · exact List.length_set

theorem isLive_revoke
    (lease other : Nat)
    (object : Lease Caller) :
    (authority.revoke lease).IsLive other object ↔
      other ≠ lease ∧ authority.IsLive other object := by
  unfold IsLive
  by_cases same : other = lease
  · subst same
    rw [issued_revoke]
    simp only [if_true, ne_eq, not_true_eq_false, false_and, iff_false]
    rintro ⟨found, notAborted⟩
    obtain ⟨before, _, rfl⟩ := Option.map_eq_some_iff.mp found
    cases notAborted
  · rw [issued_revoke_of_ne authority same]
    simp [same]

end

section

variable (sound : authority.Sound)

include sound

theorem Sound.leases_revoke
    (lease : Nat)
    (caller : Caller) :
    (authority.revoke lease).leases caller =
      if authority.leases caller = some lease then none
      else authority.leases caller := by
  unfold revoke
  split
  · rename_i absent
    split
    · rename_i registered
      obtain ⟨object, live, _⟩ := (sound.registered _ _).mp registered
      exact absurd (absent.symm.trans live.1) nofun
    · rfl
  · rename_i object found
    have same : authority.leases caller = some lease →
        caller = object.callerId := by
      intro registered
      obtain ⟨other, live, rfl⟩ := (sound.registered _ _).mp registered
      cases Option.some.inj (found.symm.trans live.1)
      rfl
    dsimp only
    by_cases own : caller = object.callerId
    · subst own
      split <;> simp_all
    · have unregistered : ¬ authority.leases caller = some lease :=
        fun registered => own (same registered)
      rw [if_neg unregistered]
      split
      · exact Function.update_of_ne own _ _
      · rfl

theorem Sound.revoke
    (lease : Nat) :
    (authority.revoke lease).Sound where
  registered caller other := by
    rw [sound.leases_revoke]
    simp only [isLive_revoke]
    constructor
    · intro registered
      split at registered
      · cases registered
      · rename_i remains
        obtain ⟨object, live, owner⟩ := (sound.registered _ _).mp registered
        refine ⟨object, ⟨?_, live⟩, owner⟩
        rintro rfl
        exact remains registered
    · rintro ⟨object, ⟨different, live⟩, owner⟩
      have registered := (sound.registered caller other).mpr
        ⟨object, live, owner⟩
      rw [registered, if_neg]
      exact fun same => different (Option.some.inj same)
  newest caller other registered another object found owner := by
    rw [sound.leases_revoke] at registered
    split at registered
    · cases registered
    · rw [issued_revoke] at found
      obtain ⟨before, isBefore, rfl⟩ := Option.map_eq_some_iff.mp found
      refine sound.newest caller other registered another before isBefore ?_
      rw [← owner]
      split <;> rfl
  scheduled other := by
    have kept : ∀ caller,
        (authority.revoke lease).leases caller = some other ↔
          other ≠ lease ∧ authority.leases caller = some other := by
      intro caller
      rw [sound.leases_revoke]
      by_cases registered : authority.leases caller = some lease
      · rw [if_pos registered, registered, Option.some.injEq]
        simp only [reduceCtorEq, false_iff, not_and]
        exact fun different same => different same.symm
      · rw [if_neg registered]
        refine ⟨fun found => ⟨?_, found⟩, And.right⟩
        rintro rfl
        exact registered found
    simp only [kept, exists_and_left]
    rw [← sound.scheduled other]
    unfold PreviewBuildLeaseAuthority.revoke
    split
    · rename_i absent
      refine ⟨fun member => ⟨?_, member⟩, And.right⟩
      rintro rfl
      obtain ⟨caller, registered⟩ := (sound.scheduled _).mp member
      obtain ⟨object, live, _⟩ := (sound.registered _ _).mp registered
      exact absurd (absent.symm.trans live.1) nofun
    · simp [and_comm]

theorem Sound.leases_close
    (caller : Caller) :
    (authority.close caller).leases caller = none := by
  unfold close
  split
  · rename_i lease registered
    rw [sound.leases_revoke, if_pos registered]
  · assumption

theorem Sound.close
    (caller : Caller) :
    (authority.close caller).Sound := by
  unfold PreviewBuildLeaseAuthority.close
  split
  · exact sound.revoke _
  · exact sound

theorem Sound.issue
    {lease : Lease Caller}
    (free : authority.leases lease.callerId = none)
    (fresh : lease.aborted = false) :
    (authority.issue lease).Sound := by
  have live : ∀ other object,
      (authority.issue lease).IsLive other object ↔
        authority.IsLive other object ∨
          other = authority.issued.length ∧ object = lease := by
    intro other object
    unfold IsLive PreviewBuildLeaseAuthority.issue
    rcases Nat.lt_trichotomy other authority.issued.length with
      before | rfl | beyond
    · simp [List.getElem?_append_left before, Nat.ne_of_lt before]
    · constructor
      · rintro ⟨found, _⟩
        rw [List.getElem?_concat_length] at found
        exact .inr ⟨rfl, (Option.some.inj found).symm⟩
      · rintro (⟨found, _⟩ | ⟨_, rfl⟩)
        · simp at found
        · exact ⟨List.getElem?_concat_length, fresh⟩
    · have none : (authority.issued ++ [lease])[other]? = none :=
        List.getElem?_eq_none (by simpa using Nat.succ_le_of_lt beyond)
      simp [List.getElem?_eq_none (Nat.le_of_lt beyond), none,
        Nat.ne_of_gt beyond]
  refine ⟨?_, ?_, ?_⟩
  · intro caller other
    simp only [live]
    by_cases own : caller = lease.callerId
    · subst own
      simp only [PreviewBuildLeaseAuthority.issue, Function.update_self,
        Option.some.injEq]
      constructor
      · rintro rfl
        exact ⟨lease, .inr ⟨rfl, rfl⟩, rfl⟩
      · rintro ⟨object, isLive | ⟨isNew, _⟩, owner⟩
        · have registered := (sound.registered _ _).mpr ⟨object, isLive, owner⟩
          rw [free] at registered
          cases registered
        · exact isNew.symm
    · simp only [PreviewBuildLeaseAuthority.issue,
        Function.update_of_ne own]
      rw [sound.registered]
      constructor
      · rintro ⟨object, isLive, owner⟩
        exact ⟨object, .inl isLive, owner⟩
      · rintro ⟨object, isLive | ⟨_, rfl⟩, owner⟩
        · exact ⟨object, isLive, owner⟩
        · exact absurd owner.symm own
  · intro caller other registered another object found owner
    have inside : another < authority.issued.length + 1 := by
      simpa [PreviewBuildLeaseAuthority.issue] using
        (List.getElem?_eq_some_iff.mp found).1
    by_cases own : caller = lease.callerId
    · subst own
      simp only [PreviewBuildLeaseAuthority.issue, Function.update_self,
        Option.some.injEq] at registered
      omega
    · simp only [PreviewBuildLeaseAuthority.issue,
        Function.update_of_ne own] at registered found
      rcases Nat.lt_succ_iff_lt_or_eq.mp inside with before | rfl
      · rw [List.getElem?_append_left before] at found
        exact sound.newest caller other registered another object found owner
      · rw [List.getElem?_concat_length] at found
        cases found
        exact absurd owner.symm own
  · intro other
    simp only [PreviewBuildLeaseAuthority.issue, List.mem_append,
      List.mem_singleton, sound.scheduled]
    constructor
    · rintro (⟨caller, registered⟩ | rfl)
      · refine ⟨caller, ?_⟩
        rw [Function.update_of_ne, registered]
        rintro rfl
        cases free.symm.trans registered
      · exact ⟨lease.callerId, Function.update_self _ _ _⟩
    · rintro ⟨caller, registered⟩
      by_cases own : caller = lease.callerId
      · subst own
        rw [Function.update_self] at registered
        exact .inr (Option.some.inj registered).symm
      · rw [Function.update_of_ne own] at registered
        exact .inl ⟨caller, registered⟩

end

/-- The authority after a lease was claimed. -/
def consume (authority : PreviewBuildLeaseAuthority Caller) (lease : Nat)
    (object : Lease Caller) : PreviewBuildLeaseAuthority Caller where
  issued := authority.issued.set lease { object with consumed := true }
  leases := authority.leases
  timers := authority.timers

omit [DecidableEq Caller] in
theorem issued_consume
    (found : authority.issued[lease]? = some object)
    (other : Nat) :
    (authority.consume lease object).issued[other]? =
      authority.issued[other]?.map fun object =>
        if other = lease then { object with consumed := true }
        else object := by
  have inside := (List.getElem?_eq_some_iff.mp found).1
  rw [consume, List.getElem?_set]
  by_cases same : lease = other
  · subst same
    rw [if_pos rfl, if_pos inside, found]
    simp
  · simp [same, Ne.symm same]

omit [DecidableEq Caller] in
theorem Sound.consume
    (sound : authority.Sound)
    (found : authority.issued[lease]? = some object) :
    (authority.consume lease object).Sound := by
  have owned : ∀ caller other,
      (∃ now, (authority.consume lease object).IsLive other now ∧
          now.callerId = caller) ↔
        ∃ before, authority.IsLive other before ∧
          before.callerId = caller := by
    intro caller other
    unfold IsLive
    rw [issued_consume found]
    constructor
    · rintro ⟨now, ⟨isNow, live⟩, owner⟩
      obtain ⟨before, isBefore, rfl⟩ := Option.map_eq_some_iff.mp isNow
      refine ⟨before, ⟨isBefore, ?_⟩, ?_⟩
      · rw [← live]
        split <;> rfl
      · rw [← owner]
        split <;> rfl
    · rintro ⟨before, ⟨isBefore, live⟩, owner⟩
      refine ⟨_, ⟨congrArg (Option.map _) isBefore, ?_⟩, ?_⟩
      · rw [← live]
        split <;> rfl
      · rw [← owner]
        split <;> rfl
  refine ⟨?_, ?_, ?_⟩
  · intro caller other
    rw [owned]
    exact sound.registered caller other
  · intro caller other registered another now isNow owner
    rw [issued_consume found] at isNow
    obtain ⟨before, isBefore, rfl⟩ := Option.map_eq_some_iff.mp isNow
    refine sound.newest caller other registered another before isBefore ?_
    rw [← owner]
    split <;> rfl
  · exact sound.scheduled

/-! ## What calls do to leases -/

/-- An object after some calls: a flag that is set stays set. -/
structure Grows (before after : Lease Caller) : Prop where
  id : after.id = before.id
  callerId : after.callerId = before.callerId
  ticket : after.ticket = before.ticket
  expiresAt : after.expiresAt = before.expiresAt
  aborted : before.aborted = true → after.aborted = true
  consumed : before.consumed = true → after.consumed = true

omit [DecidableEq Caller] in
theorem Grows.trans
    {first second third : Lease Caller}
    (before : Grows first second)
    (after : Grows second third) :
    Grows first third where
  id := after.id.trans before.id
  callerId := after.callerId.trans before.callerId
  ticket := after.ticket.trans before.ticket
  expiresAt := after.expiresAt.trans before.expiresAt
  aborted set_ := after.aborted (before.aborted set_)
  consumed set_ := after.consumed (before.consumed set_)

/-- All leases of an authority exist in a later one, and have grown. -/
def Later (before after : PreviewBuildLeaseAuthority Caller) : Prop :=
  ∀ (lease : Nat) (object : Lease Caller),
    before.issued[lease]? = some object →
    ∃ grown, after.issued[lease]? = some grown ∧ Grows object grown

omit [DecidableEq Caller] in
theorem Later.refl (authority : PreviewBuildLeaseAuthority Caller) :
    Later authority authority :=
  fun _ object found =>
    ⟨object, found, rfl, rfl, rfl, rfl, id, id⟩

omit [DecidableEq Caller] in
theorem Later.trans
    {first second third : PreviewBuildLeaseAuthority Caller}
    (before : Later first second)
    (after : Later second third) :
    Later first third := by
  intro lease object found
  obtain ⟨middle, isMiddle, growsFirst⟩ := before lease object found
  obtain ⟨last, isLast, growsThen⟩ := after lease middle isMiddle
  exact ⟨last, isLast, growsFirst.trans growsThen⟩

theorem later_revoke
    (authority : PreviewBuildLeaseAuthority Caller)
    (lease : Nat) :
    Later authority (authority.revoke lease) := by
  intro other object found
  rw [issued_revoke, found]
  refine ⟨_, rfl, ?_⟩
  dsimp only
  split
  · exact ⟨rfl, rfl, rfl, rfl, fun _ => rfl, id⟩
  · exact ⟨rfl, rfl, rfl, rfl, id, id⟩

/-- What a call other than a reservation does to the authority. -/
inductive Change (authority : PreviewBuildLeaseAuthority Caller) :
    PreviewBuildLeaseAuthority Caller → Prop where
  | none : Change authority authority
  | revoked (lease : Nat) : Change authority (authority.revoke lease)
  | claimed (lease : Nat) (object : Lease Caller)
      (found : authority.issued[lease]? = some object) :
      Change authority (authority.consume lease object)

section

variable (change : Change before after)

include change

theorem Change.sound
    (sound : before.Sound) :
    after.Sound := by
  cases change with
  | none => exact sound
  | revoked lease => exact sound.revoke lease
  | claimed lease object found => exact sound.consume found

theorem Change.length :
    after.issued.length = before.issued.length := by
  cases change with
  | none => rfl
  | revoked lease => exact length_issued_revoke before lease
  | claimed lease object _ => exact List.length_set

theorem Change.later :
    Later before after := by
  cases change with
  | none => exact .refl before
  | revoked lease => exact later_revoke before lease
  | claimed lease claimedObject isClaimed =>
      intro other object found
      rw [issued_consume isClaimed, found]
      refine ⟨_, rfl, ?_⟩
      dsimp only
      split
      · exact ⟨rfl, rfl, rfl, rfl, id, fun _ => rfl⟩
      · exact ⟨rfl, rfl, rfl, rfl, id, id⟩

end

theorem close_change
    (authority : PreviewBuildLeaseAuthority Caller)
    (caller : Caller) :
    Change authority (authority.close caller) := by
  unfold close
  split
  · exact .revoked _
  · exact .none

theorem issued_issue
    {lease object : Lease Caller}
    {other : Nat}
    (found : (authority.issue lease).issued[other]? = some object) :
    authority.issued[other]? = some object ∨
      other = authority.issued.length ∧ object = lease := by
  rw [issue] at found
  by_cases before : other < authority.issued.length
  · rw [List.getElem?_append_left before] at found
    exact .inl found
  · have inside := (List.getElem?_eq_some_iff.mp found).1
    rw [List.length_append, List.length_singleton] at inside
    obtain rfl : other = authority.issued.length := by omega
    rw [List.getElem?_concat_length] at found
    exact .inr ⟨rfl, (Option.some.inj found).symm⟩

theorem later_issue
    (authority : PreviewBuildLeaseAuthority Caller)
    (lease : Lease Caller) :
    Later authority (authority.issue lease) := by
  intro other object found
  refine ⟨object, ?_, rfl, rfl, rfl, rfl, id, id⟩
  rw [issue, List.getElem?_append_left (List.getElem?_eq_some_iff.mp found).1]
  exact found

omit [DecidableEq Caller] in
theorem named_eq_some
    {caller : Caller}
    {value : JsValue}
    {object : Lease Caller} :
    authority.named caller value = some (lease, object) ↔
      authority.leases caller = some lease ∧
        authority.issued[lease]? = some object ∧
        value = .string object.id := by
  have isId : ∀ id : JsString,
      value.strictEquals (.string id) = true ↔ value = .string id := by
    intro id
    cases value <;> simp [JsValue.strictEquals]
  unfold named
  simp only [Option.bind_eq_bind, Option.bind_eq_some_iff,
    Option.ite_none_right_eq_some, isId, Option.some.injEq, Prod.mk.injEq]
  constructor
  · rintro ⟨_, registered, _, found, named, rfl, rfl⟩
    exact ⟨registered, found, named⟩
  · rintro ⟨registered, found, named⟩
    exact ⟨lease, registered, object, found, named, rfl, rfl⟩

/-- Everything that a claim checks, and what it does then. -/
theorem claim_spec
    {caller : Caller}
    {value ticket : JsValue}
    (claimed : (authority.claim numbers caller value ticket now).2 =
      .claimed lease) :
    ∃ object, authority.named caller value = some (lease, object) ∧
      object.consumed = false ∧
      ticketText numbers ticket = .ok object.ticket ∧
      authority.passes lease object now = true ∧
      (authority.claim numbers caller value ticket now).1 =
        authority.consume lease object := by
  unfold claim at claimed ⊢
  split at claimed
  · cases claimed
  · rename_i registered object named
    simp only [named]
    split at claimed
    · cases claimed
    · rename_i unclaimed
      rw [if_neg unclaimed]
      split at claimed
      · cases claimed
      · rename_i text isText
        simp only [isText]
        split at claimed
        · cases claimed
        · rename_i same
          rw [if_neg same]
          split at claimed
          · rename_i passes
            cases claimed
            rw [if_pos passes]
            exact ⟨object, rfl, by simpa using unclaimed,
              congrArg Except.ok (not_not.mp same).symm, passes, rfl⟩
          · cases claimed

section

variable (numbers : NumberFormat)
  (authority : PreviewBuildLeaseAuthority Caller)

theorem claim_change
    (caller : Caller)
    (value ticket : JsValue)
    (now : JsNumber) :
    Change authority (authority.claim numbers caller value ticket now).1 := by
  unfold claim
  split
  · exact .none
  · rename_i lease object named
    split
    · exact .none
    · split
      · exact .none
      · split
        · exact .none
        · split
          · exact .claimed lease object (named_eq_some.mp named).2.1
          · exact .revoked lease

/-- The object that a reservation makes. -/
def reservedLease (caller : Caller) (id text : JsString) (now : JsNumber) :
    Lease Caller where
  id
  callerId := caller
  ticket := text
  expiresAt := now.add timeoutMs
  aborted := false
  consumed := false

/-- A call issues a lease after closing its caller, or issues none. -/
theorem step_cases
    (call : Call Caller) :
    (∃ caller value id now text,
        call = .reserve caller value id now ∧
        ticketText numbers value = .ok text ∧
        authority.step numbers call =
          ((authority.close caller).issue (reservedLease caller id text now),
            .reserved (authority.close caller).issued.length)) ∨
      Change authority (authority.step numbers call).1 := by
  cases call with
  | reserve caller value id now =>
      rw [step, reserve]
      cases isText : ticketText numbers value with
      | error error => exact .inr .none
      | ok text => exact .inl ⟨caller, value, id, now, text, rfl, isText, rfl⟩
  | claim caller value ticket now =>
      exact .inr (claim_change numbers authority caller value ticket now)
  | cancel caller value =>
      rw [step, cancel]
      split
      · exact .inr .none
      · exact .inr (.revoked _)
  | close caller => exact .inr (close_change authority caller)
  | assertActive lease now =>
      rw [step]
      split
      · rw [assertActive]
        split
        · exact .inr .none
        · exact .inr (.revoked _)
      · exact .inr .none
  | release lease =>
      rw [step]
      split
      · exact .inr (.revoked _)
      · exact .inr .none
  | timer lease => exact .inr (.revoked lease)

end

theorem Sound.step
    (sound : authority.Sound)
    (call : Call Caller) :
    (authority.step numbers call).1.Sound := by
  rcases step_cases numbers authority call with
    ⟨caller, value, id, now, text, _, _, isStep⟩ | change
  · rw [isStep]
    exact (sound.close caller).issue (sound.leases_close caller) rfl
  · exact change.sound sound

theorem later_step
    (numbers : NumberFormat)
    (authority : PreviewBuildLeaseAuthority Caller)
    (call : Call Caller) :
    Later authority (authority.step numbers call).1 := by
  rcases step_cases numbers authority call with
    ⟨caller, value, id, now, text, _, _, isStep⟩ | change
  · rw [isStep]
    exact (close_change authority caller).later.trans (later_issue _ _)
  · exact change.later

/-! ## Runs -/

/-- A call of a run, with the states around it. -/
abbrev Entry (Caller : Type) :=
  Taken (PreviewBuildLeaseAuthority Caller) (Call Caller) Outcome

/-- The log entry that issued a lease. -/
def IsReservation (numbers : NumberFormat)
    (entry : Entry Caller)
    (lease : Nat) (object : Lease Caller) : Prop :=
  ∃ value now,
    entry.call = .reserve object.callerId value object.id now ∧
      entry.answer = .reserved lease ∧
      ticketText numbers value = .ok object.ticket ∧
      object.expiresAt = now.add timeoutMs

omit [DecidableEq Caller] in
theorem IsReservation.grows
    {entry : Entry Caller}
    {before after : Lease Caller}
    (reserved : IsReservation numbers entry lease before)
    (grows : Grows before after) :
    IsReservation numbers entry lease after := by
  unfold IsReservation at reserved ⊢
  rw [grows.id, grows.callerId, grows.ticket, grows.expiresAt]
  exact reserved

/-- The authority is sound, and the log explains every lease of it. -/
structure Explained (numbers : NumberFormat)
    (log : List (Entry Caller))
    (authority : PreviewBuildLeaseAuthority Caller) : Prop where
  sound : authority.Sound
  reserved : ∀ lease object, authority.issued[lease]? = some object →
    ∃ entry ∈ log, IsReservation numbers entry lease object

theorem Change.issued
    (change : Change before after)
    (found : after.issued[lease]? = some object) :
    ∃ old, before.issued[lease]? = some old ∧ Grows old object := by
  have inside := (List.getElem?_eq_some_iff.mp found).1
  rw [change.length] at inside
  have isOld := List.getElem?_eq_getElem inside
  obtain ⟨grown, isGrown, grows⟩ := change.later lease _ isOld
  cases Option.some.inj (isGrown.symm.trans found)
  exact ⟨_, isOld, grows⟩

/-- Every call keeps the authority explained by the log. -/
theorem Explained.step
    {log : List (Entry Caller)}
    (explained : Explained numbers log authority)
    (call : Call Caller) :
    Explained numbers (log ++ [take (step numbers) authority call])
      (authority.step numbers call).1 := by
  refine ⟨explained.sound.step call, fun lease object found => ?_⟩
  have old : ∀ before, authority.issued[lease]? = some before →
      Grows before object →
      ∃ entry ∈ log ++ [take (PreviewBuildLeaseAuthority.step numbers)
          authority call],
        IsReservation numbers entry lease object := by
    intro before isBefore grows
    obtain ⟨entry, member, reserved⟩ := explained.reserved lease before isBefore
    exact ⟨entry, List.mem_append_left _ member, reserved.grows grows⟩
  rcases step_cases numbers authority call with
    ⟨caller, value, id, now, text, isCall, isText, isStep⟩ | change
  · rw [isStep] at found
    rcases issued_issue found with before | ⟨isNew, isObject⟩
    · obtain ⟨first, isFirst, grows⟩ :=
        (close_change authority caller).issued before
      exact old first isFirst grows
    · refine ⟨_, List.mem_append_right _ (List.mem_singleton_self _), ?_⟩
      subst isObject isNew
      exact ⟨value, now, isCall, congrArg Prod.snd isStep, isText, rfl⟩
  · obtain ⟨before, isBefore, grows⟩ := change.issued found
    exact old before isBefore grows

theorem explained_before
    {index : Nat}
    {entry : Entry Caller}
    (found : (taken (step numbers) initial calls)[index]? = some entry) :
    Explained numbers ((taken (step numbers) initial calls).take index)
        entry.before ∧
      entry = take (step numbers) entry.before entry.call := by
  have start : Explained numbers []
      (initial : PreviewBuildLeaseAuthority Caller) :=
    ⟨sound_initial, fun lease object none_ => by
      simp [initial] at none_⟩
  have tracked := tracks_before (Explained numbers)
    (fun log state call explained => explained.step call) start found
  simpa using tracked

theorem later_of_lt
    {early late : Nat}
    {first second : Entry Caller}
    (order : early < late)
    (isFirst : (taken (step numbers) initial calls)[early]? = some first)
    (isSecond : (taken (step numbers) initial calls)[late]? = some second) :
    Later first.after second.before :=
  (related_of_lt (fun _ => True) Later Later.refl
    (fun _ _ _ => Later.trans) (fun _ _ _ => trivial)
    (fun state call _ => later_step numbers state call) trivial order isFirst
    isSecond).1

omit [DecidableEq Caller] in
theorem passes_eq_true
    {now : JsNumber} :
    authority.passes lease object now = true ↔
      authority.leases object.callerId = some lease ∧
        object.aborted = false ∧ expired object.expiresAt now = false := by
  simp [passes, and_assoc]

/-- A live lease, registered as its caller's newest, and not expired. -/
structure IsCurrent (authority : PreviewBuildLeaseAuthority Caller)
    (lease : Nat) (object : Lease Caller) (now : JsNumber) : Prop where
  live : authority.IsLive lease object
  registered : authority.leases object.callerId = some lease
  newest : ∀ other otherObject,
    authority.issued[other]? = some otherObject →
      otherObject.callerId = object.callerId → other ≤ lease
  unexpired : expired object.expiresAt now = false

omit [DecidableEq Caller] in
theorem Sound.isCurrent
    (sound : authority.Sound)
    (found : authority.issued[lease]? = some object)
    (passes : authority.passes lease object now = true) :
    authority.IsCurrent lease object now := by
  obtain ⟨registered, live, unexpired⟩ := passes_eq_true.mp passes
  exact ⟨⟨found, live⟩, registered, sound.newest _ lease registered, unexpired⟩

/--
A claim that agrees with the reservation of its lease: the caller and the id
are the reservation's, both values are the same ticket, and the lease is
current.
-/
structure ClaimsReservation (numbers : NumberFormat)
    (earlier : List (Entry Caller)) (entry : Entry Caller)
    (lease : Nat) : Prop where
  reserved : ∃ reservation ∈ earlier,
    ∃ caller id reservedValue reservedAt ticketValue now ticket object,
      reservation.call = .reserve caller reservedValue id reservedAt ∧
        reservation.answer = .reserved lease ∧
        entry.call = .claim caller (.string id) ticketValue now ∧
        validatePreviewBuildTicket reservedValue = .ok ticket ∧
        validatePreviewBuildTicket ticketValue = .ok ticket ∧
        object.callerId = caller ∧
        object.expiresAt = reservedAt.add timeoutMs ∧
        entry.before.IsCurrent lease object now

theorem claim_of_claimed
    {call : Call Caller}
    (claimed : (authority.step numbers call).2 = .claimed lease) :
    ∃ caller value ticket now, call = .claim caller value ticket now := by
  cases call with
  | claim caller value ticket now => exact ⟨caller, value, ticket, now, rfl⟩
  | reserve caller value id now =>
      rw [step, reserve] at claimed
      split at claimed <;> cases claimed
  | cancel caller value =>
      rw [step, cancel] at claimed
      split at claimed <;> cases claimed
  | close caller => cases claimed
  | assertActive lease now =>
      rw [step] at claimed
      split at claimed
      · rw [assertActive] at claimed
        split at claimed <;> cases claimed
      · cases claimed
  | release lease =>
      rw [step] at claimed
      split at claimed <;> cases claimed
  | timer lease => cases claimed

theorem claimsReservation
    {index lease : Nat}
    {entry : Entry Caller}
    (found : (taken (step numbers) initial calls)[index]? = some entry)
    (claimed : entry.answer = .claimed lease) :
    ClaimsReservation numbers
      ((taken (step numbers) initial calls).take index) entry lease := by
  obtain ⟨explained, isEntry⟩ := explained_before found
  have answered := claimed
  rw [isEntry] at answered
  obtain ⟨caller, value, ticketValue, now, isCall⟩ := claim_of_claimed answered
  rw [isCall] at answered
  obtain ⟨object, named, _, isText, passes, _⟩ := claim_spec answered
  obtain ⟨registered, isObject, rfl⟩ := named_eq_some.mp named
  obtain ⟨reservation, member, reservedValue, reservedAt, isReserve, isReserved,
    reservedText, expiry⟩ := explained.reserved lease object isObject
  obtain ⟨ticket, reservedTicket, claimedTicket⟩ :=
    ticketText_inj reservedText isText
  obtain ⟨owner, live, isOwner⟩ :=
    (explained.sound.registered caller lease).mp registered
  cases Option.some.inj (isObject.symm.trans live.1)
  exact ⟨reservation, member, caller, object.id, reservedValue, reservedAt,
    ticketValue, now, ticket, object, by rw [isReserve, isOwner], isReserved,
    isCall, reservedTicket, claimedTicket, isOwner, expiry,
    explained.sound.isCurrent isObject passes⟩

theorem claims_once
    {call : Call Caller}
    (claimed : (authority.step numbers call).2 = .claimed lease) :
    ∃ object, authority.issued[lease]? = some object ∧
      object.consumed = false ∧
      ∃ after, (authority.step numbers call).1.issued[lease]? = some after ∧
        after.consumed = true := by
  obtain ⟨caller, value, ticketValue, now, rfl⟩ := claim_of_claimed claimed
  obtain ⟨object, named, unclaimed, _, _, isStep⟩ := claim_spec claimed
  have isObject := (named_eq_some.mp named).2.1
  refine ⟨object, isObject, unclaimed, { object with consumed := true }, ?_, rfl⟩
  rw [step, isStep, issued_consume isObject, isObject]
  simp

theorem assertActive_throws
    (thrown : (authority.step numbers (.assertActive lease now)).2 =
      .thrown .inactive) :
    ∃ object,
      (authority.step numbers (.assertActive lease now)).1.issued[lease]? =
        some object ∧ object.consumed = true ∧ object.aborted = true := by
  rw [step] at thrown ⊢
  split at thrown
  · rename_i object isHandle
    obtain ⟨found, consumed⟩ := Option.filter_eq_some_iff.mp isHandle
    rw [assertActive] at thrown ⊢
    split at thrown
    · cases thrown
    · rename_i fails
      rw [if_neg fails]
      refine ⟨{ object with aborted := true }, ?_, consumed, rfl⟩
      rw [issued_revoke, found]
      simp
  · cases thrown

theorem assertActive_of_aborted
    (found : authority.issued[lease]? = some object)
    (consumed : object.consumed = true)
    (aborted : object.aborted = true)
    (now : JsNumber) :
    (authority.step numbers (.assertActive lease now)).2 =
      .thrown .inactive := by
  have isHandle : authority.handle lease = some object :=
    Option.filter_eq_some_iff.mpr ⟨found, consumed⟩
  have fails : ¬ authority.passes lease object now = true := by
    rw [passes_eq_true, aborted]
    simp
  simp only [step, isHandle, assertActive, if_neg fails]

theorem assertActive_passes
    (sound : authority.Sound)
    (active : (authority.step numbers (.assertActive lease now)).2 =
      .active) :
    ∃ object, object.consumed = true ∧
      authority.IsCurrent lease object now := by
  rw [step] at active
  split at active
  · rename_i object isHandle
    obtain ⟨found, consumed⟩ := Option.filter_eq_some_iff.mp isHandle
    rw [assertActive] at active
    split at active
    · rename_i passes
      exact ⟨object, consumed, sound.isCurrent found passes⟩
    · cases active
  · cases active

/-- What a release leaves alone: every other lease, and its registration. -/
theorem release_others
    (sound : authority.Sound)
    {lease other : Nat}
    (different : other ≠ lease) :
    (authority.step numbers (.release lease)).1.issued[other]? =
        authority.issued[other]? ∧
      ∀ caller, authority.leases caller = some other →
        (authority.step numbers (.release lease)).1.leases caller =
          some other := by
  rw [step]
  split
  · refine ⟨issued_revoke_of_ne authority different, fun caller registered => ?_⟩
    dsimp only
    rw [sound.leases_revoke, registered, if_neg]
    exact fun same => different (Option.some.inj same)
  · exact ⟨rfl, fun _ registered => registered⟩

theorem claimed_once_of_lt
    {early late lease : Nat}
    {first second : Entry Caller}
    (order : early < late)
    (isFirst : (taken (step numbers) initial calls)[early]? = some first)
    (isSecond : (taken (step numbers) initial calls)[late]? = some second)
    (firstClaims : first.answer = .claimed lease)
    (secondClaims : second.answer = .claimed lease) :
    False := by
  have later := later_of_lt order isFirst isSecond
  rw [(explained_before isFirst).2] at firstClaims later
  rw [(explained_before isSecond).2] at secondClaims
  obtain ⟨_, _, _, object, found, consumed⟩ := claims_once firstClaims
  obtain ⟨before, isBefore, unclaimed, _⟩ := claims_once secondClaims
  obtain ⟨grown, isGrown, grows⟩ := later lease object found
  cases Option.some.inj (isGrown.symm.trans isBefore)
  exact absurd (grows.consumed consumed) (by simp [unclaimed])

/--
Leases are one-shot and never revive, in every run of the authority: a caller
has at most one live lease; a lease is claimed at most once, as it was
reserved; `assertActive` passes only for the current lease of its caller and,
once it has thrown for a lease, throws for it for ever; and a release leaves
every other lease alone.
-/
theorem leases_never_revive
    (numbers : NumberFormat)
    (calls : List (Call Caller)) :
      let log := taken (step numbers) initial calls
    let final := takeAll (step numbers) initial calls
    (∀ (first second : Nat) (firstObject secondObject : Lease Caller),
      final.IsLive first firstObject → final.IsLive second secondObject →
        firstObject.callerId = secondObject.callerId → first = second) ∧
    (∀ (early late : Nat) (first second : Entry Caller) (lease : Nat),
      log[early]? = some first → log[late]? = some second →
        first.answer = .claimed lease → second.answer = .claimed lease →
          early = late) ∧
    (∀ (index : Nat) (entry : Entry Caller) (lease : Nat),
      log[index]? = some entry → entry.answer = .claimed lease →
        ClaimsReservation numbers (log.take index) entry lease) ∧
    (∀ (index : Nat) (entry : Entry Caller) (lease : Nat) (now : JsNumber),
      log[index]? = some entry → entry.call = .assertActive lease now →
        entry.answer = .active →
          ∃ object : Lease Caller, object.consumed = true ∧
            entry.before.IsCurrent lease object now) ∧
    (∀ (early late : Nat) (first second : Entry Caller) (lease : Nat)
        (now later : JsNumber),
      early < late → log[early]? = some first → log[late]? = some second →
        first.call = .assertActive lease now →
          first.answer = .thrown .inactive →
            second.call = .assertActive lease later →
              second.answer = .thrown .inactive) ∧
    ∀ (index : Nat) (entry : Entry Caller) (lease other : Nat),
      log[index]? = some entry → entry.call = .release lease →
        other ≠ lease →
          entry.after.issued[other]? = entry.before.issued[other]? ∧
            ∀ caller, entry.before.leases caller = some other →
              entry.after.leases caller = some other := by
  intro log final
  refine ⟨?_, ?_, ?_, ?_, ?_, ?_⟩
  · intro first second firstObject secondObject firstLive secondLive same
    have sound : final.Sound :=
      takeAll_invariant Sound (fun _ _ => True)
        (fun _ call sound _ => sound.step call) sound_initial
        (fun _ _ => trivial)
    have isFirst := (sound.registered _ _).mpr ⟨firstObject, firstLive, rfl⟩
    have isSecond := (sound.registered _ _).mpr ⟨secondObject, secondLive, rfl⟩
    rw [same] at isFirst
    exact Option.some.inj (isFirst.symm.trans isSecond)
  · intro early late first second lease isFirst isSecond firstClaims secondClaims
    rcases Nat.lt_trichotomy early late with before | same | after
    · exact (claimed_once_of_lt before isFirst isSecond firstClaims
        secondClaims).elim
    · exact same
    · exact (claimed_once_of_lt after isSecond isFirst secondClaims
        firstClaims).elim
  · intro index entry lease found claimed
    exact claimsReservation found claimed
  · intro index entry lease now found isCall active
    obtain ⟨explained, isEntry⟩ := explained_before found
    rw [isEntry, isCall] at active
    exact assertActive_passes explained.sound active
  · intro early late first second lease now later order isFirst isSecond
      firstCall thrown secondCall
    have grown := later_of_lt order isFirst isSecond
    rw [(explained_before isFirst).2, firstCall] at thrown grown
    obtain ⟨object, found, consumed, aborted⟩ := assertActive_throws thrown
    obtain ⟨after, isAfter, grows⟩ := grown lease object found
    rw [(explained_before isSecond).2, secondCall]
    exact assertActive_of_aborted isAfter (grows.consumed consumed)
      (grows.aborted aborted) later
  · intro index entry lease other found isCall different
    obtain ⟨explained, isEntry⟩ := explained_before found
    rw [isCall] at isEntry
    have others := @release_others _ _ numbers _ explained.sound _ _ different
    rw [isEntry]
    exact others

/-- A ticket as the renderer sends it. -/
def sampleTicket : JsValue :=
  .object [
    (js "format", .string PreviewBuildTicket.format),
    (js "projectId", .string (js "shop")),
    (js "sourceRevisionId", .string (js "r1")),
    (js "graphRevision", .number (.ofNat 3)),
    (js "bindingId", .string (List.replicate 64 0x61))]

-- A lease is claimed once, passes until it expires, and never passes again.
example :
    (taken (step exactNumerals) (initial : PreviewBuildLeaseAuthority Nat)
      [.reserve 7 sampleTicket (js "a") (.ofNat 0),
        .claim 7 (.string (js "a")) sampleTicket (.ofNat 1),
        .claim 7 (.string (js "a")) sampleTicket (.ofNat 2),
        .assertActive 0 (.ofNat 9999),
        .assertActive 0 (.ofNat 10000),
        .assertActive 0 (.ofNat 5)]).map Taken.answer =
      [.reserved 0, .claimed 0, .thrown .stale, .active, .thrown .inactive,
        .thrown .inactive] := by
  decide +kernel

end PreviewBuildLeaseAuthority

end Selene.Preview