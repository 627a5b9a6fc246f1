import Selene.RejectingMachine
import Mathlib.Data.List.GetD
import Mathlib.Data.Prod.Lex
import Mathlib.Logic.Function.Basic
import Mathlib.Logic.Relation
import Mathlib.Order.WellFounded

/-!
# Locks made of promise chains

A table of locks under keys.  A call of the lock awaits the chain of the last
call on its key, runs its section, and opens its gate when the section returns
or throws.  The chain of a call settles when the chain it awaited has settled
and its gate is open.  Sections may make calls of their own, and end after
them.

`Queued` is the invariant of every run: sections on one key run one at a time,
in the order of their calls.  Where calls made inside a section are on keys of a
lower level than the section's, nothing waits in a circle.
-/

namespace Js

/-- Where a call of the lock stands. -/
inductive LockStatus where
  | waiting
  | running
  | released (threw : Bool)
  deriving DecidableEq

/-- Whether the gate is open. -/
def LockStatus.isReleased : LockStatus → Bool
  | .released _ => true
  | _ => false

/-- One call: the call whose chain it awaits, and the call it was made in. -/
structure LockCall (κ : Type) where
  key : κ
  previous : Option Nat
  parent : Option Nat
  status : LockStatus
  deriving DecidableEq

/-- All calls so far, in order, and the last pending call of each key. -/
structure SharedLocks (κ : Type) where
  calls : List (LockCall κ)
  tail : κ → Option Nat

namespace SharedLocks

variable {κ : Type}

/-- No calls yet. -/
def empty : SharedLocks κ where
  calls := []
  tail := fun _ => none

/-- Whether the chain of a call has settled, looking back at most `fuel` calls. -/
def settledWithin (locks : SharedLocks κ) : Nat → Nat → Bool
  | 0, _ => false
  | fuel + 1, index =>
      match locks.calls[index]? with
      | none => false
      | some call =>
          call.status.isReleased &&
            call.previous.all (locks.settledWithin fuel)

/-- `previous.then(() => gate)`; calls only await earlier ones. -/
def chainSettled (locks : SharedLocks κ) (index : Nat) : Bool :=
  locks.settledWithin (index + 1) index

/-- Whether a call runs its section. -/
def Runs (locks : SharedLocks κ) (index : Nat) : Prop :=
  ∃ call ∈ locks.calls[index]?, call.status = .running

instance (locks : SharedLocks κ) (index : Nat) :
    Decidable (locks.Runs index) := by
  unfold Runs
  infer_instance

/-- The awaited chain has settled. -/
def CanStart (locks : SharedLocks κ) (index : Nat) : Prop :=
  ∃ call ∈ locks.calls[index]?,
    call.status = .waiting ∧
      call.previous.all locks.chainSettled = true

instance (locks : SharedLocks κ) (index : Nat) :
    Decidable (locks.CanStart index) := by
  unfold CanStart
  infer_instance

/-- The section runs, and the calls made in it are done. -/
def CanFinish (locks : SharedLocks κ) (index : Nat) : Prop :=
  locks.Runs index ∧
    ∀ call ∈ locks.calls,
      call.parent = some index → call.status.isReleased = true

instance (locks : SharedLocks κ) (index : Nat) :
    Decidable (locks.CanFinish index) := by
  unfold CanFinish
  infer_instance

/-- A new status for one call. -/
def setStatus
    (locks : SharedLocks κ)
    (index : Nat)
    (status : LockStatus) :
    SharedLocks κ where
  calls := locks.calls.modify index fun call => { call with status }
  tail := locks.tail

/-- The call queues up behind the last pending call on its key. -/
def request
    [DecidableEq κ]
    (locks : SharedLocks κ)
    (key : κ)
    (parent : Option Nat) :
    SharedLocks κ where
  calls := locks.calls ++ [⟨key, locks.tail key, parent, .waiting⟩]
  tail := Function.update locks.tail key (some locks.calls.length)

/-- The gate opens; the key is forgotten if nobody queued up behind the call. -/
def release
    (locks : SharedLocks κ)
    (index : Nat)
    (threw : Bool) :
    SharedLocks κ where
  calls := (locks.setStatus index (.released threw)).calls
  tail := fun key => if locks.tail key = some index then none
    else locks.tail key

/-! ## The invariant -/

/-- What holds of the calls in every run. -/
structure Queued (locks : SharedLocks κ) : Prop where
  /-- The pending call of a key is the last one on it. -/
  tail_some : ∀ (key : κ) (last : Nat), locks.tail key = some last →
    ∃ call, locks.calls[last]? = some call ∧ call.key = key ∧
      call.status.isReleased = false ∧
      ∀ (other : Nat) (entry : LockCall κ), locks.calls[other]? = some entry →
        entry.key = key → other ≤ last
  /-- A key without pending call has no unfinished calls. -/
  tail_none : ∀ (key : κ), locks.tail key = none →
    ∀ (other : Nat) (entry : LockCall κ), locks.calls[other]? = some entry →
      entry.key = key → entry.status.isReleased = true
  /-- The awaited call is the one before on the same key. -/
  previous_some : ∀ (index before : Nat) (call : LockCall κ),
    locks.calls[index]? = some call → call.previous = some before →
    before < index ∧
      (∃ entry, locks.calls[before]? = some entry ∧ entry.key = call.key) ∧
      ∀ (other : Nat) (entry : LockCall κ), locks.calls[other]? = some entry →
        entry.key = call.key → other < index → other ≤ before
  /-- A call that awaits nobody came when earlier ones were done. -/
  previous_none : ∀ (index : Nat) (call : LockCall κ),
    locks.calls[index]? = some call → call.previous = none →
    ∀ (other : Nat) (entry : LockCall κ), locks.calls[other]? = some entry →
      entry.key = call.key → other < index → entry.status.isReleased = true
  /-- A section starts after all earlier ones on its key. -/
  ordered : ∀ (index : Nat) (call : LockCall κ),
    locks.calls[index]? = some call → call.status ≠ .waiting →
    ∀ (other : Nat) (entry : LockCall κ), locks.calls[other]? = some entry →
      entry.key = call.key → other < index → entry.status.isReleased = true
  /-- Sections outlive the calls made in them. -/
  nested : ∀ (index enclosing : Nat) (call : LockCall κ),
    locks.calls[index]? = some call → call.parent = some enclosing →
    enclosing < index ∧
      ∃ entry, locks.calls[enclosing]? = some entry ∧
        entry.status ≠ .waiting ∧
        (call.status.isReleased = false → entry.status = .running)

variable {locks : SharedLocks κ} {index other : Nat} {status : LockStatus}
   {entry : LockCall κ}

theorem getElem?_setStatus :
    (locks.setStatus index status).calls[other]? = some entry ↔
      ∃ call, locks.calls[other]? = some call ∧
        entry = if index = other then { call with status } else call := by
  rw [setStatus, List.getElem?_modify]
  cases found : locks.calls[other]? with
  | none => simp
  | some call =>
      by_cases same : index = other
      · simp [same, eq_comm]
      · simp [same, eq_comm]

theorem getElem?_request
    [DecidableEq κ]
    {key : κ}
    {parent : Option Nat} :
    (locks.request key parent).calls[other]? = some entry ↔
      locks.calls[other]? = some entry ∨
        other = locks.calls.length ∧
          entry = ⟨key, locks.tail key, parent, .waiting⟩ := by
  rw [request, List.getElem?_append]
  by_cases old : other < locks.calls.length
  · rw [if_pos old]
    exact ⟨.inl, fun found => found.elim id fun new =>
      absurd old (new.1 ▸ Nat.lt_irrefl _)⟩
  · rw [if_neg old, List.getElem?_eq_none_iff.mpr (Nat.le_of_not_lt old),
      List.getElem?_singleton]
    by_cases new : other = locks.calls.length
    · simp [new, eq_comm]
    · have gap : other - locks.calls.length ≠ 0 := by omega
      simp [new, gap]

variable {call : LockCall κ}

theorem lt_of_getElem?
    (found : locks.calls[index]? = some call) :
    index < locks.calls.length :=
  (List.getElem?_eq_some_iff.mp found).1

/-! ### Steps -/

theorem released_of_settledWithin
    {fuel : Nat}
    (settled : locks.settledWithin fuel index = true)
    (found : locks.calls[index]? = some call) :
    call.status.isReleased = true := by
  cases fuel with
  | zero => cases settled
  | succ fuel =>
      rw [settledWithin, found, Bool.and_eq_true] at settled
      exact settled.1

theorem Queued.request
    [DecidableEq κ]
    (queued : locks.Queued)
    {parent : Option Nat}
    (key : κ)
    (inside : ∀ index ∈ parent, locks.Runs index) :
    (locks.request key parent).Queued where
  tail_some := by
    intro name last pending
    by_cases same : name = key
    · subst same
      obtain rfl : locks.calls.length = last := by
        simpa [SharedLocks.request] using pending
      refine ⟨_, getElem?_request.mpr (.inr ⟨rfl, rfl⟩), rfl, rfl, ?_⟩
      intro other entry found _
      rcases getElem?_request.mp found with old | ⟨new, _⟩
      · exact Nat.le_of_lt (lt_of_getElem? old)
      · exact Nat.le_of_eq new
    · have before : locks.tail name = some last := by
        simpa [SharedLocks.request, same] using pending
      obtain ⟨call, found, onKey, unfinished, latest⟩ :=
        queued.tail_some name last before
      refine ⟨call, getElem?_request.mpr (.inl found), onKey, unfinished, ?_⟩
      intro other entry later onName
      rcases getElem?_request.mp later with old | ⟨_, rfl⟩
      · exact latest other entry old onName
      · exact absurd onName.symm same
  tail_none := by
    intro name idle other entry found onName
    have different : name ≠ key := by
      rintro rfl
      simp [SharedLocks.request] at idle
    have before : locks.tail name = none := by
      simpa [SharedLocks.request, different] using idle
    rcases getElem?_request.mp found with old | ⟨_, rfl⟩
    · exact queued.tail_none name before other entry old onName
    · exact absurd onName.symm different
  previous_some := by
    intro index before call found awaited
    rcases getElem?_request.mp found with old | ⟨rfl, rfl⟩
    · obtain ⟨earlier, ⟨entry, there, onKey⟩, latest⟩ :=
        queued.previous_some index before call old awaited
      refine ⟨earlier, ⟨entry, getElem?_request.mpr (.inl there), onKey⟩, ?_⟩
      intro other entry later same less
      rcases getElem?_request.mp later with known | ⟨rfl, _⟩
      · exact latest other entry known same less
      · exact absurd less (Nat.not_lt_of_lt (lt_of_getElem? old))
    · obtain ⟨entry, there, onKey, _, latest⟩ :=
        queued.tail_some key before awaited
      refine ⟨lt_of_getElem? there,
        ⟨entry, getElem?_request.mpr (.inl there), onKey⟩, ?_⟩
      intro other entry later same less
      rcases getElem?_request.mp later with known | ⟨rfl, _⟩
      · exact latest other entry known same
      · exact absurd less (Nat.lt_irrefl _)
  previous_none := by
    intro index call found alone other entry later same less
    rcases getElem?_request.mp later with known | ⟨rfl, _⟩
    · rcases getElem?_request.mp found with old | ⟨_, rfl⟩
      · exact queued.previous_none index call old alone other entry known
          same less
      · exact queued.tail_none key alone other entry known same
    · rcases getElem?_request.mp found with old | ⟨rfl, _⟩
      · exact absurd less (Nat.not_lt_of_lt (lt_of_getElem? old))
      · exact absurd less (Nat.lt_irrefl _)
  ordered := by
    intro index call found started other entry later same less
    rcases getElem?_request.mp found with old | ⟨_, rfl⟩
    · rcases getElem?_request.mp later with known | ⟨rfl, _⟩
      · exact queued.ordered index call old started other entry known same less
      · exact absurd less (Nat.not_lt_of_lt (lt_of_getElem? old))
    · exact absurd rfl started
  nested := by
    intro index enclosing call found made
    rcases getElem?_request.mp found with old | ⟨rfl, rfl⟩
    · obtain ⟨less, entry, there, holds⟩ :=
        queued.nested index enclosing call old made
      exact ⟨less, entry, getElem?_request.mpr (.inl there), holds⟩
    · obtain ⟨entry, there, running⟩ := inside enclosing made
      refine ⟨lt_of_getElem? there, entry, getElem?_request.mpr (.inl there),
        ?_, fun _ => running⟩
      rw [running]
      exact LockStatus.noConfusion

/-- A call that can start is the first unfinished one on its key. -/
theorem Queued.first_of_canStart
    (queued : locks.Queued)
    (can : locks.CanStart index)
    (found : locks.calls[index]? = some call)
    (earlier : locks.calls[other]? = some entry)
    (same : entry.key = call.key)
    (less : other < index) :
    entry.status.isReleased = true := by
  obtain ⟨own, there, _, settled⟩ := can
  obtain rfl : call = own := Option.some.inj (found.symm.trans there)
  cases awaited : call.previous with
  | none =>
      exact queued.previous_none index call found awaited other entry earlier
        same less
  | some before =>
      obtain ⟨_, ⟨last, lastFound, onKey⟩, latest⟩ :=
        queued.previous_some index before call found awaited
      rw [awaited, Option.all_some] at settled
      have done : last.status.isReleased = true :=
        released_of_settledWithin settled lastFound
      rcases Nat.lt_or_eq_of_le (latest other entry earlier same less) with
        sooner | rfl
      · have begun : last.status ≠ .waiting := by
          intro waiting
          rw [waiting] at done
          cases done
        exact queued.ordered before last lastFound begun other entry earlier
          (same.trans onKey.symm) sooner
      · obtain rfl : entry = last :=
          Option.some.inj (earlier.symm.trans lastFound)
        exact done

theorem entry_of_setStatus
    (found : (locks.setStatus index status).calls[other]? = some entry) :
    ∃ call, locks.calls[other]? = some call ∧
      entry.key = call.key ∧
      entry.previous = call.previous ∧
      entry.parent = call.parent ∧
      (index = other ∧ entry.status = status ∨
        index ≠ other ∧ entry.status = call.status) := by
  obtain ⟨call, there, rfl⟩ := getElem?_setStatus.mp found
  by_cases same : index = other
  · exact ⟨call, there, by simp [same]⟩
  · exact ⟨call, there, by simp [same]⟩

theorem exists_setStatus
    (status : LockStatus)
    (found : locks.calls[other]? = some call) :
    ∃ entry, (locks.setStatus index status).calls[other]? = some entry ∧
      entry.key = call.key ∧
      (index = other ∧ entry.status = status ∨
        index ≠ other ∧ entry.status = call.status) := by
  refine ⟨_, getElem?_setStatus.mpr ⟨call, found, rfl⟩, ?_⟩
  by_cases same : index = other
  · simp [same]
  · simp [same]

/-- The part of the invariant that does not mention pending calls. -/
structure Advances
    (locks : SharedLocks κ)
    (index : Nat)
    (call : LockCall κ)
    (status : LockStatus) : Prop where
  found : locks.calls[index]? = some call
  unfinished : call.status.isReleased = false
  begins : status ≠ .waiting
  first : ∀ (other : Nat) (entry : LockCall κ),
    locks.calls[other]? = some entry → entry.key = call.key →
      other < index → entry.status.isReleased = true
  inner : status.isReleased = true → ∀ entry ∈ locks.calls,
    entry.parent = some index → entry.status.isReleased = true
  running : status.isReleased = false → status = .running

theorem Advances.released
    (advances : locks.Advances index call status)
    (found : (locks.setStatus index status).calls[other]? = some entry)
    (before : ∀ old, locks.calls[other]? = some old →
      old.status.isReleased = true) :
    entry.status.isReleased = true := by
  obtain ⟨old, there, _, _, _, ⟨rfl, _⟩ | ⟨_, kept⟩⟩ :=
    entry_of_setStatus found
  · have done := before call advances.found
    rw [advances.unfinished] at done
    cases done
  · rw [kept]
    exact before old there

theorem Queued.previous_some_setStatus
    (queued : locks.Queued)
    (own before : Nat)
    (entry : LockCall κ)
    (found : (locks.setStatus index status).calls[own]? = some entry)
    (awaited : entry.previous = some before) :
    before < own ∧
      (∃ last, (locks.setStatus index status).calls[before]? = some last ∧
        last.key = entry.key) ∧
      ∀ (other : Nat) (later : LockCall κ),
        (locks.setStatus index status).calls[other]? = some later →
        later.key = entry.key → other < own → other ≤ before := by
  obtain ⟨call, there, onKey, waits, _, _⟩ := entry_of_setStatus found
  obtain ⟨less, ⟨last, lastFound, same⟩, latest⟩ :=
    queued.previous_some own before call there (waits ▸ awaited)
  obtain ⟨now, nowFound, nowKey, _⟩ := exists_setStatus status lastFound
  refine ⟨less, ⟨now, nowFound, nowKey.trans (same.trans onKey.symm)⟩, ?_⟩
  intro other later laterFound laterKey sooner
  obtain ⟨old, oldFound, oldKey, _⟩ := entry_of_setStatus laterFound
  exact latest other old oldFound
    (oldKey.symm.trans (laterKey.trans onKey)) sooner

theorem Queued.finished_setStatus
    (advances : locks.Advances index call status)
    {own : Nat}
    {earlier : LockCall κ}
    (found : (locks.setStatus index status).calls[own]? = some entry)
    (earlierFound : (locks.setStatus index status).calls[other]? =
      some earlier)
    (same : earlier.key = entry.key)
    (before : ∀ ownBefore otherBefore, locks.calls[own]? = some ownBefore →
      locks.calls[other]? = some otherBefore →
      otherBefore.key = ownBefore.key → otherBefore.status.isReleased = true) :
    earlier.status.isReleased = true := by
  obtain ⟨call, there, onKey, _, _, _⟩ := entry_of_setStatus found
  obtain ⟨old, oldThere, oldKey, _, _, _⟩ := entry_of_setStatus earlierFound
  refine advances.released earlierFound fun old oldFound => ?_
  obtain rfl := Option.some.inj (oldThere.symm.trans oldFound)
  exact before call _ there oldThere
    (oldKey.symm.trans (same.trans onKey))

section

variable (queued : locks.Queued)

include queued

theorem Queued.advance
    (advances : locks.Advances index call status)
    (tail : κ → Option Nat)
    (tail_some : ∀ (key : κ) (last : Nat), tail key = some last →
      locks.tail key = some last ∧
        (status.isReleased = true → index ≠ last))
    (tail_none : ∀ (key : κ), tail key = none →
      locks.tail key = none ∨
        status.isReleased = true ∧ locks.tail key = some index) :
    Queued { locks.setStatus index status with tail } where
  tail_some := by
    intro key last pending
    obtain ⟨before, other⟩ := tail_some key last pending
    obtain ⟨entry, found, onKey, unfinished, latest⟩ :=
      queued.tail_some key last before
    obtain ⟨now, nowFound, nowKey, nowStatus⟩ :=
      exists_setStatus status found
    refine ⟨now, nowFound, nowKey.trans onKey, ?_, ?_⟩
    · rcases nowStatus with ⟨same, becomes⟩ | ⟨_, kept⟩
      · rw [becomes]
        exact Bool.eq_false_iff.mpr fun done => other done same
      · rw [kept]
        exact unfinished
    · intro later laterEntry laterFound laterKey
      obtain ⟨old, oldFound, oldKey, _⟩ := entry_of_setStatus laterFound
      exact latest later old oldFound (oldKey.symm.trans laterKey)
  tail_none := by
    intro key idle other entry found onKey
    obtain ⟨old, oldFound, oldKey, _, _, oldStatus⟩ := entry_of_setStatus found
    rcases tail_none key idle with before | ⟨done, pending⟩
    · refine advances.released found fun old' oldFound' => ?_
      obtain rfl := Option.some.inj (oldFound.symm.trans oldFound')
      exact queued.tail_none key before other _ oldFound
        (oldKey.symm.trans onKey)
    · rcases oldStatus with ⟨rfl, becomes⟩ | ⟨different, kept⟩
      · rw [becomes]
        exact done
      · obtain ⟨last, lastFound, lastKey, _, latest⟩ :=
          queued.tail_some key index pending
        obtain rfl := Option.some.inj (lastFound.symm.trans advances.found)
        rw [kept]
        have less : other < index := Nat.lt_of_le_of_ne
          (latest other old oldFound (oldKey.symm.trans onKey))
          (Ne.symm different)
        exact advances.first other old oldFound
          (oldKey.symm.trans (onKey.trans lastKey.symm)) less
  previous_some := queued.previous_some_setStatus
  previous_none := by
    intro own entry found alone other earlier earlierFound same less
    obtain ⟨call, there, _, waits, _, _⟩ := entry_of_setStatus found
    refine Queued.finished_setStatus advances found earlierFound same ?_
    intro ownBefore otherBefore ownFound otherFound onKey
    obtain rfl := Option.some.inj (there.symm.trans ownFound)
    exact queued.previous_none own _ there (waits ▸ alone) other otherBefore
      otherFound onKey less
  ordered := by
    intro own entry found begun other earlier earlierFound same less
    obtain ⟨call', there, _, _, _, ownStatus⟩ := entry_of_setStatus found
    refine Queued.finished_setStatus advances found earlierFound same ?_
    intro ownBefore otherBefore ownFound otherFound onKey
    obtain rfl := Option.some.inj (there.symm.trans ownFound)
    rcases ownStatus with ⟨rfl, _⟩ | ⟨_, kept⟩
    · obtain rfl := Option.some.inj (there.symm.trans advances.found)
      exact advances.first other otherBefore otherFound onKey less
    · exact queued.ordered own _ there (kept ▸ begun) other otherBefore
        otherFound onKey less
  nested := by
    intro own enclosing entry found made
    obtain ⟨call', there, _, _, madeBefore, ownStatus⟩ :=
      entry_of_setStatus found
    obtain ⟨less, outer, outerFound, begun, runs⟩ :=
      queued.nested own enclosing call' there (madeBefore ▸ made)
    obtain ⟨now, nowFound, _, nowStatus⟩ := exists_setStatus status outerFound
    refine ⟨less, now, nowFound, ?_, fun unfinished => ?_⟩
    · rcases nowStatus with ⟨_, becomes⟩ | ⟨_, kept⟩
      · rw [becomes]
        exact advances.begins
      · rw [kept]
        exact begun
    · have before : call'.status.isReleased = false := by
        rcases ownStatus with ⟨rfl, _⟩ | ⟨_, kept⟩
        · obtain rfl := Option.some.inj (there.symm.trans advances.found)
          exact advances.unfinished
        · rw [← kept]
          exact unfinished
      rcases nowStatus with ⟨rfl, becomes⟩ | ⟨_, kept⟩
      · rw [becomes]
        refine advances.running (Bool.eq_false_iff.mpr fun done => ?_)
        have finished := advances.inner done call'
          (List.mem_of_getElem? there) (madeBefore ▸ made)
        rw [before] at finished
        cases finished
      · rw [kept]
        exact runs before

theorem Queued.start
    (can : locks.CanStart index) :
    (locks.setStatus index .running).Queued := by
  obtain ⟨call, found, waiting, _⟩ := id can
  have advances : locks.Advances index call .running := {
    found := found
    unfinished := by rw [waiting]; rfl
    begins := LockStatus.noConfusion
    first := fun other entry earlier same less =>
      queued.first_of_canStart can found earlier same less
    inner := fun done => by cases done
    running := fun _ => rfl }
  refine queued.advance advances locks.tail ?_ ?_
  · exact fun key last pending => ⟨pending, fun done => by cases done⟩
  · exact fun key idle => .inl idle

theorem Queued.release
    (can : locks.CanFinish index)
    (threw : Bool) :
    (locks.release index threw).Queued := by
  obtain ⟨⟨call, found, running⟩, inner⟩ := can
  have advances : locks.Advances index call (.released threw) := {
    found := found
    unfinished := by rw [running]; rfl
    begins := LockStatus.noConfusion
    first := fun other entry earlier same less =>
      queued.ordered index call found (by rw [running]; exact
        LockStatus.noConfusion) other entry earlier same less
    inner := fun _ => inner
    running := fun open' => by cases open' }
  refine queued.advance advances _ ?_ ?_
  · intro key last pending
    by_cases own : locks.tail key = some index
    · simp [own] at pending
    · rw [if_neg own] at pending
      refine ⟨pending, fun _ same => own ?_⟩
      rw [pending, same]
  · intro key idle
    by_cases own : locks.tail key = some index
    · exact .inr ⟨rfl, own⟩
    · rw [if_neg own] at idle
      exact .inl idle

/-! ## Consequences -/

theorem Queued.settledWithin_of_released
    {fuel : Nat}
    (enough : index < fuel)
    (found : locks.calls[index]? = some call)
    (released : call.status.isReleased = true) :
    locks.settledWithin fuel index = true := by
  induction fuel generalizing index call with
  | zero => exact absurd enough (Nat.not_lt_zero _)
  | succ fuel inductionHypothesis =>
      rw [settledWithin, found]
      refine Bool.and_eq_true_iff.mpr ⟨released, ?_⟩
      cases awaited : call.previous with
      | none => rfl
      | some before =>
          obtain ⟨less, ⟨entry, there, onKey⟩, _⟩ :=
            queued.previous_some index before call found awaited
          have begun : call.status ≠ .waiting := by
            intro waiting
            rw [waiting] at released
            cases released
          exact inductionHypothesis (by omega) there
            (queued.ordered index call found begun before entry there onKey less)

theorem Queued.canStart
    (found : locks.calls[index]? = some call)
    (waiting : call.status = .waiting)
    (first : ∀ (other : Nat) (entry : LockCall κ),
      locks.calls[other]? = some entry → entry.key = call.key →
        other < index → entry.status.isReleased = true) :
    locks.CanStart index := by
  refine ⟨call, found, waiting, ?_⟩
  cases awaited : call.previous with
  | none => rfl
  | some before =>
      obtain ⟨less, ⟨entry, there, onKey⟩, _⟩ :=
        queued.previous_some index before call found awaited
      exact queued.settledWithin_of_released (Nat.lt_succ_self _) there
        (first before entry there onKey less)

theorem Queued.exclusive
    {first second : Nat}
    {other : LockCall κ}
    (found : locks.calls[first]? = some call)
    (otherFound : locks.calls[second]? = some other)
    (running : call.status = .running)
    (otherRunning : other.status = .running)
    (same : call.key = other.key) :
    first = second := by
  rcases Nat.lt_trichotomy first second with less | equal | greater
  · have done := queued.ordered second other otherFound
      (otherRunning ▸ LockStatus.noConfusion) first call found same less
    rw [running] at done
    cases done
  · exact equal
  · have done := queued.ordered first call found
      (running ▸ LockStatus.noConfusion) second other otherFound same.symm
      greater
    rw [otherRunning] at done
    cases done

end

/-- A waiting call waits for a chain, a running section for its own calls. -/
inductive WaitsFor (locks : SharedLocks κ) : Nat → Nat → Prop where
  | chain {index before : Nat} {call entry : LockCall κ} :
      locks.calls[index]? = some call →
      call.status = .waiting →
      call.previous = some before →
      locks.calls[before]? = some entry →
      entry.status.isReleased = false →
      WaitsFor locks index before
  | inner {index inside : Nat} {call : LockCall κ} :
      locks.Runs index →
      locks.calls[inside]? = some call →
      call.parent = some index →
      call.status.isReleased = false →
      WaitsFor locks index inside

theorem WaitsFor.unfinished
    {before : Nat}
    (waits : locks.WaitsFor index before) :
    ∃ entry, locks.calls[before]? = some entry ∧
      entry.status.isReleased = false := by
  cases waits with
  | chain _ _ _ found pending => exact ⟨_, found, pending⟩
  | inner _ found _ pending => exact ⟨_, found, pending⟩

/-- The second call was made in the section of the first. -/
def Encloses (locks : SharedLocks κ) (outer inner : Nat) : Prop :=
  ∃ call ∈ locks.calls[inner]?, call.parent = some outer

/-- The keys of the calls, in order. -/
def keys (locks : SharedLocks κ) : List κ :=
  locks.calls.map LockCall.key

/-- The calls that the calls were made in. -/
def parents (locks : SharedLocks κ) : List (Option Nat) :=
  locks.calls.map LockCall.parent

/-- Calls made in a section are on keys of a lower level. -/
def NestsBelow (level : κ → Nat) (locks : SharedLocks κ) : Prop :=
  ∀ (outer inner : Nat) (key around : κ),
    locks.parents[inner]? = some (some outer) →
      locks.keys[inner]? = some key → locks.keys[outer]? = some around →
        level key < level around

variable {level : κ → Nat} {outer inner : Nat}

theorem NestsBelow.lt
    (nests : locks.NestsBelow level)
    (found : locks.calls[inner]? = some call)
    (made : call.parent = some outer)
    (outerFound : locks.calls[outer]? = some entry) :
    level call.key < level entry.key :=
  nests outer inner call.key entry.key
    (by rw [parents, List.getElem?_map, found, Option.map_some, made])
    (by rw [keys, List.getElem?_map, found, Option.map_some])
    (by rw [keys, List.getElem?_map, outerFound, Option.map_some])

@[simp] theorem length_keys (locks : SharedLocks κ) :
    locks.keys.length = locks.calls.length :=
  List.length_map _

@[simp] theorem length_parents (locks : SharedLocks κ) :
    locks.parents.length = locks.calls.length :=
  List.length_map _

theorem Queued.parent_lt
    (queued : locks.Queued)
    (made : locks.parents[inner]? = some (some outer)) :
    outer < inner := by
  rw [parents, List.getElem?_map, Option.map_eq_some_iff] at made
  obtain ⟨call, found, parent⟩ := made
  exact (queued.nested inner outer call found parent).1

section

variable (locks : SharedLocks κ) (index : Nat)

@[simp] theorem keys_setStatus
    (status : LockStatus) :
    (locks.setStatus index status).keys = locks.keys := by
  refine List.ext_getElem? fun other => ?_
  rw [keys, keys, setStatus, List.getElem?_map, List.getElem?_map,
    List.getElem?_modify]
  cases locks.calls[other]? with
  | none => rfl
  | some call => by_cases same : index = other <;> simp [same]

@[simp] theorem parents_setStatus
    (status : LockStatus) :
    (locks.setStatus index status).parents = locks.parents := by
  refine List.ext_getElem? fun other => ?_
  rw [parents, parents, setStatus, List.getElem?_map, List.getElem?_map,
    List.getElem?_modify]
  cases locks.calls[other]? with
  | none => rfl
  | some call => by_cases same : index = other <;> simp [same]

@[simp] theorem keys_release
    (threw : Bool) :
    (locks.release index threw).keys = locks.keys :=
  keys_setStatus locks index _

@[simp] theorem parents_release
    (threw : Bool) :
    (locks.release index threw).parents = locks.parents :=
  parents_setStatus locks index _

end

@[simp] theorem keys_request
    [DecidableEq κ]
    (locks : SharedLocks κ)
    (key : κ)
    (parent : Option Nat) :
    (locks.request key parent).keys = locks.keys ++ [key] := by
  simp [keys, request]

@[simp] theorem parents_request
    [DecidableEq κ]
    (locks : SharedLocks κ)
    (key : κ)
    (parent : Option Nat) :
    (locks.request key parent).parents = locks.parents ++ [parent] := by
  simp [parents, request]

/-- The level of the key of a call. -/
def levelOf (level : κ → Nat) (locks : SharedLocks κ) (index : Nat) : Nat :=
  (locks.calls[index]?.map fun call => level call.key).getD 0

theorem levelOf_of_getElem?
    (found : locks.calls[index]? = some call) :
    locks.levelOf level index = level call.key := by
  rw [levelOf, found]
  rfl

/-- Calls by level, and by order within a level. -/
def rank (level : κ → Nat) (locks : SharedLocks κ) (index : Nat) : ℕ ×ₗ ℕ :=
  toLex (locks.levelOf level index, index)

section

variable (queued : locks.Queued) (nests : locks.NestsBelow level)

include queued nests

theorem Queued.rank_lt
    {before : Nat}
    (waits : locks.WaitsFor index before) :
    locks.rank level before < locks.rank level index := by
  rw [rank, rank, Prod.Lex.toLex_lt_toLex]
  cases waits with
  | chain found waiting awaited entryFound pending =>
      obtain ⟨less, ⟨entry, there, onKey⟩, _⟩ :=
        queued.previous_some _ _ _ found awaited
      refine .inr ⟨?_, less⟩
      rw [levelOf_of_getElem? found, levelOf_of_getElem? there, onKey]
  | inner runs found made pending =>
      obtain ⟨outer, outerFound, _⟩ := runs
      refine .inl ?_
      rw [levelOf_of_getElem? found, levelOf_of_getElem? outerFound]
      exact nests.lt found made outerFound

theorem Queued.acyclic
    (index : Nat) :
    ¬Relation.TransGen locks.WaitsFor index index := by
  have lower : ∀ first second,
      Relation.TransGen locks.WaitsFor first second →
        locks.rank level second < locks.rank level first := by
    intro first second path
    induction path with
    | single waits => exact queued.rank_lt nests waits
    | tail _ waits sofar => exact (queued.rank_lt nests waits).trans sofar
  exact fun circle => lt_irrefl _ (lower index index circle)

/-- A call made inside a section, at any depth, is on another key. -/
theorem Queued.key_ne_of_encloses
    (encloses : Relation.TransGen locks.Encloses outer inner)
    (found : locks.calls[inner]? = some call)
    (outerFound : locks.calls[outer]? = some entry) :
    call.key ≠ entry.key := by
  have lower : ∀ first second,
      Relation.TransGen locks.Encloses first second →
        locks.levelOf level second < locks.levelOf level first := by
    have one : ∀ first second, locks.Encloses first second →
        locks.levelOf level second < locks.levelOf level first := by
      rintro first second ⟨made, madeFound, parent⟩
      obtain ⟨_, around, aroundFound, _⟩ :=
        queued.nested second first made madeFound parent
      rw [levelOf_of_getElem? madeFound, levelOf_of_getElem? aroundFound]
      exact nests.lt madeFound parent aroundFound
    intro first second path
    induction path with
    | single made => exact one _ _ made
    | tail _ made sofar => exact (one _ _ made).trans sofar
  intro same
  have less := lower outer inner encloses
  rw [levelOf_of_getElem? found, levelOf_of_getElem? outerFound, same] at less
  exact Nat.lt_irrefl _ less

end

end SharedLocks

end Js
