import Selene.JsText
import Selene.JsValue
import Mathlib.Data.List.Sort

/-!
# Pruning the quarantine directory

`pruneQuarantine` reads the directory once and keeps the newest names it has
seen in a sorted buffer of bounded size.  A name that falls out of the buffer is
older than every name in it, and each of those is followed by as many newer ones
when the listing ends; so the names that are left are the last ones of the
sorted listing, in whatever order it was read (`pruneListing_keeps`).

The buffer is a matter of any total order; the directory adds the files that
belong to an entry and the calls that remove them.
-/

namespace BoundedBuffer

variable {α : Type} {before : α → α → Prop} [DecidableRel before]

/-- Add an item to a sorted buffer; what falls out, and the buffer left. -/
def push (before : α → α → Prop) [DecidableRel before] (maximum : Nat)
    (retained : List α) (item : α) : Option α × List α :=
  let sorted := (retained ++ [item]).insertionSort before
  if maximum < sorted.length then (sorted.head?, sorted.tail)
  else (none, sorted)

/-- The newest items among those seen, and the older ones that fell out. -/
structure Newest (before : α → α → Prop) (maximum : Nat)
    (seen evicted retained : List α) : Prop where
  perm : (evicted ++ retained).Perm seen
  sorted : retained.Pairwise before
  older : ∀ old ∈ evicted, ∀ kept ∈ retained, before old kept
  bounded : retained.length ≤ maximum
  full : evicted ≠ [] → retained.length = maximum

omit [DecidableRel before] in
theorem Newest.start (maximum : Nat) :
    Newest before maximum [] [] [] :=
  ⟨.rfl, .nil, nofun, Nat.zero_le _, (absurd rfl ·)⟩

variable {maximum : Nat} {seen evicted retained : List α}

variable [Std.Total before] [IsTrans α before]

/-- An item that is read keeps the newest ones. -/
theorem Newest.push
    (newest : Newest before maximum seen evicted retained)
    (item : α) :
    Newest before maximum (seen ++ [item])
      (evicted ++ (push before maximum retained item).1.toList)
      (push before maximum retained item).2 := by
  have reordered := List.perm_insertionSort before (retained ++ [item])
  have ordered := List.pairwise_insertionSort before (retained ++ [item])
  have size := reordered.length_eq
  rw [List.length_append, List.length_singleton] at size
  unfold BoundedBuffer.push
  generalize (retained ++ [item]).insertionSort before = sorted at *
  have room := newest.bounded
  simp only
  split
  · rename_i overflow
    cases sorted with
    | nil => simp at size
    | cons oldest kept =>
        obtain ⟨least, keptSorted⟩ := List.pairwise_cons.mp ordered
        rw [List.length_cons] at size overflow
        refine ⟨?_, keptSorted, ?_, by simpa using by omega, fun _ => ?_⟩
        · refine List.Perm.trans ?_ (newest.perm.append_right [item])
          simpa using reordered.append_left evicted
        · -- What fell out before is older than the item: something it is older
          -- than falls out now, and that is older than the item.
          intro old member kept' isKept
          rcases List.mem_append.mp member with earlier | now
          · have inside := reordered.mem_iff.mp (List.mem_cons_of_mem _ isKept)
            rcases List.mem_append.mp inside with stays | isItem
            · exact newest.older old earlier kept' stays
            · obtain rfl := List.mem_singleton.mp isItem
              have first := reordered.mem_iff.mp List.mem_cons_self
              rcases List.mem_append.mp first with held | itself
              · exact IsTrans.trans _ _ _ (newest.older old earlier oldest held)
                  (least kept' isKept)
              · obtain rfl := List.mem_singleton.mp itself
                have same : kept.Perm retained :=
                  (reordered.trans List.perm_append_comm).cons_inv
                exact newest.older old earlier _ (same.mem_iff.mp isKept)
          · obtain rfl : old = oldest := by simpa using now
            exact least kept' isKept
        · show kept.length = maximum
          omega
  · rename_i fits
    refine ⟨?_, ordered, ?_, by simpa using fits, fun some => ?_⟩
    · refine List.Perm.trans ?_ (newest.perm.append_right [item])
      simpa using reordered.append_left evicted
    · have none : evicted = [] := by
        by_contra some
        have whole := newest.full some
        omega
      simp [none]
    · have whole := newest.full (by simpa using some)
      omega

/-- Read items one after the other; what falls out, and the buffer left. -/
def pushAll (before : α → α → Prop) [DecidableRel before] (maximum : Nat)
    (retained : List α) : List α → List α × List α
  | [] => ([], retained)
  | item :: rest =>
      let pushed := BoundedBuffer.push before maximum retained item
      let final := pushAll before maximum pushed.2 rest
      (pushed.1.toList ++ final.1, final.2)

theorem Newest.pushAll
    (newest : Newest before maximum seen evicted retained)
    (items : List α) :
    Newest before maximum (seen ++ items)
      (evicted ++ (pushAll before maximum retained items).1)
      (pushAll before maximum retained items).2 := by
  induction items generalizing seen evicted retained with
  | nil => simpa [BoundedBuffer.pushAll] using newest
  | cons item rest inductionHypothesis =>
      simpa [BoundedBuffer.pushAll] using
        inductionHypothesis (newest.push item)

theorem Newest.retained_eq
    [Std.Antisymm before]
    (newest : Newest before maximum seen evicted retained) :
    retained = (seen.insertionSort before).drop (seen.length - maximum) ∧
      (evicted.insertionSort before) =
        (seen.insertionSort before).take (seen.length - maximum) := by
  have front := List.perm_insertionSort before evicted
  have whole : seen.insertionSort before =
      evicted.insertionSort before ++ retained := by
    refine List.Perm.eq_of_pairwise ?_
      (List.pairwise_insertionSort before seen) ?_
      ((List.perm_insertionSort before seen).trans
        (newest.perm.symm.trans (front.symm.append_right retained)))
    · exact fun _ _ _ _ => antisymm
    · refine List.pairwise_append.mpr
        ⟨List.pairwise_insertionSort before evicted, newest.sorted, ?_⟩
      exact fun old member => newest.older old (front.mem_iff.mp member)
  have size : seen.length - maximum =
      (evicted.insertionSort before).length := by
    have lengths := newest.perm.length_eq
    have room := newest.bounded
    rw [List.length_append] at lengths
    rw [front.length_eq]
    by_cases none : evicted = []
    · simp only [none, List.length_nil] at lengths ⊢
      omega
    · have full := newest.full none
      omega
  rw [whole, size, List.drop_left, List.take_left]
  exact ⟨rfl, rfl⟩

end BoundedBuffer

namespace Selene.Lifecycle

open Js

/-- An entry of a directory, as the listing yields it. -/
structure DirectoryEntry where
  name : JsString
  isFile : Bool

/-- A listing of a directory, in the order in which it is read. -/
structure DirectoryListing where
  entries : List DirectoryEntry
  distinct : (entries.map DirectoryEntry.name).Nodup

/-- `localeCompare` orders all names. -/
structure NameOrder where
  before : JsString → JsString → Prop
  decidable : DecidableRel before
  total : Std.Total before
  trans : IsTrans JsString before
  antisymm : Std.Antisymm before

attribute [instance] NameOrder.decidable NameOrder.total NameOrder.trans
  NameOrder.antisymm

/-- A positive safe integer. -/
structure QuarantineMaximum where
  value : Nat
  positive : 1 ≤ value
  safe : value ≤ JsNumber.maxSafeInteger

/-- `maxQuarantineEntries`, or the default of twenty. -/
def quarantineMaximum (option : Option JsNumber) :
    Except JsString QuarantineMaximum :=
  match option with
  | none => .ok ⟨20, by decide, by decide⟩
  | some number =>
      match number.safeInteger? with
      | some value =>
          if valid : 1 ≤ value.toNat ∧
              value.toNat ≤ JsNumber.maxSafeInteger then
            .ok ⟨value.toNat, valid.1, valid.2⟩
          else
            .error (js "maxQuarantineEntries must be a positive safe integer")
      | none =>
          .error (js "maxQuarantineEntries must be a positive safe integer")

/-- A file with the metadata of a quarantined record. -/
def DirectoryEntry.isMetadata (entry : DirectoryEntry) : Bool :=
  entry.isFile && (js ".json").isSuffixOf entry.name

/-- The names of the metadata files, in the order of the listing. -/
def DirectoryListing.metadata (listing : DirectoryListing) : List JsString :=
  (listing.entries.filter DirectoryEntry.isMetadata).map DirectoryEntry.name

/-- The file with the retained bytes of an entry. -/
def rawCompanion (name : JsString) : JsString :=
  name ++ js ".raw"

/-- The calls of `removeFile` that succeeded, and whether none failed. -/
structure PruneOutcome where
  removals : List JsString
  resolved : Bool

/-- `removeFile` rejects for the paths that `rejects` says. -/
def removeFiles (rejects : JsString → Bool) (removals : List JsString) :
    List JsString → PruneOutcome
  | [] => ⟨removals, true⟩
  | path :: rest =>
      if rejects path then ⟨removals, false⟩
      else removeFiles rejects (removals ++ [path]) rest

/-- The loop of `pruneQuarantine`; a failing removal ends it. -/
def pruneEntries (order : NameOrder) (maximum : Nat)
    (rejects : JsString → Bool) (retained removals : List JsString) :
    List DirectoryEntry → PruneOutcome
  | [] => ⟨removals, true⟩
  | entry :: rest =>
      if entry.isMetadata then
        match BoundedBuffer.push order.before maximum retained entry.name with
        | (none, kept) =>
            pruneEntries order maximum rejects kept removals rest
        | (some oldest, kept) =>
            -- The companion goes first, the metadata last.
            let outcome :=
              removeFiles rejects removals [rawCompanion oldest, oldest]
            if outcome.resolved then
              pruneEntries order maximum rejects kept outcome.removals rest
            else
              outcome
      else
        pruneEntries order maximum rejects retained removals rest

/-- What `pruneQuarantine` does to a directory. -/
def pruneListing (order : NameOrder) (maximum : QuarantineMaximum)
    (rejects : JsString → Bool) (listing : DirectoryListing) : PruneOutcome :=
  pruneEntries order maximum.value rejects [] [] listing.entries

/-- `pruneQuarantine`; that the directory is synced at the end is left out. -/
def pruneQuarantine (order : NameOrder) (option : Option JsNumber)
    (rejects : JsString → Bool) (listing : DirectoryListing) :
    Except JsString PruneOutcome := do
  let maximum ← quarantineMaximum option
  pure (pruneListing order maximum rejects listing)

/-! ## The removals -/

variable {rejects : JsString → Bool} {removals paths : List JsString}

theorem removeFiles_append (front back : List JsString) :
    removeFiles rejects removals (front ++ back) =
      if (removeFiles rejects removals front).resolved then
        removeFiles rejects (removeFiles rejects removals front).removals back
      else
        removeFiles rejects removals front := by
  induction front generalizing removals with
  | nil => rfl
  | cons path rest inductionHypothesis =>
      rw [List.cons_append, removeFiles, removeFiles]
      split
      · rfl
      · exact inductionHypothesis

theorem removeFiles_resolved_iff :
    (removeFiles rejects removals paths).resolved = true ↔
      ∀ path ∈ paths, rejects path = false := by
  induction paths generalizing removals with
  | nil => simp [removeFiles]
  | cons path rest inductionHypothesis =>
      rw [removeFiles]
      split <;> simp_all

theorem removals_removeFiles :
    (removeFiles rejects removals paths).removals <+: removals ++ paths ∧
      ((removeFiles rejects removals paths).resolved = true →
        (removeFiles rejects removals paths).removals = removals ++ paths) := by
  induction paths generalizing removals with
  | nil => simp [removeFiles]
  | cons path rest inductionHypothesis =>
      rw [removeFiles]
      split
      · exact ⟨List.prefix_append removals _, nofun⟩
      · have later := @inductionHypothesis (removals ++ [path])
        rwa [List.append_assoc, List.singleton_append] at later

/-- The files of an entry, in the order in which they are removed. -/
def filesOf (name : JsString) : List JsString :=
  [rawCompanion name, name]

/-- The loop removes the files of what falls out of the buffer. -/
theorem pruneEntries_eq
    {order : NameOrder}
    {maximum : Nat}
    {retained : List JsString}
    (entries : List DirectoryEntry) :
    pruneEntries order maximum rejects retained removals entries =
      removeFiles rejects removals
        ((BoundedBuffer.pushAll order.before maximum retained
          ((entries.filter DirectoryEntry.isMetadata).map
            DirectoryEntry.name)).1.flatMap filesOf) := by
  induction entries generalizing retained removals with
  | nil => rfl
  | cons entry rest inductionHypothesis =>
      rw [pruneEntries]
      split
      · rename_i isMetadata
        rw [List.filter_cons_of_pos isMetadata, List.map_cons,
          BoundedBuffer.pushAll]
        split
        · rename_i pushed
          rw [pushed, inductionHypothesis]
          rfl
        · rename_i oldest kept pushed
          rw [pushed]
          simp only [Option.toList_some, List.singleton_append,
            List.flatMap_cons]
          rw [removeFiles_append, inductionHypothesis]
          rfl
      · rename_i other
        rw [List.filter_cons_of_neg other, inductionHypothesis]

theorem rawCompanion_not_metadata (name : JsString) :
    ¬ js ".json" <:+ rawCompanion name := by
  rintro ⟨front, same⟩
  have jsonLast : (js ".json").getLast? = some 0x6E := by decide +kernel
  have rawLast : (js ".raw").getLast? = some 0x77 := by decide +kernel
  have last := congrArg List.getLast? same
  rw [rawCompanion, List.getLast?_append, List.getLast?_append, jsonLast,
    rawLast, Option.some_or, Option.some_or] at last
  exact absurd last (by decide +kernel)

theorem json_of_mem_metadata
    {listing : DirectoryListing}
    {name : JsString}
    (member : name ∈ listing.metadata) :
    js ".json" <:+ name := by
  obtain ⟨entry, isMetadata, rfl⟩ := List.mem_map.mp member
  have kept := (List.mem_filter.mp isMetadata).2
  rw [DirectoryEntry.isMetadata, Bool.and_eq_true] at kept
  exact List.isSuffixOf_iff_suffix.mp kept.2

theorem mem_flatMap_filesOf
    {names : List JsString}
    (metadata : ∀ name ∈ names, js ".json" <:+ name)
    {name : JsString}
    (isMetadata : js ".json" <:+ name) :
    (name ∈ names.flatMap filesOf ↔ name ∈ names) ∧
      (rawCompanion name ∈ names.flatMap filesOf ↔ name ∈ names) := by
  simp only [List.mem_flatMap, filesOf, List.mem_cons, List.not_mem_nil,
    or_false]
  refine ⟨⟨?_, fun member => ⟨name, member, .inr rfl⟩⟩,
    ⟨?_, fun member => ⟨name, member, .inl rfl⟩⟩⟩
  · rintro ⟨other, member, rfl | rfl⟩
    · exact absurd isMetadata (rawCompanion_not_metadata other)
    · exact member
  · rintro ⟨other, member, same | same⟩
    · exact List.append_cancel_right same ▸ member
    · exact absurd (same ▸ metadata other member)
        (rawCompanion_not_metadata name)

/--
The metadata files that are left are the last ones of the sorted listing.  Every
other one is removed after its companion, no file of one that stays is touched,
and nothing else either; a failing removal ends all this early.
-/
theorem pruneListing_keeps
    (order : NameOrder)
    (option : Option JsNumber)
    (maximum : QuarantineMaximum)
    (valid : quarantineMaximum option = .ok maximum)
    (rejects : JsString → Bool)
    (listing : DirectoryListing) :
    let sorted := listing.metadata.insertionSort order.before
    let surplus := listing.metadata.length - maximum.value
    ∃ outcome,
      pruneQuarantine order option rejects listing = .ok outcome ∧
      ∃ evicted : List JsString,
        evicted.Perm (sorted.take surplus) ∧
          outcome.removals <+: evicted.flatMap filesOf ∧
          (∀ name ∈ sorted.drop surplus,
            name ∉ outcome.removals ∧ rawCompanion name ∉ outcome.removals) ∧
          (outcome.resolved = true ↔
            ∀ path ∈ evicted.flatMap filesOf, rejects path = false) ∧
          (outcome.resolved = true →
            outcome.removals = evicted.flatMap filesOf ∧
              ∀ name ∈ listing.metadata,
                name ∉ outcome.removals ↔ name ∈ sorted.drop surplus) := by
  intro sorted surplus
  refine ⟨pruneListing order maximum rejects listing, by
    rw [pruneQuarantine, valid]; rfl, ?_⟩
  generalize isOutcome : pruneListing order maximum rejects listing = outcome
  have newest := (@BoundedBuffer.Newest.start _ order.before
    maximum.value).pushAll listing.metadata
  simp only [List.nil_append] at newest
  have run : outcome = removeFiles rejects []
      ((BoundedBuffer.pushAll order.before maximum.value []
        listing.metadata).1.flatMap filesOf) := by
    rw [← isOutcome]
    exact pruneEntries_eq listing.entries
  generalize BoundedBuffer.pushAll order.before maximum.value []
    listing.metadata = final at newest run
  obtain ⟨evicted, retained⟩ := final
  obtain ⟨isRetained, isEvicted⟩ := newest.retained_eq
  have metadata : ∀ name ∈ evicted ++ retained, js ".json" <:+ name :=
    fun name member => json_of_mem_metadata (newest.perm.mem_iff.mp member)
  have distinct : (evicted ++ retained).Nodup :=
    newest.perm.nodup_iff.mpr
      (listing.distinct.sublist (List.filter_sublist.map _))
  have apart : ∀ name ∈ retained, name ∉ evicted := fun name stays =>
    List.disjoint_right.mp (List.disjoint_of_nodup_append distinct) stays
  have filesOfEvicted := @mem_flatMap_filesOf evicted fun name member =>
    metadata name (List.mem_append_left _ member)
  obtain ⟨early, whole⟩ := @removals_removeFiles rejects []
    (evicted.flatMap filesOf)
  rw [← run] at early whole
  refine ⟨evicted, ?_, early, ?_, ?_, fun resolved => ⟨whole resolved, ?_⟩⟩
  · exact (List.perm_insertionSort order.before evicted).symm.trans
      (.of_eq isEvicted)
  · rw [← isRetained]
    intro name stays
    have files := filesOfEvicted (metadata name (List.mem_append_right _ stays))
    exact ⟨fun removed => apart name stays (files.1.mp (early.subset removed)),
      fun removed => apart name stays (files.2.mp (early.subset removed))⟩
  · rw [run]
    exact removeFiles_resolved_iff
  · rw [whole resolved, ← isRetained]
    intro name listed
    have files := filesOfEvicted (json_of_mem_metadata listed)
    rw [List.nil_append, files.1]
    constructor
    · intro kept
      rcases List.mem_append.mp (newest.perm.mem_iff.mpr listed) with out | stays
      · exact absurd out kept
      · exact stays
    · exact apart name

/-- The order of code units. -/
def codeUnitOrder : NameOrder where
  before first second := first ≤ second
  decidable := inferInstance
  total := inferInstance
  trans := inferInstance
  antisymm := inferInstance

/-- Four records in no order, with a companion and a directory among them. -/
def unsortedListing : DirectoryListing where
  entries := [⟨js "b.json", true⟩, ⟨js "d.json", true⟩,
    ⟨js "b.json.raw", true⟩, ⟨js "a.json", true⟩, ⟨js "e.json", false⟩,
    ⟨js "c.json", true⟩]
  distinct := by decide +kernel

/-- Of the records the last two are left. -/
theorem pruneListing_keeps_unsorted :
    ∃ outcome,
      pruneQuarantine codeUnitOrder (some (.ofNat 2)) (fun _ => false)
          unsortedListing = .ok outcome ∧
        ∀ name ∈ unsortedListing.metadata,
          name ∉ outcome.removals ↔ name ∈ [js "c.json", js "d.json"] := by
  obtain ⟨outcome, returned, evicted, -, -, -, resolved, whole⟩ :=
    pruneListing_keeps codeUnitOrder (some (.ofNat 2))
      ⟨2, by decide, by decide⟩ rfl (fun _ => false) unsortedListing
  refine ⟨outcome, returned, fun name listed => ?_⟩
  rw [(whole (resolved.mpr fun _ _ => rfl)).2 name listed]
  have last : (unsortedListing.metadata.insertionSort
      codeUnitOrder.before).drop (unsortedListing.metadata.length - 2) =
        [js "c.json", js "d.json"] := by
    decide +kernel
  exact iff_of_eq (congrArg (name ∈ ·) last)

end Selene.Lifecycle
