import Selene.ReviewReceipt

/-!
# What a fingerprint says

The encoder writes the text of one document (`encode_writes`), so requests with
the same fingerprint have the same document and agree on everything that can
be read off it: the kind, the expected version and the thread.
-/

namespace Selene.Collaboration

open Js

/-! ## Documents in locale order -/

mutual

/-- The document of a value, with the names of every object in locale order. -/
noncomputable def receiptDocument (host : Host) : JsValue → Json Double
  | .null => .null
  | .bool value => .bool value
  | .number value => .number value.toDouble
  | .string value => .text value
  | .array items => .array (receiptDocumentItems host items)
  | .object entries =>
      .object (sortNames host Prod.fst (receiptDocumentEntries host entries))
  | .undefined => .null
  | .exotic => .null

/-- The documents of the items. -/
noncomputable def receiptDocumentItems (host : Host) :
    List JsValue → List (Json Double)
  | [] => []
  | item :: rest =>
      receiptDocument host item :: receiptDocumentItems host rest

/-- The documents of the entries. -/
noncomputable def receiptDocumentEntries (host : Host) :
    Record → List (JsString × Json Double)
  | [] => []
  | (name, value) :: rest =>
      (name, receiptDocument host value) :: receiptDocumentEntries host rest

end

variable (host : Host)

theorem receiptDocumentItems_eq_map
    (items : List JsValue) :
    receiptDocumentItems host items = items.map (receiptDocument host) :=
  eq_map_of_cons rfl (fun _ _ => rfl) items

theorem receiptDocumentEntries_eq_map
    (entries : Record) :
    receiptDocumentEntries host entries =
      entries.map fun entry => (entry.1, receiptDocument host entry.2) :=
  eq_map_of_cons rfl (fun _ _ => rfl) entries

theorem sortNames_perm
    {α : Type}
    (nameOf : α → JsString)
    (items : List α) :
    (sortNames host nameOf items).Perm items :=
  List.perm_insertionSort _ items

variable {host : Host}

theorem sortNames_map
    {α β : Type}
    {nameOf : α → JsString}
    {otherName : β → JsString}
    (change : α → β)
    (kept : ∀ item, otherName (change item) = nameOf item)
    (items : List α) :
    sortNames host otherName (items.map change) =
      (sortNames host nameOf items).map change := by
  unfold sortNames
  exact (List.map_insertionSort
    (fun first second =>
      host.localeCompare (nameOf first) (nameOf second) ≠ .gt)
    (fun first second =>
      host.localeCompare (otherName first) (otherName second) ≠ .gt)
    change items (fun first _ second _ => by rw [kept, kept])).symm

/-! ## What the encoder writes -/

variable {state next : ReceiptState}

theorem push_writes
    {chunk : JsString}
    (written : push chunk state = some next) :
    next.text = state.text ++ chunk := by
  unfold push at written
  split at written
  · cases written
    rfl
  · cases written

theorem pushNode_writes
    {children : Nat}
    (charged : pushNode children state = some next) :
    next.text = state.text := by
  unfold pushNode at charged
  split at charged
  · cases charged
    rfl
  · cases charged

variable {first : Bool}

theorem pushSeparator_writes
    (written : pushSeparator first state = some next) :
    next.text = state.text ++ (if first then [] else [0x2C]) := by
  unfold pushSeparator at written
  split at written
  · cases written
    simp [*]
  · rw [push_writes written]
    simp [*]

theorem encodeItems_eq_map
    (items : List JsValue)
    (depth : Nat) :
    encodeItems host items depth =
      items.map fun item => encode host item depth :=
  @eq_map_of_cons _ _ _ (encodeItems host · depth) rfl
    (fun _ _ => rfl) items

theorem encodeEntries_eq_map
    (entries : Record)
    (depth : Nat) :
    encodeEntries host entries depth =
      entries.map fun entry => (entry.1, encode host entry.2 depth) :=
  @eq_map_of_cons _ _ _ (encodeEntries host · depth) rfl
    (fun _ _ => rfl) entries

/-- An encoded value writes the text of its document. -/
def WritesDocument (host : Host) (value : JsValue) : Prop :=
  ∀ depth state next,
    encode host value depth state = some next →
      next.text =
        state.text ++
          Json.stringify host.numbers.doubles (receiptDocument host value)

theorem pushItems_writes
    {items : List JsValue}
    (each : ∀ item ∈ items, WritesDocument host item)
    (depth : Nat)
    (written :
      pushItems first (items.map fun item => encode host item depth) state =
        some next) :
    next.text ++ [0x5D] =
      state.text ++
        Json.stringifyItems host.numbers.doubles first
          (items.map (receiptDocument host)) := by
  induction items generalizing first state with
  | nil =>
      cases written
      simp [Json.stringifyItems]
  | cons item rest inductionHypothesis =>
      simp only [List.map_cons, pushItems, Option.bind_eq_some_iff] at written
      obtain ⟨separated, separator, middle, visited, remaining⟩ := written
      have itemText := each item (by simp) _ _ _ visited
      have restText :=
        inductionHypothesis
          (fun other member => each other (List.mem_cons_of_mem _ member))
          remaining
      rw [restText, itemText, pushSeparator_writes separator]
      simp [Json.stringifyItems, List.append_assoc]

theorem pushEntries_writes
    {entries : Record}
    (each : ∀ entry ∈ entries, WritesDocument host entry.2)
    (depth : Nat)
    (written :
      pushEntries first
        (entries.map fun entry => (entry.1, encode host entry.2 depth))
        state = some next) :
    next.text ++ [0x7D] =
      state.text ++
        Json.stringifyEntries host.numbers.doubles first
          (entries.map fun entry =>
            (entry.1, receiptDocument host entry.2)) := by
  induction entries generalizing first state with
  | nil =>
      cases written
      simp [Json.stringifyEntries]
  | cons entry rest inductionHypothesis =>
      rw [List.map_cons, pushEntries] at written
      split at written
      · simp only [Option.bind_eq_some_iff] at written
        obtain ⟨separated, separator, named, name, opened, colon, middle,
          visited, remaining⟩ := written
        have valueText := each entry (by simp) _ _ _ visited
        have restText :=
          inductionHypothesis
            (fun other member => each other (List.mem_cons_of_mem _ member))
            remaining
        rw [restText, valueText, push_writes colon, push_writes name,
          pushSeparator_writes separator]
        simp [Json.stringifyEntries, List.append_assoc]
      · cases written

/-- Every value that can exist writes its document or is refused. -/
theorem encode_writes
    (host : Host)
    {value : JsValue}
    (wellFormed : value.WellFormed) :
    WritesDocument host value := by
  induction wellFormed with
  | undefined => intro depth state next visited; cases visited
  | exotic => intro depth state next visited; cases visited
  | null =>
      intro depth state next visited
      rw [encode] at visited
      split at visited
      · exact push_writes visited
      · cases visited
  | bool value =>
      intro depth state next visited
      rw [encode] at visited
      split at visited
      · rw [push_writes visited]
        cases value <;> rfl
      · cases visited
  | string value =>
      intro depth state next visited
      rw [encode] at visited
      split at visited
      · exact push_writes visited
      · cases visited
  | @number value representable =>
      intro depth state next visited
      rw [encode] at visited
      split at visited
      · obtain ⟨text, isText, pushed⟩ := Option.bind_eq_some_iff.mp visited
        obtain ⟨exact, finite, rfl⟩ := Option.map_eq_some_iff.mp isText
        have double := representable exact (by simp [finite])
        rw [push_writes pushed, receiptDocument, toDouble_val finite double]
        rfl
      · cases visited
  | @array items _ inductionHypothesis =>
      intro depth state next visited
      rw [encode] at visited
      split at visited
      · simp only [Option.bind_eq_some_iff, encodeItems_eq_map] at visited
        obtain ⟨charged, charge, opened, opening, middle, written, closing⟩ :=
          visited
        have itemsText :=
          pushItems_writes inductionHypothesis (depth + 1) written
        rw [push_writes closing, itemsText, push_writes opening,
          pushNode_writes charge, receiptDocument,
          receiptDocumentItems_eq_map]
        simp [Json.stringify]
      · cases visited
  | @object entries distinct _ inductionHypothesis =>
      intro depth state next visited
      rw [encode] at visited
      split at visited
      · simp only [Option.bind_eq_some_iff, encodeEntries_eq_map] at visited
        obtain ⟨charged, charge, opened, opening, middle, written, closing⟩ :=
          visited
        have sorted := sortNames_perm host Prod.fst entries
        rw [sortNames_map
          (fun entry : JsString × JsValue =>
            (entry.1, encode host entry.2 (depth + 1)))
          (fun _ => rfl)] at written
        have entriesText :=
          pushEntries_writes
            (fun entry member =>
              inductionHypothesis entry (sorted.mem_iff.mp member))
            (depth + 1) written
        rw [push_writes closing, entriesText, push_writes opening,
          pushNode_writes charge, receiptDocument,
          receiptDocumentEntries_eq_map,
          sortNames_map
            (fun entry : JsString × JsValue =>
              (entry.1, receiptDocument host entry.2))
            (fun _ => rfl)]
        simp [Json.stringify]
      · cases visited

/-! ## Reading a document -/

theorem receiptDocument_get
    {first second : Record}
    (secondDistinct : second.keys.Nodup)
    (same :
      receiptDocument host (.object first) =
        receiptDocument host (.object second))
    {name : JsString}
    (member : name ∈ first.keys) :
    name ∈ second.keys ∧
      receiptDocument host (first.get name) =
        receiptDocument host (second.get name) := by
  have permuted :
      (receiptDocumentEntries host first).Perm
        (receiptDocumentEntries host second) := by
    rw [receiptDocument, receiptDocument] at same
    have sorted := Json.object.inj same
    exact (sortNames_perm host Prod.fst _).symm.trans
      (sorted ▸ sortNames_perm host Prod.fst _)
  rw [receiptDocumentEntries_eq_map, receiptDocumentEntries_eq_map]
    at permuted
  have written :
      (name, receiptDocument host (first.get name)) ∈
        second.map fun entry => (entry.1, receiptDocument host entry.2) :=
    permuted.mem_iff.mp
      (List.mem_map.mpr ⟨_, Record.mem_of_get member, rfl⟩)
  obtain ⟨⟨other, value⟩, old, sameEntry⟩ := List.mem_map.mp written
  obtain ⟨rfl, sameValue⟩ := Prod.mk.inj sameEntry
  obtain ⟨isKey, rfl⟩ := (Record.mem_iff secondDistinct).mp old
  exact ⟨isKey, sameValue.symm⟩

/-! ## Typed mutations -/

namespace ReviewThreadMutation

/-- The fingerprint of a typed mutation. -/
def fingerprint (host : Host) (mutation : ReviewThreadMutation) :
    Checked JsString :=
  canonicalReviewThreadMutationFingerprint host mutation.toJs

/-- The thread as it enters a fingerprint. -/
def threadPayload (thread : ReviewThread) : Record :=
  (withoutTime thread.toJs).define (js "messages")
    (messagesWithoutTime ((spread thread.toJs).get (js "messages")))

/-- What the fingerprint of a typed mutation is taken of. -/
def payload (mutation : ReviewThreadMutation) : Record :=
  [(js "kind", .string mutation.kind),
    (js "expectedVersion", .number mutation.expectedVersion.val)] ++
  match mutation with
  | .create _ _ thread => [(js "thread", .object (threadPayload thread))]
  | .reply _ _ threadId message =>
      [(js "threadId", .string threadId),
        (js "message", .object (withoutTime message.toJs))]
  | .resolve _ _ threadId actorId _ =>
      [(js "threadId", .string threadId), (js "actorId", .string actorId)]
  | .reopen _ _ threadId actorId _ =>
      [(js "threadId", .string threadId), (js "actorId", .string actorId)]

section Payload

attribute [local simp] textField numberField js_inj

theorem inert (mutation : ReviewThreadMutation) : Inert mutation.toJs := by
  cases mutation <;> exact inert_record _ (by simp) (by simp)

theorem receiptPayload_toJs
    {mutation : ReviewThreadMutation}
    {record : Record}
    (isRecord : recordOf mutation.toJs = some record) :
    receiptPayload record = .object mutation.payload := by
  cases isRecord
  cases mutation <;>
    simp [receiptPayload, payload, threadPayload, kind, expectedVersion,
      Record.ofFields, Record.optionalEntry]

private theorem wellFormed_withoutTime
    {entries : Record}
    (wellFormed : (JsValue.object entries).WellFormed) :
    (JsValue.object (withoutTime (.object entries))).WellFormed :=
  wellFormed.define _ (.string [])

private theorem wellFormed_threadPayload (thread : ReviewThread) :
    (JsValue.object (threadPayload thread)).WellFormed := by
  refine (wellFormed_withoutTime thread.wellFormed).define _ ?_
  have messages :
      (spread thread.toJs).get (js "messages") =
        .array (thread.messages.map ReviewThreadMessage.toJs) := by
    simp [ReviewThread.toJs, spread, countField, optionalText]
  rw [messages, messagesWithoutTime]
  refine .array fun item member => ?_
  obtain ⟨value, isMessage, rfl⟩ := List.mem_map.mp member
  obtain ⟨message, _, rfl⟩ := List.mem_map.mp isMessage
  exact wellFormed_withoutTime message.wellFormed

theorem wellFormed_payload (mutation : ReviewThreadMutation) :
    (JsValue.object mutation.payload).WellFormed := by
  have version := wellFormed_number mutation.expectedVersion
  have text := JsValue.WellFormed.string
  cases mutation with
  | create operationId expectedVersion thread =>
      exact .object (by simp [payload])
        (by simp [payload, wellFormed_threadPayload, version, text])
  | reply operationId expectedVersion threadId message =>
      have untimed :
          (JsValue.object (withoutTime message.toJs)).WellFormed :=
        wellFormed_withoutTime message.wellFormed
      exact .object (by simp [payload])
        (by simp [payload, version, text, untimed])
  | resolve operationId expectedVersion threadId actorId occurredAt =>
      exact .object (by simp [payload]) (by simp [payload, version, text])
  | reopen operationId expectedVersion threadId actorId occurredAt =>
      exact .object (by simp [payload]) (by simp [payload, version, text])

end Payload

variable {mutation : ReviewThreadMutation}

theorem normalizeReviewThreadMutation_eq_ok
    {host : Host}
    {record : Record} :
    normalizeReviewThreadMutation host mutation.toJs = .ok record ↔
      ((preflightReviewReceiptValue host mutation.toJs 0 .zero).isSome ∧
          collaborationBudgets.Admits mutation.toJs) ∧
        recordOf mutation.toJs = some record ∧
        isBoundedText (record.get (js "operationId")) 256 = true ∧
        (versionOf (record.get (js "expectedVersion"))).isSome ∧
        isReviewMutation host record = true := by
  unfold normalizeReviewThreadMutation
  rw [mutation.inert]
  cases recordOf mutation.toJs with
  | none => simp
  | some found =>
      rw [Option.some.injEq]
      split
      · rename_i within
        dsimp only
        split
        · rename_i valid
          rw [Except.ok.injEq]
          constructor
          · rintro rfl
            exact ⟨within, rfl, valid⟩
          · exact fun accepted => accepted.2.1
        · rename_i refused
          constructor
          · intro raised
            cases raised
          · rintro ⟨_, rfl, valid⟩
            exact absurd valid refused
      · rename_i beyond
        constructor
        · intro raised
          cases raised
        · exact fun accepted => absurd accepted.1 beyond

theorem get_expectedVersion
    {record : Record}
    (isRecord : recordOf mutation.toJs = some record) :
    record.get (js "expectedVersion") =
      .number mutation.expectedVersion.val := by
  cases isRecord
  simp [textField, numberField]

/-- What an accepted mutation looks like, and what its fingerprint is. -/
theorem fingerprint_eq_ok
    {host : Host}
    {text : JsString}
    (taken : mutation.fingerprint host = .ok text) :
    (∃ version, versionOf (.number mutation.expectedVersion.val) =
      some version) ∧
      text = Json.stringify host.numbers.doubles
        (receiptDocument host (.object mutation.payload)) := by
  unfold fingerprint canonicalReviewThreadMutationFingerprint at taken
  obtain ⟨record, normalized, encoded⟩ := bind_eq_ok.mp taken
  obtain ⟨_, isRecord, _, hasVersion, _⟩ :=
    normalizeReviewThreadMutation_eq_ok.mp normalized
  rw [get_expectedVersion isRecord] at hasVersion
  rw [receiptPayload_toJs isRecord] at encoded
  split at encoded
  · cases encoded
  · rename_i state written
    cases encoded
    refine ⟨Option.isSome_iff_exists.mp hasVersion, ?_⟩
    simpa using encode_writes host mutation.wellFormed_payload _ _ _ written

theorem versionOf_eq
    {first second : JsNumber}
    {version other : Nat}
    (isVersion : versionOf (.number first) = some version)
    (isOther : versionOf (.number second) = some other)
    (same : first.finiteValue? = second.finiteValue?) :
    version = other := by
  have exact :
      ∀ {number : JsNumber} {count : Nat},
        versionOf (.number number) = some count →
          number.finiteValue? = some (count : ℚ) := by
    intro number count isCount
    unfold versionOf at isCount
    cases number with
    | finite value =>
        simp only [JsNumber.safeInteger?] at isCount
        split at isCount
        · rename_i integer whole
          split at whole
          · rename_i bounded
            cases isCount
            have isInteger := Option.some.inj whole
            rw [JsNumber.finiteValue?, Option.some.injEq]
            have reduced := Rat.den_eq_one_iff value |>.mp bounded.1
            rw [← reduced, isInteger]
            simp
          · cases whole
        · cases isCount
    | negativeZero =>
        cases isCount
        rfl
    | infinite negative => cases isCount
    | nan => cases isCount
  have sameValue := (exact isVersion).symm.trans (same.trans (exact isOther))
  exact Nat.cast_injective (Option.some.inj sameValue)

theorem finite_of_version
    {number : JsNumber}
    {version : Nat}
    (isVersion : versionOf (.number number) = some version) :
    ∃ value, number.finiteValue? = some value := by
  cases number with
  | finite value => exact ⟨value, rfl⟩
  | negativeZero => exact ⟨0, rfl⟩
  | infinite negative => cases isVersion
  | nan => cases isVersion

theorem finiteValue?_eq_of_toDouble_eq
    {first second : JsNumber}
    (firstFinite : ∃ value, first.finiteValue? = some value)
    (secondFinite : ∃ value, second.finiteValue? = some value)
    (firstOwn : first.IsRepresentable)
    (secondOwn : second.IsRepresentable)
    (same : first.toDouble = second.toDouble) :
    first.finiteValue? = second.finiteValue? := by
  obtain ⟨value, isValue⟩ := firstFinite
  obtain ⟨other, isOther⟩ := secondFinite
  rw [toDouble_val isValue (firstOwn value isValue),
    toDouble_val isOther (secondOwn other isOther)] at same
  rw [isValue, isOther]
  exact congrArg some (congrArg Subtype.val same)

section Reading

attribute [local simp] payload js_inj

theorem kind_mem (mutation : ReviewThreadMutation) :
    js "kind" ∈ mutation.payload.keys := by
  simp

theorem get_kind (mutation : ReviewThreadMutation) :
    mutation.payload.get (js "kind") = .string mutation.kind := by
  simp

theorem version_mem (mutation : ReviewThreadMutation) :
    js "expectedVersion" ∈ mutation.payload.keys := by
  simp

theorem get_version (mutation : ReviewThreadMutation) :
    mutation.payload.get (js "expectedVersion") =
      .number mutation.expectedVersion.val := by
  simp

theorem get_thread_id (thread : ReviewThread) :
    (threadPayload thread).get (js "id") = .string thread.id ∧
      js "id" ∈ (threadPayload thread).keys := by
  have present : js "id" ∈ Record.keys (spread thread.toJs) := by
    simp [ReviewThread.toJs, spread, Record.mem_keys_ofFields, textField]
  have untimed : js "id" ∈ Record.keys (withoutTime thread.toJs) := by
    rw [withoutTime, Record.keys_define]
    split
    · exact present
    · exact List.mem_append_left _ present
  constructor
  · simp [threadPayload, withoutTime, ReviewThread.toJs, spread, textField]
  · rw [threadPayload, Record.keys_define]
    split
    · exact untimed
    · exact List.mem_append_left _ untimed

theorem threadId_eq_of_agree
    {host : Host}
    {first second : ReviewThreadMutation}
    (sameKind : first.kind = second.kind)
    (agree : ∀ {name}, name ∈ first.payload.keys →
      name ∈ second.payload.keys ∧
        receiptDocument host (first.payload.get name) =
          receiptDocument host (second.payload.get name)) :
    first.threadId = second.threadId := by
  cases first with
  | create operationId expectedVersion thread =>
      cases second with
      | create _ _ other =>
          have threads := (@agree (js "thread") (by simp)).2
          simp only [payload, Record.get_append, Record.get_cons, js_inj,
            Record.keys_cons, Record.keys_nil] at threads
          simp at threads
          cases (wellFormed_threadPayload thread) with
          | object distinct _ =>
          cases (wellFormed_threadPayload other) with
          | object otherDistinct _ =>
          have ids := (receiptDocument_get otherDistinct threads
            (get_thread_id thread).2).2
          rw [(get_thread_id thread).1, (get_thread_id other).1] at ids
          exact Json.text.inj ids
      | _ => simp [kind] at sameKind
  | reply operationId expectedVersion threadId message =>
      cases second with
      | reply =>
          have threads := (@agree (js "threadId") (by simp)).2
          simp [receiptDocument] at threads
          exact threads
      | _ => simp [kind] at sameKind
  | resolve operationId expectedVersion threadId actorId occurredAt =>
      cases second with
      | resolve =>
          have threads := (@agree (js "threadId") (by simp)).2
          simp [receiptDocument] at threads
          exact threads
      | _ => simp [kind] at sameKind
  | reopen operationId expectedVersion threadId actorId occurredAt =>
      cases second with
      | reopen =>
          have threads := (@agree (js "threadId") (by simp)).2
          simp [receiptDocument] at threads
          exact threads
      | _ => simp [kind] at sameKind

end Reading

/--
Mutations with the same fingerprint are of one kind, expect one version and are
about one thread.
-/
theorem fingerprint_determines
    {host : Host}
    {first second : ReviewThreadMutation}
    {text : JsString}
    (taken : first.fingerprint host = .ok text)
    (takenAgain : second.fingerprint host = .ok text) :
    first.kind = second.kind ∧ first.threadId = second.threadId ∧
      versionOf (.number first.expectedVersion.val) =
        versionOf (.number second.expectedVersion.val) := by
  obtain ⟨⟨version, isVersion⟩, firstText⟩ := fingerprint_eq_ok taken
  obtain ⟨⟨other, isOther⟩, secondText⟩ := fingerprint_eq_ok takenAgain
  have same := Json.stringify_injective host.numbers.doubles
    (firstText.symm.trans secondText)
  cases second.wellFormed_payload with
  | object secondDistinct _ =>
  have agree := @receiptDocument_get host _ _ secondDistinct same
  have sameKind : first.kind = second.kind := by
    have kinds := (agree (kind_mem first)).2
    rw [get_kind, get_kind] at kinds
    exact Json.text.inj kinds
  refine ⟨sameKind, threadId_eq_of_agree sameKind agree, ?_⟩
  have versions := (agree (version_mem first)).2
  rw [get_version, get_version] at versions
  have sameDouble := Json.number.inj versions
  rw [isVersion, isOther]
  exact congrArg some
    (versionOf_eq isVersion isOther (finiteValue?_eq_of_toDouble_eq
      (finite_of_version isVersion) (finite_of_version isOther)
      first.expectedVersion.property second.expectedVersion.property
      sameDouble))

end ReviewThreadMutation

end Selene.Collaboration
