import Selene.DesignRevisionRecordRoundTrip
import Selene.DesignRevisionState

/-!
# Round trip of states and authorities

Every state that is returned is accepted again, unchanged, however many command
identifiers it has and whatever its head is.  The identifiers are charged to
the budget of the command array, and the rest of a state, although it contains
the privacy record twice, stays below the limits of the other budget.
-/

namespace Selene.Revision

open Js

/-! ## Policy and grant status -/

variable (anchor : DesignRevisionTrustAnchor)

theorem DesignRevisionTrustAnchor.fits :
    Document.Fits anchor.toJson 7 1000 1 :=
  .mono
    (.object
      (.entry (by decide) (fits_literal (by decide))
      (.entry (by decide) anchor.issuer.fits
      (.entry (by decide) anchor.audience.fits
      (.entry (by decide) anchor.grantId.fits
      (.entry (by decide) (.number anchor.schemaRevision.val)
      (.entry (by decide) anchor.commandsDigest.fits
      .nil)))))))
    (by decide) (by decide) (by decide)

theorem Capabilities.fits (set : Capabilities) :
    Document.Fits (Capabilities.toJson set) 21 960 1 :=
  .array Literal.fits (LiteralSet.length_le set.val)

theorem DesignRevisionPolicy.fits (policy : DesignRevisionPolicy) :
    Document.Fits policy.toJson 35 3400 2 :=
  .mono
    (.object
      (.entry (by decide) (fits_literal (by decide))
      (.entry (by decide) policy.tenantId.fits
      (.entry (by decide) policy.projectId.fits
      (.entry (by decide) policy.policyId.fits
      (.entry (by decide) (.number policy.revision.val)
      (.entry (by decide) policy.digest.fits
      (.entry (by decide) (Capabilities.fits policy.capabilities)
      (.entry (by decide) policy.trustAnchor.fits
      .nil)))))))))
    (by decide) (by decide) (by decide)

variable (status : DesignRevisionGrantStatus)

theorem DesignRevisionGrantStatus.fits :
    Document.Fits status.toJson 6 700 1 := by
  have stateName : Document.Fits (.text status.stateName) 1 64 0 := by
    unfold DesignRevisionGrantStatus.stateName
    cases status.revokedAt
    · exact fits_literal (by decide)
    · exact fits_literal (by decide)
  exact .mono
    (.object
      (.entry (by decide) (fits_literal (by decide))
      (.entry (by decide) status.grantId.fits
      (.entry (by decide) (.number status.epoch.val)
      (.entry (by decide) stateName
      (.optional (by decide) Instant.fits
      .nil))))))
    (by decide) (by decide) (by decide)

@[simp] theorem parseDesignRevisionTrustAnchor_toJs :
    parseDesignRevisionTrustAnchor anchor.toJson.toJs = .ok anchor := by
  have captured :
      snapshot anchor.toJson.toJs = .ok anchor.toJson.toJs :=
    snapshot_toJs anchor.fits (by decide) (by decide) (by decide)
  have shape :
      exact anchor.toJson.toJs
          ["audience", "commandsDigest", "format", "grantId", "issuer",
            "schemaRevision"] =
        .ok _ :=
    exact_object (by simp) (by simp)
  rw [parseDesignRevisionTrustAnchor, captured, ok_bind, shape, ok_bind]
  simp

@[simp] theorem capabilities_toJs (set : Capabilities) :
    capabilities (Capabilities.toJson set).toJs = .ok set := by
  have count : set.val.val.length ≤ 10 := LiteralSet.length_le _
  have positive : 1 ≤ set.val.val.length :=
    List.length_pos_iff.mpr set.property
  have values :
      (set.val.val.map
          (Json.toJs ∘ fun member => .text (Literal.text member))).mapM
          capability =
        .ok set.val.val :=
    mapM_literal set.val.val .unsupported
  have lengthFits :
      1 ≤ ((set.val.val.map
          fun member : DesignRevisionCapability =>
            (.text (Literal.text member) : Json Nat)).map
          Json.toJs).length ∧
        ((set.val.val.map
          fun member : DesignRevisionCapability =>
            (.text (Literal.text member) : Json Nat)).map
          Json.toJs).length ≤ 10 := by
    simp only [List.length_map]
    exact ⟨positive, count⟩
  rw [capabilities, Capabilities.toJson, Json.toJs_array, asArray_array,
    ok_bind, check_of lengthFits, ok_bind, List.map_map, values, ok_bind,
    sortUnique_val, orFail_some, ok_bind, require_of set.property, ok_bind]
  rfl

@[simp] theorem compileDesignRevisionPolicy_toJs
    (policy : DesignRevisionPolicy) :
    compileDesignRevisionPolicy policy.toJson.toJs = .ok policy := by
  have captured :
      snapshot policy.toJson.toJs = .ok policy.toJson.toJs :=
    snapshot_toJs policy.fits (by decide) (by decide) (by decide)
  have shape :
      exact policy.toJson.toJs
          ["capabilities", "digest", "format", "policyId", "projectId",
            "revision", "tenantId", "trustAnchor"] =
        .ok _ :=
    exact_object (by simp) (by simp)
  rw [compileDesignRevisionPolicy, captured, ok_bind, shape, ok_bind]
  simp

@[simp] theorem parseDesignRevisionGrantStatus_toJs :
    parseDesignRevisionGrantStatus status.toJson.toJs = .ok status := by
  have captured :
      snapshot status.toJson.toJs = .ok status.toJson.toJs :=
    snapshot_toJs status.fits (by decide) (by decide) (by decide)
  have shape :
      exact status.toJson.toJs ["epoch", "format", "grantId", "state"]
          ["revokedAt"] =
        .ok _ :=
    exact_object (by simp) (by simp)
  rw [parseDesignRevisionGrantStatus, captured, ok_bind, shape, ok_bind]
  obtain ⟨grantId, epoch, revokedAt⟩ := status
  cases revokedAt with
  | none => simp [DesignRevisionGrantStatus.stateName]
  | some revoked => simp [DesignRevisionGrantStatus.stateName, Json.word]

/-! ## Authorities -/

variable (authority : DesignRevisionAuthority)

theorem DesignRevisionAuthority.fits :
    Document.Fits authority.toJson 42 40000 2 :=
  .mono
    (.object
      (.entry (by decide) (fits_literal (by decide))
      (.entry (by decide) authority.tenantId.fits
      (.entry (by decide) authority.projectId.fits
      (.entry (by decide) authority.actorId.fits
      (.entry (by decide) authority.commandId.fits
      (.entry (by decide) authority.policyId.fits
      (.entry (by decide) (.number authority.policyRevision.val)
      (.entry (by decide) authority.policyDigest.fits
      (.entry (by decide) authority.revisionId.fits
      (.entry (by decide) (fits_binding authority.tupleBinding)
      (.entry (by decide) (fits_binding authority.revisionCommitment)
      (.entry (by decide) (Capabilities.fits authority.capabilities)
      (.entry (by decide) authority.grantId.fits
      (.entry (by decide) (.number authority.grantEpoch.val)
      (.entry (by decide) authority.issuer.fits
      (.entry (by decide) authority.audience.fits
      (.entry (by decide) (.number authority.schemaRevision.val)
      (.entry (by decide) authority.commandsDigest.fits
      (.entry (by decide) authority.issuedAt.fits
      (.entry (by decide) authority.expiresAt.fits
      (.optional (by decide) Instant.fits
      .nil))))))))))))))))))))))
    (by decide) (by decide) (by decide)

@[simp] theorem parseDesignRevisionAuthority_toJs :
    parseDesignRevisionAuthority authority.toJson.toJs =
      .ok authority := by
  have captured :
      snapshot authority.toJson.toJs = .ok authority.toJson.toJs :=
    snapshot_toJs authority.fits (by decide) (by decide) (by decide)
  have current :
      snapshotRejectingLegacyFormat authority.toJson.toJs
          "selene-design-revision-authority/v1" =
        .ok authority.toJson.toJs := by
    rw [snapshotRejectingLegacyFormat, captured, ok_bind]
    simp [DesignRevisionAuthority.toJson]
  have shape :
      exact authority.toJson.toJs
          ["actorId", "audience", "capabilities", "commandId",
            "commandsDigest", "expiresAt", "format", "grantId",
            "grantEpoch", "issuedAt", "issuer", "policyDigest", "policyId",
            "policyRevision", "projectId", "revisionCommitment",
            "revisionId", "schemaRevision", "tenantId", "tupleBinding"]
          ["revokedAt"] =
        .ok _ :=
    exact_object (by simp) (by simp)
  rw [parseDesignRevisionAuthority, current, ok_bind, shape, ok_bind]
  simp [-Option.map_subtype, optionally_word instant_val,
    require_of authority.expires]

/-! ## Heads -/

theorem DesignRevisionHead.fits (head : DesignRevisionHead) :
    Document.Fits head.toJson 6700 260000 5 :=
  .mono
    (.object
      (.entry (by decide) (fits_literal (by decide))
      (.entry (by decide) head.revision.revisionId.fits
      (.entry (by decide) (.number head.revision.sequence.val)
      (.entry (by decide) head.revision.createdAt.fits
      (.entry (by decide) (fits_binding head.revision.tupleBinding)
      (.entry (by decide)
        (DesignRevisionPrivacy.fits head.privacyBinding_eq)
      (.entry (by decide) (fits_binding head.privacyBinding)
      (.entry (by decide) head.revision.fits
      (.entry (by decide) (fits_binding head.revision.revisionCommitment)
      .nil))))))))))
    (by decide) (by decide) (by decide)

@[simp] theorem parseDesignRevisionHead_toJs (head : DesignRevisionHead) :
    parseDesignRevisionHead head.toJson.toJs = .ok head := by
  have shape :
      exact head.toJson.toJs
          ["createdAt", "format", "privacy", "privacyBinding", "revision",
            "revisionCommitment", "revisionId", "sequence",
            "tupleBinding"] =
        .ok _ :=
    exact_object (by simp) (by simp)
  rw [parseDesignRevisionHead, shape, ok_bind]
  simp [head.privacyBinding_eq, witnessed_of_ok head.privacyBinding_eq]

/-! ## States -/

theorem valueCost_commands
    (commands : List Identifier) :
    valueCost (.array (commands.map (Json.toJs ∘ Json.word)))
        true false false =
      { bytes := 0
        nodes := 1
        stateCommandBytes :=
          (commands.map fun command : Identifier =>
            utf8Length command.val).sum
        stateCommandNodes := 2 * commands.length } := by
  have items :
      itemsCost (commands.map (Json.toJs ∘ Json.word)) true =
        { SnapshotBudget.zero with
          stateCommandBytes :=
            (commands.map fun command : Identifier =>
              utf8Length command.val).sum
          stateCommandNodes := commands.length } := by
    induction commands with
    | nil => rfl
    | cons command rest inductionHypothesis =>
        rw [List.map_cons, itemsCost, inductionHypothesis]
        ext <;>
          simp [valueCost, scalarCost, bytesCost, isStringValue,
            SnapshotBudget.zero, Nat.add_comm]
  rw [valueCost, items]
  ext
  · simp [scalarCost, slotsCost, SnapshotBudget.zero]
  · simp [scalarCost, slotsCost, SnapshotBudget.zero]
  · simp [scalarCost, slotsCost, SnapshotBudget.zero]
  · simp [scalarCost, slotsCost, SnapshotBudget.zero]
    omega

theorem entriesCost_of_not_mem
    {record : Record}
    (absent : processedCommandIdsKey ∉ record.keys) :
    entriesCost record true = entriesCost record false := by
  induction record with
  | nil => rfl
  | cons entry rest inductionHypothesis =>
      obtain ⟨name, value⟩ := entry
      simp only [Record.keys_cons, List.mem_cons, not_or] at absent
      rw [entriesCost, entriesCost, inductionHypothesis absent.2,
        decide_eq_false (Ne.symm absent.1), Bool.and_false, Bool.and_false]

/-- The properties of a state before its command array. -/
def DesignRevisionState.scopeEntries (state : DesignRevisionState) :
    List (JsString × Json Nat) :=
  [(js "format", .text (js "selene-design-revision-state/v2")),
    (js "tenantId", .text state.tenantId.val),
    (js "projectId", .text state.projectId.val),
    (js "policy", state.policy.toJson),
    (js "grantStatus", state.grantStatus.toJson)]

/-- The property of a state after its command array. -/
def DesignRevisionState.headEntries (state : DesignRevisionState) :
    List (JsString × Json Nat) :=
  Json.optionalEntry (js "head") (state.head.map DesignRevisionHead.toJson)

theorem DesignRevisionState.toJson_toJs (state : DesignRevisionState) :
    state.toJson.toJs =
      .object (Json.toJsEntries state.scopeEntries ++
        (processedCommandIdsKey,
          .array (state.processedCommandIds.map (Json.toJs ∘ Json.word))) ::
        Json.toJsEntries state.headEntries) := by
  simp [toJson, scopeEntries, headEntries, processedCommandIdsKey]

theorem DesignRevisionState.fits_scopeEntries (state : DesignRevisionState) :
    Document.FitsEntries state.scopeEntries 44 4620 3 :=
  .entry (by decide) (fits_literal (by decide))
    (.entry (by decide) state.tenantId.fits
    (.entry (by decide) state.projectId.fits
    (.entry (by decide) state.policy.fits
    (.entry (by decide) state.grantStatus.fits
    .nil))))

theorem DesignRevisionState.fits_headEntries (state : DesignRevisionState) :
    Document.FitsEntries state.headEntries 6700 260040 6 := by
  have fits :
      Document.FitsEntries (state.headEntries ++ []) 6700 260040 6 :=
    .optional (by decide) DesignRevisionHead.fits .nil
  rwa [List.append_nil] at fits

theorem snapshotableItems_commands (commands : List Identifier) :
    SnapshotableItems (commands.map (Json.toJs ∘ Json.word)) 1 := by
  induction commands with
  | nil => trivial
  | cons command rest inductionHypothesis =>
      exact ⟨show 2 ≤ maxSnapshotDepth by decide, inductionHypothesis⟩

theorem DesignRevisionState.commandBytes_le (state : DesignRevisionState) :
    (state.processedCommandIds.map fun command : Identifier =>
      utf8Length command.val).sum ≤ maxCommands * 128 := by
  have each :
      (state.processedCommandIds.map fun command : Identifier =>
        utf8Length command.val).sum ≤
        (state.processedCommandIds.map fun _ : Identifier => 128).sum :=
    List.sum_le_sum fun command _ => command.utf8Length_le
  simp only [List.map_const', List.sum_replicate_nat] at each
  have bounded := state.boundedCommands
  omega

theorem stateSnapshot_toJs (state : DesignRevisionState) :
    stateSnapshot state.toJson.toJs = .ok state.toJson.toJs := by
  have scopeFits := state.fits_scopeEntries
  have headFits := state.fits_headEntries
  have scopeNames :
      processedCommandIdsKey ∉
        (Json.toJsEntries state.scopeEntries).keys := by
    simp [DesignRevisionState.scopeEntries, processedCommandIdsKey]
  have headNames :
      processedCommandIdsKey ∉
        (Json.toJsEntries state.headEntries).keys := by
    simp [DesignRevisionState.headEntries, processedCommandIdsKey]
  have bounded := state.boundedCommands
  have keyBytes : utf8Length processedCommandIdsKey ≤ 40 := by
    decide
  rw [DesignRevisionState.toJson_toJs]
  apply stateSnapshot_of_within
  · refine ⟨by decide, ?_, ?_⟩
    · rw [List.length_append, List.length_cons]
      have scopeLength :=
        Document.length_le_nodesEntries state.scopeEntries
      have headLength := Document.length_le_nodesEntries state.headEntries
      have scopeNodes := scopeFits.nodes
      have headNodes := headFits.nodes
      have limit : maxCommands = 10000 := rfl
      omega
    · rw [snapshotableEntries_append]
      constructor
      · exact Document.snapshotableEntries_toJs _ _
          (by
            rw [Nat.zero_add]
            exact scopeFits.height.trans (by decide))
          (scopeFits.nodes.trans (by decide))
      · refine ⟨⟨by decide, ?_, snapshotableItems_commands _⟩, ?_⟩
        · rw [List.length_map]
          exact bounded
        · exact Document.snapshotableEntries_toJs _ _
            (by
              rw [Nat.zero_add]
              exact headFits.height.trans (by decide))
            (headFits.nodes.trans (by decide))
  · rw [valueCost, entriesCost_append, entriesCost,
      entriesCost_of_not_mem scopeNames, entriesCost_of_not_mem headNames,
      Document.entriesCost_toJs, Document.entriesCost_toJs,
      decide_eq_true rfl, Bool.and_true, valueCost_commands]
    have commandBytes := state.commandBytes_le
    have scopeNodes := scopeFits.nodes
    have scopeBytes := scopeFits.bytes
    have headNodes := headFits.nodes
    have headBytes := headFits.bytes
    have byteLimit : maxSnapshotBytes = 1000000 := rfl
    have nodeLimit : maxSnapshotNodes = 10000 := rfl
    have commandByteLimit :
        maxStateCommandBytes = maxCommands * 128 + 4096 := rfl
    have commandNodeLimit :
        maxStateCommandSnapshotNodes = maxCommands * 2 + 1 := rfl
    constructor
    · simp [-List.map_subtype, scalarCost, bytesCost, SnapshotBudget.zero]
      omega
    · simp [-List.map_subtype, scalarCost, bytesCost, SnapshotBudget.zero]
      omega
    · simp [-List.map_subtype, scalarCost, bytesCost, SnapshotBudget.zero]
      omega
    · simp [-List.map_subtype, scalarCost, bytesCost, SnapshotBudget.zero]
      omega

@[simp] theorem parseDesignRevisionState_toJs (state : DesignRevisionState) :
    parseDesignRevisionState state.toJson.toJs = .ok state := by
  have shape :
      exact state.toJson.toJs
          ["format", "grantStatus", "policy", "processedCommandIds",
            "projectId", "tenantId"]
          ["head"] =
        .ok _ :=
    exact_object (by simp) (by simp)
  have commandValues :
      (state.processedCommandIds.map (Json.toJs ∘ Json.word)).mapM text =
        .ok state.processedCommandIds :=
    mapM_map_eq_ok text_val _
  have head :
      optionally parseDesignRevisionHead
          ((state.head.map
            (Json.toJs ∘ DesignRevisionHead.toJson)).getD .undefined) =
        .ok state.head :=
    optionally_getD (by simp [DesignRevisionHead.toJson])
      parseDesignRevisionHead_toJs _
  rw [parseDesignRevisionState, stateSnapshot_toJs, ok_bind, shape, ok_bind]
  simp [-Option.map_subtype, -List.map_subtype, -List.mapM_map,
    commandValues, head, state.boundedCommands,
    require_of state.distinctCommands, require_of state.inScope]

end Selene.Revision
