import Selene.DesignRevisionSealing

/-!
# Canonical revisions

The result of `parseDesignRevision` depends neither on the order of the keys of
an object nor on that of the elements of an array: what a snapshot charges is a
sum, properties are read by name, and every array is sorted.  `Leads` relates
two computations of which the second succeeds with the result of the first.
-/

namespace Selene.Revision

open Js

variable {first second : JsValue}

/-! ## Snapshots -/

theorem sameCost_of_reordered
    (reordered : Reordered first second) :
    valueCost first false false false =
        valueCost second false false false ∧
      ∀ depth, Snapshotable first depth → Snapshotable second depth := by
  induction reordered with
  | refl value => exact ⟨rfl, fun _ shape => shape⟩
  | trans _ _ before after =>
      exact ⟨before.1.trans after.1,
        fun depth shape => after.2 depth (before.2 depth shape)⟩
  | swapItems before first second after =>
      constructor
      · simp only [valueCost, List.length_append, List.length_cons,
          itemsCost_append, itemsCost]
        rw [← SnapshotBudget.add_assoc _ _ (itemsCost after false),
          SnapshotBudget.add_comm (valueCost first _ _ _),
          SnapshotBudget.add_assoc]
      · intro depth shape
        simp only [Snapshotable, List.length_append, List.length_cons,
          snapshotableItems_append, SnapshotableItems] at shape ⊢
        tauto
  | swapEntries before firstName secondName first second after _ =>
      constructor
      · simp only [valueCost, entriesCost_append, entriesCost,
          Bool.false_and]
        ext <;> simp <;> omega
      · intro depth shape
        simp only [Snapshotable, List.length_append, List.length_cons,
          snapshotableEntries_append, SnapshotableEntries] at shape ⊢
        tauto
  | item before after _ inside =>
      constructor
      · simp only [valueCost, List.length_append, List.length_cons,
          itemsCost_append, itemsCost, Bool.false_and, inside.1]
      · intro depth shape
        simp only [Snapshotable, List.length_append, List.length_cons,
          snapshotableItems_append, SnapshotableItems] at shape ⊢
        obtain ⟨shallow, short, beforeShape, itemShape, afterShape⟩ := shape
        exact ⟨shallow, short, beforeShape, inside.2 _ itemShape, afterShape⟩
  | entry before name after _ inside =>
      constructor
      · simp only [valueCost, entriesCost_append, entriesCost,
          Bool.false_and, inside.1]
      · intro depth shape
        simp only [Snapshotable, List.length_append, List.length_cons,
          snapshotableEntries_append, SnapshotableEntries] at shape ⊢
        obtain ⟨shallow, short, beforeShape, valueShape, afterShape⟩ := shape
        exact ⟨shallow, short, beforeShape, inside.2 _ valueShape,
          afterShape⟩

/-! ## Computations with the same result -/

/-- If the first computation succeeds, the second has the same result. -/
def Leads {α : Type} (first second : Checked α) : Prop :=
  ∀ result, first = .ok result → second = .ok result

namespace Leads

variable {α β : Type}

protected theorem refl (computation : Checked α) :
    Leads computation computation :=
  fun _ succeeded => succeeded

protected theorem bind
    {first second : Checked α}
    {firstNext secondNext : α → Checked β}
    (leads : Leads first second)
    (nextLeads : ∀ value, Leads (firstNext value) (secondNext value)) :
    Leads (first >>= firstNext) (second >>= secondNext) := by
  intro result succeeded
  obtain ⟨value, firstOk, nextOk⟩ := bind_eq_ok.mp succeeded
  exact bind_eq_ok.mpr
    ⟨value, leads value firstOk, nextLeads value result nextOk⟩

protected theorem check
    {condition weaker : Prop}
    [Decidable condition]
    [Decidable weaker]
    {code : ValidationCode}
    (implies : condition → weaker) :
    Leads (check condition code) (check weaker code) := by
  intro passed succeeded
  exact check_eq_ok.mpr (implies (check_eq_ok.mp succeeded))

end Leads

/-- A parser whose result does not depend on the order of keys and elements. -/
def Stable {α : Type} (parse : JsValue → Checked α) : Prop :=
  ∀ {first second : JsValue},
    Reordered first second → Leads (parse first) (parse second)

/-- Strings, numbers and other values without parts. -/
def IsScalar : JsValue → Prop
  | .array _ => False
  | .object _ => False
  | _ => True

theorem eq_of_reordered_scalar
    (scalar : IsScalar first)
    (reordered : Reordered first second) :
    second = first := by
  have shape := reordered.shape
  cases first <;> first | exact scalar.elim | exact shape

variable {firstInput secondInput : Record} {α : Type} {β : Type}
  {parse : JsValue → Checked α}

theorem stable_of_scalar
    (scalar : ∀ value result, parse value = .ok result → IsScalar value) :
    Stable parse := by
  intro first second reordered result succeeded
  rw [eq_of_reordered_scalar (scalar first result succeeded) reordered]
  exact succeeded

theorem stable_of_string
    (string : ∀ value result, parse value = .ok result →
      ∃ text, value = .string text) :
    Stable parse :=
  stable_of_scalar fun value result succeeded => by
    obtain ⟨text, rfl⟩ := string value result succeeded
    trivial

theorem stable_text : Stable text :=
  stable_of_string fun _ _ succeeded => ⟨_, text_eq_ok.mp succeeded⟩

theorem stable_digest : Stable digest :=
  stable_of_string fun _ _ succeeded => ⟨_, digest_eq_ok.mp succeeded⟩

theorem stable_instant : Stable instant :=
  stable_of_string fun _ _ succeeded => ⟨_, instant_eq_ok.mp succeeded⟩

theorem stable_binding (limit : Nat) (prefixes : List String) :
    Stable (binding limit prefixes) :=
  stable_of_string fun _ _ succeeded => ⟨_, binding_eq_ok.mp succeeded⟩

theorem stable_tupleBinding : Stable tupleBinding :=
  stable_binding _ _

theorem stable_privacyBinding : Stable privacyBinding :=
  stable_binding _ _

theorem stable_revisionCommitment : Stable revisionCommitment :=
  stable_binding _ _

theorem stable_literal
    (α : Type)
    [Literal α]
    (code : ValidationCode) :
    Stable fun value => orFail (Literal.parse value : Option α) code :=
  stable_of_string fun _ _ succeeded =>
    ⟨_, Literal.parse_eq_some.mp (orFail_eq_ok.mp succeeded)⟩

theorem stable_integer : Stable integer := by
  apply stable_of_scalar
  intro value result succeeded
  cases value with
  | array items => cases succeeded
  | object entries => cases succeeded
  | _ => trivial

theorem isUndefined_iff_of_reordered
    (reordered : Reordered first second) :
    IsUndefined first ↔ IsUndefined second := by
  have stays :
      ∀ {first second : JsValue}, Reordered first second →
        IsUndefined first → IsUndefined second := by
    intro first second reordered isUndefined
    cases first <;> try exact isUndefined.elim
    rw [@eq_of_reordered_scalar .undefined _ trivial reordered]
    trivial
  exact ⟨stays reordered, stays reordered.symm⟩

theorem isText_iff_of_reordered
    (reordered : Reordered first second)
    (expected : JsString) :
    IsText first expected ↔ IsText second expected := by
  have stays :
      ∀ {first second : JsValue}, Reordered first second →
        IsText first expected → IsText second expected := by
    intro first second reordered isText
    rw [isText.eq] at reordered
    rw [@eq_of_reordered_scalar (.string expected) _ trivial reordered]
    exact rfl
  exact ⟨stays reordered, stays reordered.symm⟩

theorem Stable.optionally
    (stable : Stable parse) :
    Stable (optionally parse) := by
  intro first second reordered result succeeded
  rcases optionally_eq_ok succeeded with
    ⟨rfl, rfl⟩ | ⟨present, value, parsed, rfl⟩
  · rw [@eq_of_reordered_scalar .undefined _ trivial reordered]
    rfl
  · have secondPresent : second ≠ .undefined := by
      rintro rfl
      have missing :=
        (isUndefined_iff_of_reordered reordered).mpr isUndefined_undefined
      cases first with
      | undefined => exact present rfl
      | _ => exact missing.elim
    exact optionally_of_ok secondPresent (stable reordered value parsed)

/-! ## Objects and arrays -/

theorem Leads.exact
    {required optional : List String}
    {firstNext secondNext : Record → Checked β}
    (reordered : Reordered first second)
    (nextLeads : ∀ firstInput secondInput,
      Reordered.RecordReordered firstInput secondInput →
        Leads (firstNext firstInput) (secondNext secondInput)) :
    Leads (exact first required optional >>= firstNext)
      (exact second required optional >>= secondNext) := by
  intro result succeeded
  obtain ⟨firstInput, firstOk, nextOk⟩ := bind_eq_ok.mp succeeded
  obtain ⟨rfl, allowed, present⟩ := exact_eq_ok.mp firstOk
  obtain ⟨secondInput, rfl, record⟩ := reordered.shape
  have secondOk :
      Revision.exact (.object secondInput) required optional =
        .ok secondInput :=
    exact_object
      (fun key member => allowed key (record.keys.mem_iff.mpr member))
      (fun name isRequired =>
        record.keys.mem_iff.mp (present name isRequired))
  rw [secondOk, ok_bind]
  exact nextLeads firstInput secondInput record result nextOk

theorem Leads.asArray
    {code : ValidationCode}
    {firstNext secondNext : List JsValue → Checked β}
    (reordered : Reordered first second)
    (nextLeads : ∀ firstItems secondItems,
      Reordered.ItemsReordered firstItems secondItems →
        Leads (firstNext firstItems) (secondNext secondItems)) :
    Leads (asArray first code >>= firstNext)
      (asArray second code >>= secondNext) := by
  intro result succeeded
  obtain ⟨firstItems, firstOk, nextOk⟩ := bind_eq_ok.mp succeeded
  obtain rfl := asArray_eq_ok.mp firstOk
  obtain ⟨secondItems, rfl, items⟩ := reordered.shape
  exact nextLeads firstItems secondItems items result nextOk

theorem mapM_of_reordered
    {first second : List JsValue}
    {values : List α}
    (stable : Stable parse)
    (related : List.Forall₂ Reordered first second)
    (parsed : first.mapM parse = .ok values) :
    second.mapM parse = .ok values := by
  rw [mapM_eq_ok] at parsed ⊢
  induction related generalizing values with
  | nil =>
      cases parsed
      exact .nil
  | cons reordered _ inductionHypothesis =>
      cases parsed with
      | cons itemParsed restParsed =>
          exact .cons (stable reordered _ itemParsed)
            (inductionHypothesis restParsed)

/-- Elements that are parsed and sorted have one canonical order. -/
theorem Leads.sorted
    {α κ β : Type}
    [LinearOrder κ]
    {parse : JsValue → Checked α}
    {key : α → κ}
    {code : ValidationCode}
    {first second : List JsValue}
    {firstNext secondNext : StrictlySorted key → Checked β}
    (stable : Stable parse)
    (reordered : Reordered.ItemsReordered first second)
    (nextLeads : ∀ values, Leads (firstNext values) (secondNext values)) :
    Leads
      (first.mapM parse >>= fun values =>
        orFail (sortUnique key values) code >>= firstNext)
      (second.mapM parse >>= fun values =>
        orFail (sortUnique key values) code >>= secondNext) := by
  intro result succeeded
  obtain ⟨values, firstOk, rest⟩ := bind_eq_ok.mp succeeded
  obtain ⟨sorted, isSorted, nextOk⟩ := bind_eq_ok.mp rest
  obtain ⟨middle, related, permutation⟩ := reordered
  have middleOk : middle.mapM parse = .ok values :=
    mapM_of_reordered stable related firstOk
  obtain ⟨others, secondOk, valuesPerm⟩ := mapM_perm middleOk permutation
  rw [secondOk, ok_bind, ← sortUnique_eq_of_perm valuesPerm, isSorted,
    ok_bind]
  exact nextLeads sorted result nextOk

theorem Leads.snapshot
    {firstNext secondNext : JsValue → Checked β}
    (reordered : Reordered first second)
    (nextLeads : Leads (firstNext first) (secondNext second)) :
    Leads (snapshot first >>= firstNext)
      (snapshot second >>= secondNext) := by
  intro result succeeded
  obtain ⟨captured, firstOk, nextOk⟩ := bind_eq_ok.mp succeeded
  obtain ⟨rfl, shape, within⟩ := snapshot_eq_ok.mp firstOk
  obtain ⟨sameCost, sameShape⟩ := sameCost_of_reordered reordered
  have secondOk : Revision.snapshot second = .ok second :=
    snapshot_eq_ok.mpr ⟨rfl, sameShape 0 shape, sameCost ▸ within⟩
  rw [secondOk, ok_bind]
  exact nextLeads result nextOk

theorem Leads.property
    {α β : Type}
    {parse : JsValue → Checked α}
    {firstNext secondNext : α → Checked β}
    (stable : Stable parse)
    (record : Reordered.RecordReordered firstInput secondInput)
    (key : JsString)
    (nextLeads : ∀ value, Leads (firstNext value) (secondNext value)) :
    Leads (parse (firstInput.get key) >>= firstNext)
      (parse (secondInput.get key) >>= secondNext) :=
  .bind (stable (record.get key)) nextLeads

theorem Leads.format
    {code : ValidationCode}
    {firstNext secondNext : Unit → Checked β}
    (record : Reordered.RecordReordered firstInput secondInput)
    (key expected : JsString)
    (nextLeads : ∀ passed, Leads (firstNext passed) (secondNext passed)) :
    Leads
      (check (IsText (firstInput.get key) expected) code >>= firstNext)
      (check (IsText (secondInput.get key) expected) code >>= secondNext) :=
  .bind
    (.check (isText_iff_of_reordered (record.get key) expected).mp) nextLeads

/-! ## The parsers -/

theorem stable_parseDesignPrivacyTransition :
    Stable parseDesignPrivacyTransition := by
  intro first second reordered
  refine .snapshot reordered (.exact reordered ?_)
  intro firstInput secondInput record
  refine .format record _ _ fun _ => ?_
  refine .property (stable_literal _ _) record _ fun _ => ?_
  refine .property (stable_literal _ _) record _ fun _ => ?_
  refine .property stable_digest.optionally record _ fun _ => ?_
  refine .property stable_text.optionally record _ fun _ => ?_
  refine .property stable_tupleBinding.optionally record _ fun _ => ?_
  refine .property stable_privacyBinding.optionally record _ fun _ => ?_
  refine .bind (.refl _) fun _ => .bind (.refl _) fun _ => ?_
  refine .property stable_instant record _ fun _ => ?_
  exact .property stable_text record _ fun _ => .refl _

theorem stable_parseDesignPrivacyField :
    Stable parseDesignPrivacyField := by
  intro first second reordered
  refine .exact reordered ?_
  intro firstInput secondInput record
  refine .property (stable_literal _ _) record _ fun _ => ?_
  refine .property (stable_literal _ _) record _ fun _ => ?_
  exact .property stable_digest record _ fun _ => .refl _

theorem stable_parseTelemetryPolicy :
    Stable parseTelemetryPolicy := by
  intro first second reordered
  refine .exact reordered ?_
  intro firstInput secondInput record
  refine .format record _ _ fun _ => ?_
  refine .format record _ _ fun _ => ?_
  refine .asArray (record.get _) fun firstItems secondItems items => ?_
  refine .sorted (stable_literal _ _) items fun fields => ?_
  simp only [isText_iff_of_reordered (record.get _)]
  exact .refl _

theorem stable_privacy :
    Stable privacy := by
  intro first second reordered
  refine .exact reordered ?_
  intro firstInput secondInput record
  refine .format record _ _ fun _ => ?_
  refine .property (stable_literal _ _) record _ fun _ => ?_
  refine .property (stable_literal _ _) record _ fun _ => ?_
  refine .asArray (record.get _) fun firstFields secondFields fields => ?_
  refine .asArray (record.get _)
    fun firstExclusions secondExclusions exclusions => ?_
  refine .property stable_digest.optionally record _ fun _ => ?_
  refine .property stable_parseDesignPrivacyTransition.optionally record _
    fun _ => ?_
  refine .property stable_text record _ fun _ => ?_
  refine .bind (.refl _) fun _ => ?_
  refine .sorted stable_parseDesignPrivacyField fields fun _ => ?_
  refine .sorted stable_text exclusions fun _ => ?_
  refine .bind (.refl _) fun _ => ?_
  refine .property stable_parseTelemetryPolicy record _ fun _ => ?_
  refine .exact (record.get _) fun firstRetention secondRetention
    retention => ?_
  refine .exact (record.get _) fun firstDeletion secondDeletion
    deletion => ?_
  refine .format deletion _ _ fun _ => ?_
  refine .property stable_digest record _ fun _ => ?_
  refine .property stable_instant retention _ fun _ => ?_
  refine .property stable_digest deletion _ fun _ => ?_
  exact .property stable_digest record _ fun _ => .refl _

theorem stable_deployment :
    Stable deployment := by
  intro first second reordered
  refine .exact reordered ?_
  intro firstInput secondInput record
  refine .format record _ _ fun _ => ?_
  refine .property stable_digest record _ fun _ => ?_
  simp only [isText_iff_of_reordered (record.get _),
    isUndefined_iff_of_reordered (record.get _)]
  split
  · exact .property stable_text record _ fun _ => .refl _
  · split
    · exact .property stable_text record _ fun _ => .refl _
    · exact .refl _

theorem stable_tuple :
    Stable tuple := by
  intro first second reordered
  refine .exact reordered ?_
  intro firstInput secondInput record
  refine .exact (record.get _) fun firstPreview secondPreview preview => ?_
  refine .exact (record.get _)
    fun firstCompiler secondCompiler compiler => ?_
  refine .format preview _ _ fun _ => ?_
  refine .format compiler _ _ fun _ => ?_
  refine .property stable_digest record _ fun _ => ?_
  refine .property stable_digest record _ fun _ => ?_
  refine .property stable_digest record _ fun _ => ?_
  refine .property stable_digest record _ fun _ => ?_
  refine .property stable_digest record _ fun _ => ?_
  refine .property stable_deployment record _ fun _ => ?_
  refine .property stable_text preview _ fun _ => ?_
  refine .property stable_digest preview _ fun _ => ?_
  refine .property stable_text compiler _ fun _ => ?_
  exact .property stable_digest compiler _ fun _ => .refl _

theorem stable_parseDesignRevision :
    Stable parseDesignRevision := by
  intro first second reordered
  refine .snapshot reordered (.exact reordered ?_)
  intro firstInput secondInput record
  refine .format record _ _ fun _ => ?_
  refine .property stable_tuple record _ fun _ => ?_
  refine .property stable_text.optionally record _ fun _ => ?_
  refine .bind (.refl _) fun _ => ?_
  refine .property stable_tupleBinding.optionally record _ fun _ => ?_
  refine .bind (.refl _) fun _ => ?_
  refine .property stable_text record _ fun _ => ?_
  refine .property stable_text record _ fun _ => ?_
  refine .property stable_text record _ fun _ => ?_
  refine .property stable_integer record _ fun _ => ?_
  refine .property stable_instant record _ fun _ => ?_
  refine .property stable_privacy record _ fun _ => ?_
  refine .bind (.refl _) fun _ => ?_
  exact .property stable_revisionCommitment.optionally record _
    fun _ => .refl _

/--
Accepted revisions are canonical: commitments are equal exactly when the
revisions are, a revision parses to itself, and neither the order of keys nor
that of array elements matters.
-/
theorem parseDesignRevision_canonical
    {first second : JsValue}
    {firstRevision secondRevision : DesignRevision}
    (firstParsed : parseDesignRevision first = .ok firstRevision)
    (_ : parseDesignRevision second = .ok secondRevision) :
    (firstRevision.revisionCommitment =
          secondRevision.revisionCommitment ↔
        firstRevision = secondRevision) ∧
      parseDesignRevision firstRevision.toJson.toJs = .ok firstRevision ∧
      ∀ other, Reordered first other →
        parseDesignRevision other = .ok firstRevision := by
  refine ⟨⟨DesignRevision.eq_of_commitment_eq, ?_⟩,
    parseDesignRevision_toJs firstRevision, ?_⟩
  · rintro rfl
    rfl
  · intro other reordered
    exact stable_parseDesignRevision reordered firstRevision firstParsed

/-- The first two properties of a revision may be exchanged. -/
theorem parseDesignRevision_canonical_sample :
    ∃ first second rest,
      sampleRevision.toJson.toJs = .object (first :: second :: rest) ∧
        first.1 = js "format" ∧ second.1 = js "tenantId" ∧
        parseDesignRevision (.object (second :: first :: rest)) =
          .ok sampleRevision := by
  have accepted := parseDesignRevision_toJs sampleRevision
  have canonical := parseDesignRevision_canonical accepted accepted
  refine ⟨_, _, _, rfl, rfl, rfl, canonical.2.2 _ ?_⟩
  exact .swapEntries [] _ _ _ _ _ (by decide)

end Selene.Revision
