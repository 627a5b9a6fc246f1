import Selene.ExtensionValidation

/-!
# Extension plans

`createExtensionPlan` validates manifests and lists them with their merged
configurations in topological order, together with the lifecycle events of all
of them.
-/

namespace Selene.Extension

open Js Generation

structure ResolvedExtension where
  manifest : Record
  configuration : Record

structure ExtensionPlan where
  extensions : List ResolvedExtension
  lifecycle : List JsValue

/-- A plan with the policy it was made under, as the kernel remembers it. -/
structure PlanRecord where
  plan : ExtensionPlan
  policy : ExtensionPolicy

def ResolvedExtension.toJs (extension : ResolvedExtension) : JsValue :=
  .object
    [(js "configuration", .object extension.configuration),
      (js "manifest", .object extension.manifest)]

def ExtensionPlan.toJs (plan : ExtensionPlan) : JsValue :=
  .object
    [(js "extensions", .array (plan.extensions.map ResolvedExtension.toJs)),
      (js "lifecycle", .array plan.lifecycle)]

def ResolvedExtension.ofJs (value : JsValue) : ResolvedExtension where
  manifest := (value.entries.get (js "manifest")).entries
  configuration := (value.entries.get (js "configuration")).entries

/-- The fields of a snapshot of a plan. -/
def ExtensionPlan.ofJs (value : JsValue) : ExtensionPlan where
  extensions :=
    ((value.entries.get (js "extensions")).elements?.getD []).map
      ResolvedExtension.ofJs
  lifecycle := (value.entries.get (js "lifecycle")).elements?.getD []

section Format

variable (format : NumberFormat)

/-- The event of a lifecycle command. -/
def lifecycleEvent (extension : ResolvedExtension) (command : JsValue) :
    JsValue :=
  let fields := command.entries
  .object
    ([(js "extensionId", extension.manifest.get (js "id")),
        (js "event", fields.get (js "event")),
        (js "commandId", fields.get (js "id"))] ++
      (if IsUndefined (fields.get (js "capability")) then []
        else [(js "capability", fields.get (js "capability"))]) ++
      [(js "input", .object
        (Record.spread (Record.spread [] extension.configuration)
          (fields.get (js "input")).entries))])

/-- The events of an extension, by the ids of their commands. -/
def lifecycleOf (extension : ResolvedExtension) : List JsValue :=
  (sortByText format (fun command => command.entries.get (js "id"))
    ((listProperty extension.manifest "lifecycle").getD [])).map
    (lifecycleEvent extension)

/-- The manifest of an id with its merged configuration. -/
def resolveExtension (configurations : Record) (manifests : ManifestsById)
    (id : JsString) : Except ExtensionFailure ResolvedExtension := do
  let manifest ← orThrow (manifests.find? id)
  match ← suppliedConfiguration format configurations manifest with
  | .error found => .error (issuedError format [found])
  | .ok configuration => .ok { manifest, configuration }

/-- The plan of manifests that were normalized and validated. -/
def planExtensions (policy : ExtensionPolicy) (configurations : Record)
    (manifests : List Record) : Except ExtensionFailure PlanRecord := do
  let known := byId manifests
  match topologicalOrder format known with
  | .error found => .error (issuedError format [found])
  | .ok orderedIds => do
      let extensions ←
        orderedIds.mapM (resolveExtension format configurations known)
      let lifecycle := extensions.flatMap (lifecycleOf format)
      if maxExtensionLifecycleEvents < lifecycle.length then
        .error (issuedError format [issue format .invalidManifest []
          (js "at most 256 lifecycle events may be planned at once")])
      else do
        let plan ← snap (ExtensionPlan.toJs { extensions, lifecycle })
        .ok { plan := ExtensionPlan.ofJs plan, policy := policy }

/-- Make a plan, or throw; the kernel remembers what it returns. -/
def createExtensionPlan (manifests policy configurations : JsValue) :
    Except ExtensionFailure PlanRecord := do
  let issues ← validateExtensions format manifests policy configurations
  if issues ≠ [] then
    .error (issuedError format issues)
  else do
    let normalized := normalizeManifests format manifests
    match ← normalizePolicy format policy with
    | .error found =>
        .error (issuedError format (boundedIssues (normalized.issues ++ [found])))
    | .ok normalizedPolicy =>
        if normalized.issues ≠ [] then
          .error (issuedError format (boundedIssues normalized.issues))
        else
          match normalizeConfigurations configurations with
          | none =>
              .error (issuedError format [issue format .invalidConfig []
                (js "configurations must be bounded plain JSON data")])
          | some normalizedConfigurations =>
              planExtensions format normalizedPolicy normalizedConfigurations
                normalized.manifests

end Format

end Selene.Extension
