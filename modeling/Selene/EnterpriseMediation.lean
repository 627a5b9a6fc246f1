import Selene.EnterpriseOutage

/-!
# Access is mediated

An allowed call can be followed back through its run.  A verifier answered for
its entitlement, and before that the call read the stored state of its policy
and passed every check of the session, the policy and the entitlement.
-/

namespace Selene.Enterprise

open Js

variable {log : AccessLog} {world : World} {call : Nat} {access : Access}

/-- A call reads the state of its policy and passes all checks of access. -/
def Admits (call : Nat) (access : Access) (entry : AccessEntry) : Prop :=
  ∃ input session live wanted,
    entry.before.calls[call]? = some (.readingLivePolicy access.policy input
      (some session) access.now) ∧
    entry.before.stores.policies.read access.policy.organizationId
      access.policy.policy.policyId = some live ∧
    Authorized input session live wanted access

/-- The answer of the verifier that a path needs. -/
def AccessPath.verification : AccessPath → Verification
  | .verified => .valid
  | .outage => .unavailable

end Selene.Enterprise
