import NetboxOpenbao.Automation
import NetboxOpenbao.Operations

/-!
# Writes of tiers

The generic views create and update credential policies: the validated policy is saved as it is. Its engine is
a field like the others, and no check looks at the credentials on the tier.
-/

namespace NetboxOpenbao

/-- The settings with a policy saved under its number. -/
def Config.putPolicy (config : Config) (id : Nat) (policy : CredentialPolicy) : Config :=
  { config with policies := fun k => if k = id then some policy else config.policies k }

def Site.savePolicy (s : Site) (id : Nat) (policy : CredentialPolicy) : Site :=
  { s with db := { s.db with config := s.db.config.putPolicy id policy } }

/-- What happens next: a call on a credential, or a policy is created or updated. -/
inductive TierTurn where
  | call (c : Call)
  | savePolicy (id : Nat) (policy : CredentialPolicy)

def Site.turn [library : MaterialLibrary] (s : Site) : TierTurn → Site
  | .call c => s.step c
  | .savePolicy id policy => s.savePolicy id policy

end NetboxOpenbao
