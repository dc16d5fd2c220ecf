import Outbox.Adapter.Badge
import Outbox.Adapter.Payroll
import Outbox.Adapter.Scripted

/-!
# Adapters

The adapters there are, and what they have in common: a name and a health.
-/

namespace Outbox

/-- An adapter. -/
inductive Adapter where
  /-- One with a script. -/
  | scripted (a : Scripted)
  /-- The one of the badge system. -/
  | badge (s : BadgeSystem)
  /-- The one of the payroll system. -/
  | payroll (p : Payroll)
  deriving DecidableEq

namespace Adapter

/-- The name of an adapter. -/
def name : Adapter → String
  | scripted a => a.name
  | badge _ => BadgeSystem.name
  | payroll _ => Payroll.name

/-- What happens when an adapter is asked for its health, where `send` gives the response
of the payroll system. -/
def health (send : PeerRequest → Option PeerResponse) : Adapter → Reaction Health
  | scripted a => a.health.health a.name
  | badge s => .answer .zero s.health
  | payroll p => .answer .zero (Id.run (p.health fun q => pure (send q)))

end Adapter

end Outbox
