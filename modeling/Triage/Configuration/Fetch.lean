import Triage.Configuration
import Triage.Tracker.Request

/-!
# The configuration of a tracker's repository
-/

namespace Triage.Configuration

/-- Fetches the configuration file of the tracker's repository and loads it. -/
def fetch (path : String) : Op Failure Configuration := do
  let text ← Tracker.contents path
  Op.ofExcept (load text)

end Triage.Configuration
