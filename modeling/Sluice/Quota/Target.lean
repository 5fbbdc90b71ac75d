import Sluice.Failure
import Sluice.Quota.Route
import Sluice.Url.Basic

/-!
# The bucket of a target

A request that names no bucket goes to the one of its method and of the template of its URL's path.
-/

namespace Sluice.Route

/-- The bucket of a method and a URL (`bucket_id_for`); a URL that cannot be read has none. -/
def bucketOf (r : Route) (method targetUrl : String) : Except Failure String :=
  match Url.parse targetUrl with
  | .ok url => .ok (r.key method url.path)
  | .error fault =>
    .error (.invalidConfig ("invalid target url " ++ targetUrl ++ ": " ++ fault.message))

end Sluice.Route
