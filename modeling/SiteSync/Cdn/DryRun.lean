import SiteSync.Cdn.Origin
import SiteSync.Cdn.Invalidation

/-!
# `SiteSync.Cdn.DryRun`: the patterns a trial run would invalidate

A trial run asks no distribution for its origin path and assumes that it
has none, so the bucket keys are the served paths.
-/

set_option autoImplicit false

namespace SiteSync.Cdn

/-- The reduction of changed bucket keys under a bucket path. -/
def dryRunReduction (bucketPath : Text) (force : Bool) (keys : List Text) : Reduction :=
  reduce (webRoot bucketPath []).root defaultThreshold force keys

end SiteSync.Cdn
