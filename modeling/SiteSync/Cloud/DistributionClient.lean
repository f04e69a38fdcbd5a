import SiteSync.Cdn.Escape
import SiteSync.Cloud.Service
import SiteSync.Store.DryRun

/-!
# `SiteSync.Cloud.DistributionClient`: telling distributions what changed

For every distribution its origin path is asked for, since that decides
under which paths the keys of the bucket are served. The served paths of
the changed keys are reduced to a few patterns, and those are escaped
and sent. The first request that fails is the last one.
-/

set_option autoImplicit false

namespace SiteSync.Cloud

/-- What can go wrong with a distribution. -/
inductive DistributionError where
  /-- The distribution could not be asked about. -/
  | distribution (id cause : Text)
  /-- The distribution has no origin. -/
  | noOrigin (id : Text)
  /-- The distribution did not take the patterns. -/
  | invalidation (id : Text) (count : Nat) (cause : Text)
deriving Repr, DecidableEq

/-- The text of an error. -/
def DistributionError.message : DistributionError → Text
  | .distribution id cause =>
    "Failed to get CloudFront distribution ".toList ++ id ++ [':', ' '] ++ cause
  | .noOrigin id => "CloudFront distribution ".toList ++ id ++ " has no origins".toList
  | .invalidation id count cause =>
    ("Failed to invalidate " ++ toString count ++ " paths on CloudFront distribution ").toList
      ++ id ++ [':', ' '] ++ cause

/-- The distributions of a site. -/
structure DistributionClient (σ : Type) where
  /-- The cloud. -/
  service : Service σ
  /-- The distributions. -/
  ids : List Text
  /-- The path of the site within the bucket. -/
  bucketPath : Text
  /-- Whether everything is to be forgotten, whatever changed. -/
  force : Bool
  /-- The text that tells the requests of this deploy from others: the
  time in fourteen digits. -/
  reference : Text

namespace DistributionClient

variable {σ : Type}

/-- The reduction of the changed keys for a distribution with an origin
path. -/
def reduction (c : DistributionClient σ) (originPath : Text) (keys : List Text) :
    Cdn.Reduction :=
  let web := Cdn.webRoot c.bucketPath originPath
  Cdn.reduce web.root Cdn.defaultThreshold c.force (keys.map (Cdn.servedPath · web.subPath))

/-- The request that makes a distribution forget some patterns. -/
def request (c : DistributionClient σ) (id : Text) (r : Cdn.Reduction) : InvalidationRequest :=
  let paths := r.patterns.map Cdn.escape
  ⟨id, paths.length, paths, c.reference⟩

/-- What is said of a request. -/
def announce (r : InvalidationRequest) : LogLine :=
  let what :=
    if 10 < r.paths.length then toString r.paths.length ++ " paths"
    else (Text.quoteList r.paths).str
  ⟨.info, .cdn, ("Create CloudFront invalidation request for " ++ what ++ " on ").toList
    ++ r.distribution⟩

/-- The path of the first origin of a distribution. -/
def originPath (c : DistributionClient σ) (id : Text) (s : σ) :
    Except DistributionError Text × σ :=
  match send (isDistribution id) (c.service.origins id) s with
  | (.error cause, s) => (.error (.distribution id cause), s)
  | (.ok [], s) => (.error (.noOrigin id), s)
  | (.ok (path :: _), s) => (.ok (path.getD []), s)

/-- Makes one distribution forget the changed keys. -/
def invalidateOne (c : DistributionClient σ) (keys : List Text) (id : Text) (s : σ) :
    Reply σ DistributionError Unit :=
  match c.originPath id s with
  | (.error e, s) => ⟨.failed e, s, []⟩
  | (.ok path, s) =>
    let reduction := c.reduction path keys
    let request := c.request id reduction
    let said := Cdn.exceedingLine reduction ++ [announce request]
    match send (isDistribution id) (c.service.invalidate request) s with
    | (.ok (), s) => ⟨.done (), s, said⟩
    | (.error cause, s) => ⟨.failed (.invalidation id request.quantity cause), s, said⟩

/-- Makes some distributions forget the changed keys, up to the first
that fails. -/
def invalidateAll (c : DistributionClient σ) (keys : List Text) :
    List Text → σ → Reply σ DistributionError Unit
  | [], s => ⟨.done (), s, []⟩
  | id :: ids, s =>
    let first := c.invalidateOne keys id s
    match first.outcome with
    | .done () =>
      let rest := invalidateAll c keys ids first.state
      { rest with said := first.said ++ rest.said }
    | _ => first

/-- Makes all distributions forget the changed keys. Without such keys
nothing is asked. -/
def invalidate (c : DistributionClient σ) (keys : List Text) (s : σ) :
    Reply σ DistributionError Unit :=
  if keys = [] then ⟨.done (), s, []⟩ else c.invalidateAll keys c.ids s

/-- The distributions as a deploy sees them. -/
def cdn (c : DistributionClient σ) : Cdn σ where
  invalidate := fun keys s =>
    let r := c.invalidate keys s
    { outcome := match r.outcome with
        | .done a => .done a
        | .failed e => .failed e.message
        | .died => .died
      state := r.state
      said := r.said }

end DistributionClient

end SiteSync.Cloud
