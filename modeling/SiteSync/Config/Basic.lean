import SiteSync.Config.File
import SiteSync.Rules

/-!
# `SiteSync.Config.Basic`: the configuration of a deploy

A configuration collects what the command line and the configuration
file say. `Config.check` turns it into rules, or says what is wrong with
it; of several faults the first in the order of its steps is reported.
-/

set_option autoImplicit false

namespace SiteSync

/-- The settings of a deploy before they are checked. -/
structure Config where
  /-- The local directory to deploy; the current one if absent. -/
  source : Option Text := none
  /-- The bucket to deploy to. -/
  bucket : Text := []
  /-- The path of the site within the bucket. -/
  bucketPath : Text := []
  /-- The region of the bucket. -/
  region : Option Text := none
  /-- The name of the access key. -/
  accessKey : Option Text := none
  /-- The secret of the access key. -/
  secretKey : Option Text := none
  /-- How many files are uploaded at a time. -/
  workers : Option Nat := none
  /-- How many objects may be deleted in one deploy. -/
  maxDelete : Nat := 256
  /-- Whether files are uploaded without being compared. -/
  force : Bool := false
  /-- Whether the deploy only reports what it would do. -/
  tryRun : Bool := false
  /-- The access rule of uploaded files. -/
  acl : Option Text := none
  /-- Whether everybody may read uploaded files. -/
  publicAccess : Bool := false
  /-- The pattern of the files to leave alone. -/
  ignore : Option Text := none
  /-- The pattern of the local files to skip. -/
  skipFiles : Text := WalkFilter.defaultSkipFiles
  /-- The pattern of the local directories to skip. -/
  skipDirs : Text := WalkFilter.defaultSkipDirs
  /-- The distributions to tell what changed. -/
  distributions : List Text := []
  /-- The routes of the configuration file. -/
  routes : List RouteSettings := []
  /-- The upload groups of the configuration file. -/
  order : List Text := []
deriving Repr, DecidableEq

namespace Config

/-- Fills the settings that are not given yet from a configuration
file. -/
def merge (c : Config) (s : FileSettings) : Config where
  source := c.source.or s.source
  bucket := if c.bucket = [] then s.bucket.getD [] else c.bucket
  bucketPath := if c.bucketPath = [] then s.path.getD [] else c.bucketPath
  region := c.region.or s.region
  accessKey := c.accessKey.or s.key
  secretKey := c.secretKey.or s.secret
  workers := c.workers
  maxDelete := c.maxDelete
  force := c.force
  tryRun := c.tryRun
  acl := c.acl
  publicAccess := c.publicAccess
  ignore := c.ignore
  skipFiles := c.skipFiles
  skipDirs := c.skipDirs
  distributions := c.distributions
  routes := c.routes
  order := c.order

/-- Fills the settings from a configuration file and takes its routes
and upload groups. -/
def withFile (c : Config) (f : FileConfig) : Config :=
  { c.merge f.settings with routes := f.routes, order := f.order }

/-- The current directory. -/
def currentDirectory : Text := ['.']

/-- The local directory to deploy. -/
def sourcePath (c : Config) : Text := c.source.getD currentDirectory

/-- Whether a path is a way to write the root of the file system: it is
absolute and all its segments are empty or `.`. -/
def isRoot (path : Text) : Bool :=
  Path.isAbsolute path && (Path.segments path).all fun s => s == [] || s == ['.']

/-- The access rule that lets everybody read. -/
def publicRead : Text := "public-read".toList

/-- The access rule of uploaded files. -/
def effectiveAcl (c : Config) : Option Text :=
  c.acl.or (if c.publicAccess then some publicRead else none)

/-- The number of workers, if a positive one is given. -/
def chosenWorkers (c : Config) : Option Nat := c.workers.filter (0 < ·)

/-- The first fault of the settings other than the patterns. -/
def fault? (c : Config) : Option ConfigFault :=
  if c.bucket = [] then some .noBucket
  else if isRoot c.sourcePath then some .sourceIsRoot
  else if c.acl.isSome && c.publicAccess then some .twoAccessRules
  else none

/-- Compiles the pattern of the files to leave alone; an empty pattern
is none. -/
def compileIgnore (c : Config) : Except Error (Option Pattern.Expr) :=
  match c.ignore with
  | none => .ok none
  | some pattern =>
    if pattern = [] then .ok none else some <$> compilePattern "'ignore' flag" pattern

/-- Checks the settings and compiles the patterns. `parallelism` is the
number of workers if none is given. -/
def check (c : Config) (parallelism : Nat) : Except Error Rules := do
  match c.fault? with
  | some fault => .error (.config fault)
  | none =>
    -- Of several faulty patterns the first in this order is reported.
    let ignore ← c.compileIgnore
    let order ← c.order.mapM (compilePattern "order")
    let routes ← Routes.compile c.routes
    let walkFilter ← WalkFilter.compile c.skipFiles c.skipDirs
    pure {
      source := c.sourcePath
      bucketPath := Path.trimSlashes c.bucketPath
      routes, order, ignore, walkFilter
      acl := c.effectiveAcl
      workers := c.chosenWorkers.getD (max 1 parallelism)
      maxDelete := c.maxDelete
      force := c.force }

end Config

end SiteSync
