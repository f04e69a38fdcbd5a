import SiteSync.Deploy.Deletion
import SiteSync.Deploy.Group
import SiteSync.Text.Quoted

/-!
# `SiteSync.Deploy.Basic`: a deploy from beginning to end

A deploy lists the bucket, finds the local files, brings them to the
bucket group by group, deletes the objects that have no file any more,
and tells the distributions what changed. The first error ends it;
nothing that was done is undone.
-/

set_option autoImplicit false

namespace SiteSync

/-- What a deploy works with. -/
structure Deployment (σ : Type) where
  /-- The checked settings. -/
  rules : Rules
  /-- The local files. -/
  source : LocalSource
  /-- The bucket. -/
  store : Store σ
  /-- The distributions, if any are to be told what changed. -/
  cdn : Option (Cdn σ) := none

/-- What comes of a deploy. -/
structure Report (σ : Type) where
  /-- The counters at the end, or the error that ended the deploy. -/
  result : Except Error Tally
  /-- The counters. -/
  tally : Tally
  /-- What has happened, the first of it first. -/
  events : List Event
  /-- The state of the collaborators. -/
  world : σ

namespace Deployment

variable {σ : Type}

/-- Lists the bucket. A listing that dies ends the deploy like a worker
that does. It stands for a store that panics, which would take the whole
program with it, and for a listing that never comes to an end, which the
program would wait for. -/
def list (d : Deployment σ) (r : RunState σ) : RunState σ × Except Error Inventory :=
  let start := d.rules.keyPrefix
  let r := r.emit (.call (.list start))
  let reply := d.store.list start r.world
  let r := r.absorb reply
  match reply.outcome with
  | .done v =>
    (r.say .debug .deployer (("Found " ++ toString v.size ++ " remote objects under ").toList ++
      Text.quote start), .ok v)
  | .failed cause => (r, .error (.list start cause))
  | .died => (r, .error .task)

/-- Drops the files that are left alone, and says so. -/
def keepFiles (d : Deployment σ) : List WalkedFile → RunState σ → RunState σ × List WalkedFile
  | [], r => (r, [])
  | f :: fs, r =>
    if d.rules.ignoresPath f.path then
      keepFiles d fs (r.say .debug .deployer (f.path ++ " ignored".toList))
    else
      let (r, kept) := keepFiles d fs r
      (r, f :: kept)

/-- Splits files into groups, in the order of the groups. -/
def groupsOf (d : Deployment σ) (files : List WalkedFile) : List (List WalkedFile) :=
  (List.range d.rules.groupCount).map fun i => files.filter (d.rules.groupOf ·.path == i)

/-- Finds the local files. -/
def walk (d : Deployment σ) (r : RunState σ) : RunState σ × Except Error (List WalkedFile) :=
  let (outcome, said) := d.source.walk d.rules.source d.rules.walkFilter
  let r := r.relay said
  match outcome with
  | .done files =>
    -- Files that are left alone are not read, and their objects stay.
    let (r, kept) := d.keepFiles files r
    (r, .ok kept)
  | .failed e => (r, .error e)
  | .died => (r, .error .task)

/-- Says which group comes next, if there are several. -/
def announceGroup (count number files : Nat) (r : RunState σ) : RunState σ :=
  if count ≤ 1 then r
  else
    let place := "group " ++ toString number ++ "/" ++ toString count
    (r.say .debug .deployer ("Processing " ++ place ++ " (" ++ toString files ++
      " files)").toList).emit (.progress (.message place.toList))

/-- Brings the groups to the bucket, one after the other. `number` is
the number of the first of them, from one. -/
def processGroups (d : Deployment σ) (schedule : Group.Schedule σ) :
    Nat → List (List WalkedFile) → RunState σ → RunState σ
  | _, [], r => r
  | number, files :: groups, r =>
    if files = [] then processGroups d schedule (number + 1) groups r
    else
      let r := announceGroup d.rules.groupCount number files.length r
      let r := Group.process d.source d.store d.rules schedule files r
      if r.cancelled then r else processGroups d schedule (number + 1) groups r

/-- The keys that may be deleted: those of the site that no file was
compared with and that are not left alone, in byte order. -/
def deleteCandidates (rules : Rules) (v : Inventory) : List Text :=
  Text.sort (v.keys.filter fun key => rules.isManaged key && !rules.ignoresKey key)

/-- Tells the distributions what changed. If they die, which stands for a
panic that would take the whole program with it, the deploy ends like one
whose worker dies. -/
def invalidate (d : Deployment σ) (r : RunState σ) : RunState σ × Except Error Unit :=
  match d.cdn with
  | none => (r, .ok ())
  | some cdn =>
    let keys := r.changed.sorted
    let r := r.emit (.call (.invalidate keys))
    let reply := cdn.invalidate keys r.world
    let r := r.absorb reply
    match reply.outcome with
    | .done () => (r, .ok ())
    | .failed cause => (r, .error (.cdn cause))
    | .died => (r, .error .task)

/-- Deletes, tells the distributions, and sums up. -/
def conclude (d : Deployment σ) (r : RunState σ) : RunState σ × Except Error Tally :=
  let candidates := deleteCandidates d.rules r.inventory
  match r.deleteKeys d.store candidates d.rules.maxDelete with
  | (r, .error e) => (r, .error e)
  | (r, .ok _) =>
    match d.invalidate r with
    | (r, .error e) => (r, .error e)
    | (r, .ok ()) => (r.say .info .deployer r.tally.summary.toList, .ok r.tally)

/-- All steps of a deploy. -/
def steps (d : Deployment σ) (schedule : Group.Schedule σ) (r : RunState σ) :
    RunState σ × Except Error Tally :=
  match d.list r with
  | (r, .error e) => (r, .error e)
  | (r, .ok inventory) =>
    match d.walk { r with inventory } with
    | (r, .error e) => (r, .error e)
    | (r, .ok files) =>
      let r := r.emit (.progress (.total files.length))
      let r := d.processGroups schedule 1 (d.groupsOf files) r
      match r.error with
      | some e => (r, .error e)
      | none => d.conclude r

/-- Deploys. -/
def run (d : Deployment σ) (schedule : Group.Schedule σ) (world : σ) : Report σ :=
  let (r, result) := d.steps schedule { world }
  let last := match result with
    | .ok t => Progress.finish t.summary.toList
    | .error _ => .abandon
  { result
    tally := r.tally
    events := (r.emit (.progress last)).trace.reverse
    world := r.world }

end Deployment

end SiteSync
