import SiteSync.Cloud.BucketClient
import SiteSync.Cloud.DistributionClient
import SiteSync.CommandLine.Given
import SiteSync.Deploy.Basic

/-!
# `SiteSync.CommandLine.Program`: what the command line does

The program reads its configuration file, checks the settings, deploys,
and prints the line that sums the deploy up, also after an error.
-/

set_option autoImplicit false

namespace SiteSync.CommandLine

/-- What the program finds around it. -/
structure Surroundings (σ : Type) where
  /-- Reads the configuration file at a path. -/
  read : Text → Except FileFault Bytes
  /-- The local files. -/
  source : LocalSource
  /-- The cloud. -/
  service : Cloud.Service σ
  /-- The state of the cloud. -/
  world : σ
  /-- How many files are uploaded at a time if nothing is said. -/
  parallelism : Nat
  /-- What is said about log lines, if anything. -/
  logFilter : Option Text
  /-- The time in fourteen digits. -/
  reference : Text

/-- Why the program fails. -/
inductive Failure where
  /-- The command line is faulty. -/
  | usage (e : UsageError)
  /-- The deploy fails. -/
  | deploy (e : Error)
deriving Repr, DecidableEq

/-- The text of a failure. -/
def Failure.message : Failure → String
  | usage e => e.message
  | deploy e => e.message

/-- What comes of the program. -/
structure Outcome (σ : Type) where
  /-- Why it failed, if it did. -/
  failure : Option Failure := none
  /-- What it prints. -/
  printed : String := ""
  /-- The log lines that are shown, in order. -/
  shown : List LogLine := []
  /-- The state of the cloud. -/
  world : σ

/-- The exit code: two for a faulty command line, one for another
failure. -/
def Outcome.exitCode {σ : Type} (o : Outcome σ) : Nat :=
  match o.failure with
  | none => 0
  | some (.deploy _) => 1
  | some (.usage _) => 2

namespace Program

variable {σ : Type}

/-- The name of the program. -/
def name : String := "site_deploy"

/-- What is printed if the version is asked for. -/
def versionText : String := name ++ " 0.1.0\n"

/-- What is printed if the options are asked for. -/
def helpText : String :=
  "Deploy a static site to S3 and invalidate CloudFront\n\nUsage: " ++ name ++
    " [OPTIONS]\n\nOptions:\n" ++ String.join (Setting.all.map Setting.line)

/-- What is said of the configuration file. -/
def fileLine (path : Text) (content : Except FileFault Bytes) : LogLine :=
  match content with
  | .error _ => ⟨.debug, .config, "No config file at ".toList ++ path⟩
  | .ok _ => ⟨.debug, .config, "Loaded config from ".toList ++ path⟩

/-- What is said before the deploy. -/
def startLine (c : Config) : LogLine :=
  ⟨.info, .commandLine, "Deploying ".toList ++ c.sourcePath ++ " to s3://".toList ++ c.bucket
    ++ ['/'] ++ Path.trimSlashes c.bucketPath
    ++ (if c.tryRun then " (dry run)".toList else [])⟩

/-- The bucket that the settings name. -/
def store (s : Surroundings σ) (c : Config) : Store σ :=
  let bucket : Cloud.BucketClient σ := ⟨s.service, c.bucket⟩
  if c.tryRun then bucket.store.dryRun else bucket.store

/-- The distributions that the settings name. -/
def cdn (s : Surroundings σ) (c : Config) : Option (Cdn σ) :=
  if c.distributions = [] then none
  else if c.tryRun then some (Cdn.dryRun c.bucketPath c.force)
  else
    let client : Cloud.DistributionClient σ :=
      ⟨s.service, c.distributions, c.bucketPath, c.force, s.reference⟩
    some client.cdn

/-- Deploys by rules that come from some settings. -/
def deploy (s : Surroundings σ) (c : Config) (rules : Rules) : Report σ :=
  Deployment.run ⟨rules, s.source, store s c, cdn s c⟩ Group.oneByOne s.world

/-- The log line that an event is, if it is one. -/
def line? : Event → Option LogLine
  | .log l => some l
  | _ => none

/-- Runs the program with the settings of a command line. -/
def runGiven (s : Surroundings σ) (g : Given) : Outcome σ :=
  let filter := match s.logFilter with
    | some t => (LogFilter.upTo g.logLevel).withText t
    | none => LogFilter.upTo g.logLevel
  let content := s.read g.configFile
  match FileConfig.ofRead g.configFile content with
  | .error e => { failure := some (.deploy e), world := s.world }
  | .ok file =>
    let loaded := fileLine g.configFile content
    let c := g.config.withFile file
    match c.check s.parallelism with
    | .error e =>
      { failure := some (.deploy e), shown := [loaded].filter filter.shows, world := s.world }
    | .ok rules =>
      let report := deploy s c rules
      let lines := loaded :: startLine c :: report.events.filterMap line?
      { failure := match report.result with
          | .ok _ => none
          | .error e => some (.deploy e)
        printed := if g.has .quiet then "" else report.tally.summary ++ "\n"
        shown := lines.filter filter.shows
        world := report.world }

/-- Runs the program. -/
def run (s : Surroundings σ) (arguments : List Text) : Outcome σ :=
  match Given.ofArguments arguments with
  | .ok g => runGiven s g
  | .error (.usage e) => { failure := some (.usage e), world := s.world }
  | .error .version => { printed := versionText, world := s.world }
  | .error .help => { printed := helpText, world := s.world }

end Program

end SiteSync.CommandLine
