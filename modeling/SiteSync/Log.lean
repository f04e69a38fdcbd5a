import SiteSync.Text.Basic

/-!
# `SiteSync.Log`: what a deploy says while it runs

A log line has a level, the part of the program that says it, and a
text. Which lines are shown is a matter of the log filter.
-/

set_option autoImplicit false

namespace SiteSync

/-- How important a log line is, from most to least. -/
inductive LogLevel where
  /-- Something failed. -/
  | error
  /-- Something may not be as intended. -/
  | warn
  /-- Something was done. -/
  | info
  /-- Something for those who look for a fault. -/
  | debug
deriving Repr, DecidableEq

/-- The name of a level. -/
def LogLevel.name : LogLevel → String
  | error => "ERROR"
  | warn => "WARN"
  | info => "INFO"
  | debug => "DEBUG"

/-- The place of a level among all levels, from one. -/
def LogLevel.rank : LogLevel → Nat
  | error => 1
  | warn => 2
  | info => 3
  | debug => 4

/-- The parts of the program that say something. -/
inductive LogSource where
  /-- The command line. -/
  | commandLine
  /-- The configuration. -/
  | config
  /-- The deploy as a whole. -/
  | deployer
  /-- The comparison of files with the bucket. -/
  | planner
  /-- The uploads. -/
  | upload
  /-- The deletions. -/
  | delete
  /-- The local files. -/
  | files
  /-- The trial run of a distribution. -/
  | store
  /-- The bucket. -/
  | bucket
  /-- The distributions. -/
  | cdn
  /-- The reduction of changed paths. -/
  | invalidation
deriving Repr, DecidableEq

/-- The name of a part, by which the log filter knows it. -/
def LogSource.name : LogSource → String
  | commandLine => "site_deploy"
  | config => "site_deploy::config"
  | deployer => "site_deploy::deployer"
  | planner => "site_deploy::planner"
  | upload => "site_deploy::upload"
  | delete => "site_deploy::delete"
  | files => "site_deploy::local"
  | store => "site_deploy::store"
  | bucket => "site_deploy_s3"
  | cdn => "site_deploy_cdn"
  | invalidation => "site_deploy_cdn::invalidation"

/-- A log line. -/
structure LogLine where
  /-- How important the line is. -/
  level : LogLevel
  /-- Who says it. -/
  source : LogSource
  /-- What is said. -/
  text : Text
deriving Repr, DecidableEq

end SiteSync
