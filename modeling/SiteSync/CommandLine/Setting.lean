import SiteSync.Text.Basic

/-!
# `SiteSync.CommandLine.Setting`: the options of the command line
-/

set_option autoImplicit false

namespace SiteSync.CommandLine

/-- What follows an option. -/
inductive Takes where
  /-- Nothing. -/
  | nothing
  /-- A text. -/
  | text
  /-- A path, which is not empty. -/
  | path
  /-- A whole number. -/
  | count
  /-- Some texts between commas; the option may be given again. -/
  | list
deriving Repr, DecidableEq

/-- An option of the command line. -/
inductive Setting where
  /-- The bucket to deploy to. -/
  | bucket
  /-- The path of the site within the bucket. -/
  | path
  /-- The local directory to deploy. -/
  | source
  /-- The configuration file. -/
  | config
  /-- How many objects may be deleted. -/
  | maxDelete
  /-- Whether files are uploaded without being compared. -/
  | force
  /-- Whether the deploy only reports what it would do. -/
  | tryRun
  /-- Whether more is said. -/
  | verbose
  /-- Whether less is said. -/
  | quiet
  /-- How many files are uploaded at a time. -/
  | workers
  /-- The region of the bucket. -/
  | region
  /-- The name of the access key. -/
  | key
  /-- The secret of the access key. -/
  | secret
  /-- Where the cloud is. -/
  | endpoint
  /-- The access rule of uploaded files. -/
  | acl
  /-- Whether everybody may read uploaded files. -/
  | publicAccess
  /-- The distributions to tell what changed. -/
  | distributions
  /-- The pattern of the files to leave alone. -/
  | ignore
  /-- The pattern of the local files to skip. -/
  | skipFiles
  /-- The pattern of the local directories to skip. -/
  | skipDirs
  /-- Whether the version is asked for. -/
  | version
  /-- Whether the options are asked for. -/
  | help
deriving Repr, DecidableEq

namespace Setting

/-- All options. -/
def all : List Setting :=
  [bucket, path, source, config, maxDelete, force, tryRun, verbose, quiet, workers, region, key,
    secret, endpoint, acl, publicAccess, distributions, ignore, skipFiles, skipDirs, version, help]

/-- The name of an option, which follows two dashes. -/
def name : Setting → String
  | bucket => "bucket"
  | path => "path"
  | source => "source"
  | config => "config"
  | maxDelete => "max-delete"
  | force => "force"
  | tryRun => "try"
  | verbose => "verbose"
  | quiet => "quiet"
  | workers => "workers"
  | region => "region"
  | key => "key"
  | secret => "secret"
  | endpoint => "endpoint-url"
  | acl => "acl"
  | publicAccess => "public-access"
  | distributions => "distribution-id"
  | ignore => "ignore"
  | skipFiles => "skip-local-files"
  | skipDirs => "skip-local-dirs"
  | version => "version"
  | help => "help"

/-- The letter of an option, which follows one dash. -/
def letter? : Setting → Option Char
  | verbose => some 'v'
  | version => some 'V'
  | help => some 'h'
  | _ => none

/-- What follows an option. -/
def takes : Setting → Takes
  | source | config => .path
  | maxDelete | workers => .count
  | distributions => .list
  | force | tryRun | verbose | quiet | publicAccess | version | help => .nothing
  | _ => .text

/-- What an option is for. -/
def purpose : Setting → String
  | bucket => "Destination bucket name"
  | path => "Optional bucket sub path"
  | source => "Path of files to upload [default: .]"
  | config => "Optional config file [default: .s3deploy.yml]"
  | maxDelete => "Maximum number of files to delete per deploy [default: 256]"
  | force => "Upload even if the fingerprints match"
  | tryRun => "Trial run, no remote updates"
  | verbose => "Enable verbose logging"
  | quiet => "Only log warnings and errors, no progress bar or summary"
  | workers => "Number of upload workers [default: available parallelism]"
  | region => "Name of the AWS region"
  | key => "Access key ID for AWS"
  | secret => "Secret access key for AWS"
  | endpoint => "Custom endpoint for S3-compatible stores"
  | acl => "Canned ACL for uploads (e.g. public-read, private)"
  | publicAccess => "Deprecated: use --acl public-read"
  | distributions => "CloudFront distribution ID to invalidate (repeatable or comma-separated)"
  | ignore => "Regex of paths to ignore, locally and remotely"
  | skipFiles => "Regex of local files to skip"
  | skipDirs => "Regex of local directories to skip"
  | version => "Print version"
  | help => "Print help"

/-- The option with a name. -/
def ofName? (t : Text) : Option Setting := all.find? (·.name.toList == t)

/-- The option with a letter. -/
def ofLetter? (c : Char) : Option Setting := all.find? (·.letter? == some c)

/-- The line about an option in the list of all options. -/
def line (s : Setting) : String :=
  let letter := match s.letter? with
    | some c => "-" ++ String.singleton c ++ ", "
    | none => "    "
  let value := if s.takes = .nothing then "" else " <" ++ s.name ++ ">"
  "  " ++ letter ++ "--" ++ s.name ++ value ++ "  " ++ s.purpose ++ "\n"

end Setting

end SiteSync.CommandLine
