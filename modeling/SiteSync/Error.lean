import SiteSync.Text.Quoted

/-!
# `SiteSync.Error`: what can go wrong in a deploy

Each error is its cause. `Error.message` is the one place that words
them.
-/

set_option autoImplicit false

namespace SiteSync

/-- What is wrong with a configuration as a whole. -/
inductive ConfigFault where
  /-- No bucket is named. -/
  | noBucket
  /-- The source is the root of the file system. -/
  | sourceIsRoot
  /-- Both an access rule and its deprecated shorthand are given. -/
  | twoAccessRules
deriving Repr, DecidableEq

/-- The text for a faulty configuration. -/
def ConfigFault.message : ConfigFault → String
  | .noBucket => "AWS bucket is required"
  | .sourceIsRoot => "invalid source path: cannot deploy from root"
  | .twoAccessRules =>
    "you passed a value for the flags public-access and acl, which is not supported. " ++
    "the public-access flag is deprecated. please use the acl flag moving forward"

/-- Why a file or directory could not be used. -/
inductive FileFault where
  /-- There is nothing at the path. -/
  | notFound
  /-- A file is needed and a directory is there. -/
  | isADirectory
  /-- A directory is needed and a file is there. -/
  | notADirectory
  /-- The symbolic links at the path lead nowhere but to each other. -/
  | linkLoop
  /-- Anything else, with its text. -/
  | other (text : Text)
deriving Repr, DecidableEq

/-- The text for a file that could not be used. -/
def FileFault.message : FileFault → String
  | .notFound => "No such file or directory (os error 2)"
  | .isADirectory => "Is a directory (os error 21)"
  | .notADirectory => "Not a directory (os error 20)"
  | .linkLoop => "Too many levels of symbolic links (os error 40)"
  | .other text => text.str

/-- What can go wrong in a deploy. -/
inductive Error where
  /-- The configuration is faulty. -/
  | config (fault : ConfigFault)
  /-- The pattern of a setting is not well formed. -/
  | invalidPattern (setting pattern : Text)
  /-- The configuration file cannot be read or understood. -/
  | configFile (path : Text)
  /-- A file or directory cannot be used. -/
  | io (path : Text) (fault : FileFault)
  /-- The bucket could not be listed. -/
  | list (pathPrefix : Text) (cause : Text)
  /-- A file could not be uploaded. -/
  | upload (key : Text) (cause : Text)
  /-- A batch of objects could not be deleted. -/
  | delete (count : Nat) (cause : Text)
  /-- The distributions could not be told what changed. -/
  | cdn (cause : Text)
  /-- A worker died. -/
  | task
deriving Repr, DecidableEq

/-- The text of an error. Three texts end here before they are complete:
the words of the compiler of patterns about a pattern, those of the
reader of a configuration file, and those about a worker that died are
not modelled. Of a pattern only they are missing, of the other two the
colon in front of them as well. -/
def Error.message : Error → String
  | .config fault => fault.message
  | .invalidPattern setting pattern =>
    "cannot compile " ++ setting.str ++ " pattern " ++ (Text.quote pattern).str ++ ": "
  | .configFile path => "Failed to load config from " ++ path.str
  | .io path fault => "I/O error at " ++ path.str ++ ": " ++ fault.message
  | .list p cause =>
    "Failed to list remote objects under " ++ (Text.quote p).str ++ ": " ++ cause.str
  | .upload key cause => "Failed to upload " ++ key.str ++ ": " ++ cause.str
  | .delete count cause => "Failed to delete " ++ toString count ++ " objects: " ++ cause.str
  | .cdn cause => "CDN invalidation failed: " ++ cause.str
  | .task => "Background task failed"

end SiteSync
