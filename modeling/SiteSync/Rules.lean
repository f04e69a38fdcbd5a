import SiteSync.Path
import SiteSync.WalkFilter

/-!
# `SiteSync.Rules`: what a deploy manages, and how

The rules are a configuration that has been checked, with every pattern
compiled. They decide which keys of the bucket belong to the site, which
files are left alone, and in which group a file is uploaded.
-/

set_option autoImplicit false

namespace SiteSync

/-- The checked settings of a deploy. -/
structure Rules where
  /-- The local directory to deploy. -/
  source : Text
  /-- The path of the site within the bucket, without slashes around
  it. -/
  bucketPath : Text
  /-- The routes, in order. -/
  routes : Routes
  /-- The patterns of the upload groups, in order. -/
  order : List Pattern.Expr
  /-- The files to leave alone, here and in the bucket. -/
  ignore : Option Pattern.Expr
  /-- The local files to skip. -/
  walkFilter : WalkFilter
  /-- The access rule of uploaded files. -/
  acl : Option Text
  /-- How many files are uploaded at a time. -/
  workers : Nat
  /-- How many objects may be deleted in one deploy. -/
  maxDelete : Nat
  /-- Whether files are uploaded without being compared. -/
  force : Bool
deriving Repr, DecidableEq

namespace Rules

/-- What the keys of the site start with: the bucket path and a slash,
or nothing. -/
def keyPrefix (r : Rules) : Text := if r.bucketPath = [] then [] else r.bucketPath ++ ['/']

/-- The key of a file. -/
def bucketKey (r : Rules) (path : Text) : Text := r.keyPrefix ++ path

/-- Whether a key belongs to the site. -/
def isManaged (r : Rules) (key : Text) : Bool := Text.startsWith key r.keyPrefix

/-- The path of a key within the site; a key that does not belong to it
is its own path. -/
def pathOfKey (r : Rules) (key : Text) : Text := (Text.stripPrefix? r.keyPrefix key).getD key

/-- Whether the file at a path is left alone, by the pattern for that or
by an `ignore` route. -/
def ignoresPath (r : Rules) (path : Text) : Bool :=
  r.ignore.any (·.isMatch path) || r.routes.ignores path

/-- Whether the object of a key is left alone. -/
def ignoresKey (r : Rules) (key : Text) : Bool := r.ignoresPath (r.pathOfKey key)

/-- The upload group of a file: the number, from one, of the last
pattern that matches its path, and zero if none does. -/
def groupOf (r : Rules) (path : Text) : Nat :=
  let rec last (n : Nat) (found : Nat) : List Pattern.Expr → Nat
    | [] => found
    | e :: es => last (n + 1) (if e.isMatch path then n + 1 else found) es
  last 0 0 r.order

/-- The number of upload groups. -/
def groupCount (r : Rules) : Nat := r.order.length + 1

end Rules

end SiteSync
