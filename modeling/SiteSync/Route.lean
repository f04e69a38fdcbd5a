import SiteSync.Error
import SiteSync.Headers
import SiteSync.Pattern.Parse

/-!
# `SiteSync.Route`: rules for files by their path

A route pairs a pattern on the path of a file relative to the source
with what is done to the files it matches: extra headers, compression,
or leaving them alone. The first route that matches a path governs it;
an `ignore` route counts wherever it stands.
-/

set_option autoImplicit false

namespace SiteSync

/-- A route as it is written in a configuration. -/
structure RouteSettings where
  /-- The pattern on the relative path. -/
  route : Text := []
  /-- The headers of matching files. -/
  headers : Headers := []
  /-- Whether matching files are compressed. -/
  gzip : Bool := false
  /-- Whether matching files are left alone, here and in the bucket. -/
  ignore : Bool := false
deriving Repr, DecidableEq

/-- A route with its pattern compiled. -/
structure Route where
  /-- What the route matches. -/
  expr : Pattern.Expr
  /-- The headers of matching files. -/
  headers : Headers
  /-- Whether matching files are compressed. -/
  gzip : Bool
  /-- Whether matching files are left alone, here and in the bucket. -/
  ignore : Bool
deriving Repr, DecidableEq

/-- The expression of the pattern that a setting holds. -/
def compilePattern (setting : String) (pattern : Text) : Except Error Pattern.Expr :=
  match Pattern.parse pattern with
  | .ok e => .ok e
  | .error _ => .error (.invalidPattern setting.toList pattern)

namespace Route

/-- Compiles a route. -/
def compile (s : RouteSettings) : Except Error Route := do
  let expr ← compilePattern "route" s.route
  pure ⟨expr, s.headers, s.gzip, s.ignore⟩

/-- Whether the route applies to a path. -/
def matchesPath (r : Route) (path : Text) : Bool := r.expr.isMatch path

/-- The value of a header, whatever the case of its name. -/
def header (r : Route) (name : Text) : Option Text := r.headers.lookup name

end Route

/-- A table of routes, in order. -/
abbrev Routes := List Route

namespace Routes

/-- Compiles a table; the first faulty pattern is the error. -/
def compile (settings : List RouteSettings) : Except Error Routes := settings.mapM Route.compile

/-- The route that governs a path: the first that matches it. -/
def governing (rs : Routes) (path : Text) : Option Route := rs.find? (·.matchesPath path)

/-- Whether an `ignore` route matches a path. -/
def ignores (rs : Routes) (path : Text) : Bool := rs.any fun r => r.ignore && r.matchesPath path

end Routes

end SiteSync
