import SiteSync.Text.Basic

/-!
# `SiteSync.Path`: slash-separated paths

A path is a text read as segments between slashes. `clean` is the
lexical normal form: no empty segment, no `.`, and `..` resolved
against the segment before it. `clean` never looks at a file system.
-/

set_option autoImplicit false

namespace SiteSync.Path

/-- Whether a character is the separator of path segments. -/
def isSlash (c : Char) : Bool := c == '/'

/-- The segments of a path: the pieces between its slashes. -/
def segments (p : Text) : List Text := Text.split '/' p

/-- The path with the given segments. -/
def ofSegments (ss : List Text) : Text := Text.join '/' ss

/-- A path is absolute when it starts with a slash. -/
def isAbsolute : Text → Bool
  | '/' :: _ => true
  | _ => false

/-- The path without leading and trailing slashes. -/
def trimSlashes (p : Text) : Text := Text.trim isSlash p

/-- The path with a slash in front, unless it has one. -/
def rooted (p : Text) : Text := if isAbsolute p then p else '/' :: p

/-- The path with a slash behind, unless it has one. -/
def asDirectory (p : Text) : Text :=
  if Text.endsWith p ['/'] then p else p ++ ['/']

/-- The place of a name within the directory at a path. -/
def within (directory name : Text) : Text :=
  if isAbsolute name then name else asDirectory directory ++ name

/-! ### Cleaning -/

/-- Reads one more segment on top of the segments kept so far, latest
first. An empty segment and `.` are dropped; `..` takes the latest
segment away, and where there is none to take it stays in a relative
path and is dropped in an absolute one. -/
def resolve (absolute : Bool) (kept : List Text) (segment : Text) : List Text :=
  if segment = [] ∨ segment = ['.'] then kept
  else if segment = ['.', '.'] then
    match kept with
    | [] => if absolute then [] else [['.', '.']]
    | last :: before =>
      if last ≠ ['.', '.'] then before
      else if absolute then kept else ['.', '.'] :: kept
  else segment :: kept

/-- The segments that remain of a path once it is cleaned. -/
def cleanSegments (absolute : Bool) (ss : List Text) : List Text :=
  (ss.foldl (resolve absolute) []).reverse

/-- The lexical normal form of a path. Of a relative path that resolves
to nothing it is `.`. -/
def clean (p : Text) : Text :=
  let joined := ofSegments (cleanSegments (isAbsolute p) (segments p))
  if isAbsolute p then '/' :: joined
  else if joined = [] then ['.']
  else joined

/-! ### Parents -/

/-- Everything up to and including the last slash. -/
def upToLastSlash (p : Text) : Text := (p.reverse.dropWhile (· != '/')).reverse

/-- The last segment of a path. -/
def baseName (p : Text) : Text := (p.reverse.takeWhile (· != '/')).reverse

/-- The cleaned directory of a path; of a path without a slash it is
`.`. -/
def parent (p : Text) : Text :=
  if '/' ∈ p then clean (upToLastSlash p) else ['.']

/-- How many slashes a path has. -/
def depth (p : Text) : Nat := Text.count '/' p

end SiteSync.Path
