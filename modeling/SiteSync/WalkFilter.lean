import SiteSync.Route

/-!
# `SiteSync.WalkFilter`: which local files take part

A filter has a pattern for files that are skipped and one for
directories that are skipped with all they hold. Both are matched
against the path relative to the source.
-/

set_option autoImplicit false

namespace SiteSync

/-- The skip rules of a walk. -/
structure WalkFilter where
  /-- The files to skip. -/
  skipFiles : Pattern.Expr
  /-- The directories to skip. -/
  skipDirs : Pattern.Expr
deriving Repr, DecidableEq

namespace WalkFilter

/-- By default the files named `.DS_Store` are skipped. -/
def defaultSkipFiles : Text := "(^|/)\\.DS_Store$".toList

/-- By default the directories whose names start with a dot are
skipped. -/
def defaultSkipDirs : Text := "(^|/)\\.[^/]*$".toList

/-- Compiles both patterns. -/
def compile (skipFiles skipDirs : Text) : Except Error WalkFilter := do
  let files ← compilePattern "'skip-local-files' flag" skipFiles
  let dirs ← compilePattern "'skip-local-dirs' flag" skipDirs
  pure ⟨files, dirs⟩

/-- Whether the file at a path is skipped. -/
def skipsFile (f : WalkFilter) (path : Text) : Bool := f.skipFiles.isMatch path

/-- Whether the directory at a path is skipped. -/
def skipsDir (f : WalkFilter) (path : Text) : Bool := f.skipDirs.isMatch path

/-- The paths of the directories above a path: what comes before each of
its slashes. -/
def ancestors (path : Text) : List Text :=
  let rec go (before : Text) : Text → List Text
    | [] => []
    | c :: cs => if c = '/' then before.reverse :: go (c :: before) cs else go (c :: before) cs
  go [] path

/-- Whether the file at a path takes part: neither it nor any directory
above it is skipped. -/
def accepts (f : WalkFilter) (path : Text) : Bool :=
  !f.skipsFile path && (ancestors path).all (!f.skipsDir ·)

end WalkFilter

end SiteSync
