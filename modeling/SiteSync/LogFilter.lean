import SiteSync.Log
import SiteSync.Pattern.Parse
import SiteSync.Unicode.Classes

/-!
# `SiteSync.LogFilter`: which log lines are shown

A filter has rules, each with a limit on the levels of the lines that
some sources say. The rule with the longest source name decides. Filters
are written as rules between commas, such as `info,site_deploy_s3=debug`,
and perhaps a slash and a pattern that the lines have to match.
-/

set_option autoImplicit false

namespace SiteSync

/-- A rule for the lines of some sources. -/
structure LogRule where
  /-- What the names of the sources start with; all sources if absent. -/
  source : Option Text
  /-- The rank of the least important level that is shown. -/
  limit : Nat
deriving Repr, DecidableEq

namespace LogRule

/-- How much of a source name the rule gives. -/
def length (r : LogRule) : Nat := ((r.source.getD []).flatMap String.utf8EncodeChar).length

/-- Whether the rule is about a source. -/
def covers (r : LogRule) (source : LogSource) : Bool :=
  Text.startsWith source.name.toList (r.source.getD [])

/-- The limits by name. -/
def limits : List (String × Nat) :=
  [("off", 0), ("error", 1), ("warn", 2), ("info", 3), ("debug", 4), ("trace", 5)]

/-- The greatest limit. -/
def greatest : Nat := 5

/-- The limit of a name in any case. -/
def limit? (name : Text) : Option Nat :=
  (limits.find? fun l => Text.eqIgnoreCase l.1.toList name).map Prod.snd

/-- A text without the white space around it. -/
def bare (t : Text) : Text := Text.trim Unicode.isWhiteSpace t

/-- Reads a rule: a limit for all sources, a source, or both with an
equals sign between them. A source alone has the greatest limit. What is
none of these is left out. -/
def ofText? (t : Text) : Option LogRule :=
  match Text.split '=' t with
  | [only] =>
    match limit? (bare only) with
    | some limit => some ⟨none, limit⟩
    -- A misspelt level reads as the name of a source.
    | none => some ⟨some only, greatest⟩
  | [source, limit] =>
    if bare limit = [] then some ⟨some source, greatest⟩
    else (limit? (bare limit)).map fun limit => ⟨some (bare source), limit⟩
  | _ => none

end LogRule

/-- Which log lines are shown. -/
structure LogFilter where
  /-- The rules. -/
  rules : List LogRule
  /-- What the lines have to match, if anything. -/
  pattern : Option Pattern.Expr := none
deriving Repr, DecidableEq

namespace LogFilter

/-- The filter that shows the lines of all sources up to a level. -/
def upTo (level : LogLevel) : LogFilter := ⟨[⟨none, level.rank⟩], none⟩

/-- Puts a rule, in place of the one for the same sources. -/
def putRule (r : LogRule) : List LogRule → List LogRule
  | [] => [r]
  | s :: rules => if s.source = r.source then r :: rules else s :: putRule r rules

/-- Adds the rules of a text; empty ones do not count. -/
def withRules (f : LogFilter) (t : Text) : LogFilter :=
  let given := ((Text.split ',' t).map LogRule.bare).filter (· != [])
  { f with rules := (given.filterMap LogRule.ofText?).foldl (fun rs r => putRule r rs) f.rules }

/-- Adds what a text says. A faulty pattern is left out, and a text with
more than one slash says nothing. -/
def withText (f : LogFilter) (t : Text) : LogFilter :=
  match Text.split '/' t with
  | [rules] => f.withRules rules
  | [rules, pattern] => { f.withRules rules with pattern := (Pattern.parse pattern).toOption }
  | _ => f

/-- The rule that decides on a source: of those with the longest name
the last. -/
def decisive? (f : LogFilter) (source : LogSource) : Option LogRule :=
  (f.rules.filter (·.covers source)).foldl
    (fun best r => if best.all (·.length ≤ r.length) then some r else best) none

/-- Whether a line is shown. -/
def shows (f : LogFilter) (l : LogLine) : Bool :=
  (f.decisive? l.source).any (l.level.rank ≤ ·.limit) && f.pattern.all (·.isMatch l.text)

end LogFilter

end SiteSync
