import SiteSync.CommandLine.Setting
import SiteSync.Config.Basic
import SiteSync.LogFilter

/-!
# `SiteSync.CommandLine.Given`: what a command line says

A command line is a list of options. The value of an option stands
behind an equals sign or is the next argument. An option whose value may
still follow is *pending*: it counts only when the next option is read,
or at the end. An argument that is no option hides what is wrong with a
pending one; all other faults are found in order.
-/

set_option autoImplicit false

namespace SiteSync.CommandLine

/-- What is wrong with a command line. -/
inductive UsageError where
  /-- There is no such option, or an argument is no option. -/
  | unexpectedArgument
  /-- An option has a value and takes none. -/
  | unexpectedValue
  /-- An option has no value, or an empty one, and needs one. -/
  | missingValue
  /-- A number is not well formed or too great. -/
  | notANumber
  /-- An option is given twice, or two exclude each other. -/
  | conflict
deriving Repr, DecidableEq

/-- The text for a faulty command line. -/
def UsageError.message : UsageError → String
  | unexpectedArgument => "unexpected argument found"
  | unexpectedValue => "unexpected value for an argument found"
  | missingValue => "one of the values isn't valid for an argument"
  | notANumber => "invalid value for one of the arguments"
  | conflict => "an argument cannot be used with one or more of the other specified arguments"

/-- Why nothing is deployed. -/
inductive Stop where
  /-- The command line is faulty. -/
  | usage (e : UsageError)
  /-- The version is asked for. -/
  | version
  /-- The options are asked for. -/
  | help
deriving Repr, DecidableEq

/-- The options that are given with their values, the latest first. -/
abbrev Given := List (Setting × List Text)

namespace Given

/-- Whether an option is given. -/
def has (g : Given) (s : Setting) : Bool := g.any (·.1 == s)

/-- The values of an option, in order. -/
def values (g : Given) (s : Setting) : List Text :=
  (g.reverse.filter (·.1 == s)).flatMap Prod.snd

/-- The value of an option. -/
def text? (g : Given) (s : Setting) : Option Text := (g.values s).head?

/-- A whole number below 2^64; a plus sign may stand in front. -/
def number? (t : Text) : Option Nat :=
  let digits := if t.head? = some '+' then t.drop 1 else t
  if digits = [] ∨ !digits.all Char.isDigit then none
  else
    let n := digits.foldl (fun n c => 10 * n + (c.toNat - '0'.toNat)) 0
    if n < 0x10000000000000000 then some n else none

/-- The number that is the value of an option. -/
def number (g : Given) (s : Setting) : Option Nat := (g.text? s).bind number?

/-- The values that an option has if a text follows it, or what is wrong
with the text. -/
def valuesOf (takes : Takes) (t : Text) : Except UsageError (List Text) :=
  match takes with
  | .nothing => .error .unexpectedValue
  | .text => .ok [t]
  | .path => if t = [] then .error .missingValue else .ok [t]
  | .count => if (number? t).isSome then .ok [t] else .error .notANumber
  | .list => .ok (Text.split ',' t)

/-- Adds an option that is followed by nothing. -/
def addFlag (s : Setting) (g : Given) : Except Stop Given :=
  match s with
  | .version => .error .version
  | .help => .error .help
  | _ => if g.has s then .error (.usage .conflict) else .ok ((s, []) :: g)

/-- Adds an option that is followed by a text. -/
def addValue (s : Setting) (value : Option Text) (g : Given) : Except Stop Given :=
  match value with
  | none => .error (.usage .missingValue)
  | some t =>
    if s.takes ≠ .list ∧ g.has s then .error (.usage .conflict)
    else
      match valuesOf s.takes t with
      | .ok vs => .ok ((s, vs) :: g)
      | .error e => .error (.usage e)

end Given

/-! ### Reading -/

/-- How far a command line is read. -/
structure Reading where
  /-- The options that count already. -/
  given : Given := []
  /-- The pending option with its value, if that has come. -/
  pending : Option (Setting × Option Text) := none
deriving Repr, DecidableEq

namespace Reading

/-- Makes the pending option count. -/
def settle (r : Reading) : Except Stop Given :=
  match r.pending with
  | none => .ok r.given
  | some (s, value) => r.given.addValue s value

/-- Reads an option by its name. -/
def long (name : Text) (value : Option Text) (r : Reading) : Except Stop Reading :=
  match Setting.ofName? name with
  | none => .error (.usage .unexpectedArgument)
  | some s =>
    match s.takes, value with
    -- Here too the pending option stays out of account.
    | .nothing, some _ => .error (.usage .unexpectedValue)
    | .nothing, none => do
      let given ← (← r.settle).addFlag s
      pure { given }
    | _, some t => do
      let given ← (← r.settle).addValue s (some t)
      pure { given }
    | _, none => do
      let given ← r.settle
      pure { given, pending := some (s, none) }

/-- Reads options by their letters. -/
def short : Text → Reading → Except Stop Reading
  | [], r => .ok r
  | c :: cs, r =>
    match Setting.ofLetter? c with
    | none => .error (.usage .unexpectedArgument)
    | some s => do
      let given ← (← r.settle).addFlag s
      short cs { given }

/-- Reads the value of the pending option. -/
def value (t : Text) (r : Reading) : Except Stop Reading :=
  match r.pending with
  | some (s, none) => .ok { r with pending := some (s, some t) }
  | _ => .error (.usage .unexpectedArgument)

/-- The name and value of an option that starts with two dashes. -/
def nameAndValue (t : Text) : Text × Option Text :=
  let name := t.takeWhile (· != '=')
  (name, if name.length = t.length then none else some (t.drop (name.length + 1)))

/-- Reads an argument. -/
def argument (t : Text) (r : Reading) : Except Stop Reading :=
  match t with
  | '-' :: '-' :: rest =>
    let (name, attached) := nameAndValue rest
    r.long name attached
  | ['-'] => r.value t
  | '-' :: letters => r.short letters
  | _ => r.value t

/-- Reads some arguments. Two dashes alone end the options, and nothing
may follow them. -/
def arguments : List Text → Reading → Except Stop Reading
  | [], r => .ok r
  | t :: ts, r =>
    if t = ['-', '-'] then
      if ts = [] then .ok r else .error (.usage .unexpectedArgument)
    else do arguments ts (← r.argument t)

end Reading

namespace Given

/-- What a command line says. -/
def ofArguments (ts : List Text) : Except Stop Given := do
  let given ← (← Reading.arguments ts {}).settle
  if given.has .acl && given.has .publicAccess then .error (.usage .conflict)
  else pure given

/-! ### Settings -/

/-- The configuration file that is looked for if none is given. -/
def defaultConfigFile : Text := ".s3deploy.yml".toList

/-- The configuration file. -/
def configFile (g : Given) : Text := (g.text? .config).getD defaultConfigFile

/-- The settings of a deploy that the command line gives. -/
def config (g : Given) : Config where
  source := g.text? .source
  bucket := (g.text? .bucket).getD []
  bucketPath := (g.text? .path).getD []
  region := g.text? .region
  accessKey := g.text? .key
  secretKey := g.text? .secret
  workers := g.number .workers
  maxDelete := (g.number .maxDelete).getD 256
  force := g.has .force
  tryRun := g.has .tryRun
  acl := g.text? .acl
  publicAccess := g.has .publicAccess
  ignore := g.text? .ignore
  skipFiles := (g.text? .skipFiles).getD WalkFilter.defaultSkipFiles
  skipDirs := (g.text? .skipDirs).getD WalkFilter.defaultSkipDirs
  distributions := g.values .distributions

/-- The level up to which log lines are shown, unless the log filter
says something else. -/
def logLevel (g : Given) : LogLevel :=
  if g.has .quiet then .warn else if g.has .verbose then .debug else .info

end Given

end SiteSync.CommandLine
