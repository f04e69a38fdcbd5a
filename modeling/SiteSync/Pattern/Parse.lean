import SiteSync.Pattern.Bracket
import SiteSync.Pattern.Size

/-!
# `SiteSync.Pattern.Parse`: from the text of a pattern to an expression

A pattern is read from left to right. The reader keeps the parts of the
current sequence, the finished branches of the current group, and the
groups that are still open; flags hold from where they are set to the
end of their group.

`parse` reads a whole pattern. It refuses what is not well formed, what
is nested too deeply, and what would be too large when compiled.
-/

set_option autoImplicit false

namespace SiteSync.Pattern

/-- A part of a sequence. -/
structure Part where
  /-- What the part matches. -/
  expr : Expr
  /-- How deeply it is nested. -/
  depth : Nat := 0
  /-- Whether it only sets flags; such a part cannot be repeated. -/
  setsFlags : Bool := false
deriving Repr

/-- A group that is still open: what stood before it, the finished
branches around it, and the flags to return to. -/
structure OpenGroup where
  /-- The parts of the sequence before the group. -/
  parts : List Part
  /-- The finished branches around the group. -/
  branches : List Part
  /-- The flags in force before the group. -/
  flags : Flags
deriving Repr

/-- The state of the reader. Lists of parts have the latest first. -/
structure Reader where
  /-- The parts of the current sequence. -/
  parts : List Part := []
  /-- The finished branches of the current group. -/
  branches : List Part := []
  /-- The groups that are open, innermost first. -/
  opened : List OpenGroup := []
  /-- The flags in force. -/
  flags : Flags := {}
  /-- The names of the groups so far. -/
  names : List Text := []
  /-- What is still to be read. -/
  rest : Text
deriving Repr

namespace Reader

/-- Adds a part to the current sequence. -/
def push (r : Reader) (p : Part) (rest : Text) : Reader :=
  { r with parts := p :: r.parts, rest := rest }

/-- The current sequence as one part. -/
def sequence (r : Reader) : Part :=
  match r.parts with
  | [] => { expr := .empty }
  | [p] => p
  | last :: before =>
    { expr := before.foldl (fun e p => Expr.followedBy p.expr e) last.expr
      depth := 1 + (r.parts.map Part.depth).foldr max 0 }

/-- The current group as one part: its branches and the sequence that is
being read. -/
def group (r : Reader) : Part :=
  match r.branches with
  | [] => r.sequence
  | bs =>
    let last := r.sequence
    { expr := bs.foldl (fun e b => .alt b.expr e) last.expr
      depth := 1 + ((last :: bs).map Part.depth).foldr max 0 }

/-- Takes the latest part of the sequence away, to repeat it. -/
def takeRepeated (r : Reader) : Except Error (Part × Reader) :=
  match r.parts with
  | [] => .error .nothingToRepeat
  | p :: ps => if p.setsFlags then .error .nothingToRepeat else .ok (p, { r with parts := ps })

/-- Repeats the latest part. -/
def repeatLast (r : Reader) (min : Nat) (max : Option Nat) (rest : Text) :
    Except Error Reader := do
  let (p, r) ← r.takeRepeated
  pure (r.push { expr := .repeated min max p.expr, depth := 1 + p.depth } rest)

/-! ### Repetitions -/

/-- Drops the question mark that makes a repetition prefer few
copies. -/
def dropLazy : Text → Text
  | '?' :: cs => cs
  | t => t

/-- Reads the digits of a count. -/
def digits (spaced : Bool) : Nat → List Char → Text → List Char × Text
  | 0, ds, t => (ds.reverse, t)
  | _ + 1, ds, [] => (ds.reverse, [])
  | fuel + 1, ds, c :: cs =>
    if c.isDigit then digits spaced fuel (c :: ds) (skip spaced cs) else (ds.reverse, c :: cs)

/-- Reads a count with white space around it; `none` where there are no
digits. -/
def count (spaced : Bool) (t : Text) : Except Error (Option Nat × Text) :=
  let t := t.dropWhile Unicode.isWhiteSpace
  let (ds, t) := digits spaced (t.length + 1) [] t
  let t := skip spaced (t.dropWhile Unicode.isWhiteSpace)
  match ds with
  | [] => .ok (none, t)
  | ds =>
    let n := ds.foldl (fun n d => 10 * n + (d.toNat - '0'.toNat)) 0
    if n < 0x100000000 then .ok (some n, t) else .error .badCounts

/-- Reads a counted repetition from behind its opening brace. -/
def counted (r : Reader) (t : Text) : Except Error Reader := do
  let spaced := r.flags.ignoreSpace
  let (p, r) ← r.takeRepeated
  let t := skip spaced t
  if t.isEmpty then throw .badCounts
  let (least, t) ← count spaced t
  let close (min : Nat) (max : Option Nat) (t : Text) : Except Error Reader :=
    match t with
    | '}' :: cs =>
      if max.any (· < min) then .error .badCounts
      else
        .ok (r.push { expr := .repeated min max p.expr, depth := 1 + p.depth }
          (dropLazy (skip spaced cs)))
    | _ => .error .badCounts
  match t with
  | [] => throw .badCounts
  | ',' :: cs =>
    match skip spaced cs, least with
    | [], _ => throw .badCounts
    | '}' :: cs, some n => close n none ('}' :: cs)
    | t, some n =>
      match ← count spaced t with
      | (some m, t) => close n (some m) t
      | (none, _) => throw .badCounts
    | _, none => throw .badCounts
  | t =>
    match least with
    | some n => close n (some n) t
    | none => throw .badCounts

/-! ### Groups -/

/-- Sets the flag with the given letter. -/
def setFlag (f : Flags) (value : Bool) (letter : Char) : Option Flags :=
  match letter with
  | 'i' => some { f with ignoreCase := value }
  | 'm' => some { f with multiLine := value }
  | 's' => some { f with dotNewline := value }
  | 'U' => some { f with swapGreed := value }
  | 'u' => some { f with unicode := value }
  | 'R' => some { f with crlf := value }
  | 'x' => some { f with ignoreSpace := value }
  | _ => none

/-- Reads flags up to a colon or a closing parenthesis. Gives the flags,
whether there were any, the character that ends them and the rest. -/
def flagList (seen : List Char) (value : Bool) (f : Flags) :
    Text → Except Error (Flags × Bool × Char × Text)
  | [] => .error .badFlags
  | c :: cs =>
    if c = ':' ∨ c = ')' then
      if seen.head? = some '-' then .error .badFlags else .ok (f, !seen.isEmpty, c, cs)
    else if seen.contains c then .error .badFlags
    else if c = '-' then flagList ('-' :: seen) false f cs
    else
      match setFlag f value c with
      | some f => flagList (c :: seen) value f cs
      | none => .error .badFlags

/-- Whether a character may stand in the name of a group. -/
def isNameCharacter (first : Bool) (c : Char) : Bool :=
  if first then c == '_' || Unicode.isAlphabetic c
  else c == '_' || c == '.' || c == '[' || c == ']' || Unicode.isAlphanumeric c

/-- Reads the name of a group up to its closing angle bracket. -/
def groupName (t : Text) : Except Error (Text × Text) :=
  let name := t.takeWhile (· != '>')
  match t.dropWhile (· != '>') with
  | [] => .error .badGroupName
  | _ :: rest =>
    match name with
    | [] => .error .badGroupName
    | c :: cs =>
      if isNameCharacter true c && cs.all (isNameCharacter false) then .ok (name, rest)
      else .error .badGroupName

/-- Opens a group whose inside is read under the given flags. -/
def openGroup (r : Reader) (inner : Flags) (rest : Text) : Reader :=
  { r with
    parts := [], branches := [],
    opened := ⟨r.parts, r.branches, r.flags⟩ :: r.opened,
    flags := inner, rest := rest }

/-- Opens a group with a name. -/
def openNamed (r : Reader) (t : Text) : Except Error Reader := do
  let (name, rest) ← groupName t
  if r.names.contains name then throw .badGroupName
  pure ({ r with names := name :: r.names }.openGroup r.flags rest)

/-- Reads the opening of a group from behind its parenthesis. -/
def parenthesis (r : Reader) (t : Text) : Except Error Reader := do
  match skip r.flags.ignoreSpace t with
  | '?' :: '=' :: _ | '?' :: '!' :: _ => throw .lookAround
  | '?' :: '<' :: '=' :: _ | '?' :: '<' :: '!' :: _ => throw .lookAround
  | '?' :: 'P' :: '<' :: cs => r.openNamed cs
  | '?' :: '<' :: cs => r.openNamed cs
  | '?' :: cs =>
    let (flags, any, last, rest) ← flagList [] true r.flags cs
    if last = ':' then pure (r.openGroup flags rest)
    else if any then
      pure { r with
        parts := { expr := .empty, setsFlags := true } :: r.parts, flags := flags, rest := rest }
    else throw .nothingToRepeat
  | cs => pure (r.openGroup r.flags cs)

/-- Closes the innermost group. -/
def closeGroup (r : Reader) (rest : Text) : Except Error Reader :=
  match r.opened with
  | [] => .error .unopenedGroup
  | g :: gs =>
    let inner := r.group
    .ok { r with
      parts := { expr := inner.expr, depth := 1 + inner.depth } :: g.parts
      branches := g.branches, opened := gs, flags := g.flags, rest := rest }

/-! ### Reading on -/

/-- Reads the next symbol, group border, class or escape, which starts
with `c`. -/
def next (r : Reader) (c : Char) (cs : Text) : Except Error Reader := do
  match c with
  | '(' => r.parenthesis cs
  | ')' => r.closeGroup cs
  | '|' => pure { r with parts := [], branches := r.sequence :: r.branches, rest := cs }
  | '[' =>
    let (n, rest) ← bracket r.flags cs
    pure (r.push { expr := .set n.charClass, depth := n.depth } rest)
  | '?' => r.repeatLast 0 (some 1) (dropLazy cs)
  | '*' => r.repeatLast 0 none (dropLazy cs)
  | '+' => r.repeatLast 1 none (dropLazy cs)
  | '{' => r.counted cs
  | '\\' =>
    let (a, rest) ← escape r.flags.ignoreSpace cs
    pure (r.push { expr := ← r.flags.atom a } rest)
  | '.' => pure (r.push { expr := ← r.flags.dot } cs)
  | '^' => pure (r.push { expr := .anchor (r.flags.anchor .caret) } cs)
  | '$' => pure (r.push { expr := .anchor (r.flags.anchor .dollar) } cs)
  | c => pure (r.push { expr := ← r.flags.literal ⟨c, false⟩ } cs)

/-- Reads to the end of the pattern. Every symbol takes at least one
character, so `fuel` may be the length of the pattern. -/
def run : Nat → Reader → Except Error Part
  | fuel, r =>
    match skip r.flags.ignoreSpace r.rest with
    | [] => if r.opened.isEmpty then .ok r.group else .error .unclosedGroup
    | c :: cs =>
      match fuel with
      | 0 => .error .tooLarge
      | fuel + 1 =>
        match r.next c cs with
        | .ok r => run fuel r
        | .error e => .error e

end Reader

/-- How deeply groups, repetitions and classes may be nested. -/
def depthLimit : Nat := 250

/-- The expression that a pattern stands for. -/
def parse (t : Text) : Except Error Expr := do
  let whole ← Reader.run t.length { rest := t }
  if depthLimit < whole.depth then throw .tooDeep
  if whole.expr.isTooLarge then throw .tooLarge
  pure whole.expr

end SiteSync.Pattern
