import SiteSync.Pattern.Escape

/-!
# `SiteSync.Pattern.Bracket`: bracketed classes

A bracketed class is a union of characters, ranges, escapes, named ASCII
classes and nested brackets. `&&`, `--` and `~~` combine all that stands
before them in the same brackets with what follows, from left to right.

`bracket` reads a class from its opening bracket on. Each class comes
with its nesting depth.
-/

set_option autoImplicit false

namespace SiteSync.Pattern

/-- A class and how deeply brackets, unions and operations are nested in
it. -/
structure Nested where
  /-- The class. -/
  charClass : CharClass
  /-- The depth of nesting. -/
  depth : Nat := 0
deriving Repr, DecidableEq

/-- The operations between the parts of a class. -/
inductive SetOp where
  /-- What is in both parts. -/
  | intersection
  /-- What is in the first part only. -/
  | difference
  /-- What is in one of the parts only. -/
  | symmetricDifference
deriving Repr, DecidableEq

/-- The class of an operation. -/
def SetOp.apply : SetOp → CharClass → CharClass → CharClass
  | .intersection => .inter
  | .difference => .diff
  | .symmetricDifference => .symmDiff

/-- What is still open around the union that is being read: brackets
with what stood before them, or an operation that waits for its second
operand. -/
inductive ClassFrame where
  /-- Brackets, with the parts before them. -/
  | bracket (before : List Nested) (negated : Bool)
  /-- An operation, with its first operand. -/
  | operation (op : SetOp) (first : Nested)
deriving Repr

/-- The union of the parts that were read, the latest first. -/
def unionOf : List Nested → Nested
  | [] => ⟨.none, 0⟩
  | [n] => n
  | ns =>
    ⟨ns.foldr (fun n c => .union c n.charClass) .none, 1 + (ns.map Nested.depth).foldr max 0⟩

/-- Completes an operation that waits for `second`. -/
def closeOperation (f : Flags) (second : Nested) :
    List ClassFrame → Nested × List ClassFrame
  | .operation op first :: frames =>
    (⟨op.apply (f.fold first.charClass) (f.fold second.charClass),
      1 + max first.depth second.depth⟩, frames)
  | frames => (second, frames)

/-- The opening of brackets: whether they are negated, and the dashes
and the closing bracket that stand first and mean themselves. -/
def openBracket (spaced : Bool) (t : Text) : Except Error (Bool × List Nested × Text) := do
  let dash : Nested := ⟨CharClass.ofChar '-', 0⟩
  let rec dashes : Nat → List Nested → Text → List Nested × Text
    | 0, parts, t => (parts, t)
    | fuel + 1, parts, t =>
      match t with
      | '-' :: cs => dashes fuel (dash :: parts) (skip spaced cs)
      | t => (parts, t)
  let inner (negated : Bool) (t : Text) : Except Error (Bool × List Nested × Text) :=
    let (parts, t) := dashes (t.length + 1) [] t
    match parts, t with
    | [], ']' :: cs =>
      match skip spaced cs with
      | [] => .error .unclosedClass
      | cs => .ok (negated, [⟨CharClass.ofChar ']', 0⟩], cs)
    | _, [] => .error .unclosedClass
    | parts, t => .ok (negated, parts, t)
  match skip spaced t with
  | [] => throw .unclosedClass
  | '^' :: cs =>
    match skip spaced cs with
    | [] => throw .unclosedClass
    | cs => inner true cs
  | cs => inner false cs

/-- A named ASCII class, read from behind its opening bracket. -/
def asciiBracket? (t : Text) : Option (List (Nat × Nat) × Bool × Text) :=
  match t with
  | ':' :: cs =>
    let (negated, cs) := match cs with
      | '^' :: cs => (true, cs)
      | cs => (false, cs)
    match cs.dropWhile (· != ':') with
    | ':' :: ']' :: rest =>
      (asciiClass? (String.ofList (cs.takeWhile (· != ':')))).map fun rs => (rs, negated, rest)
    | _ => none
  | _ => none

/-- The character behind the first of the text, white space and the
opening of a comment passed over where they do not count. -/
def peek (spaced : Bool) (t : Text) : Option Char :=
  let rec look (comment : Bool) : Text → Option Char
    | [] => none
    | c :: cs =>
      if Unicode.isWhiteSpace c then look comment cs
      else if !comment && c = '#' then look true cs
      else some c
  if spaced then
    let behind := t.drop 1
    (look false behind) <|> behind.head?
  else (t.drop 1).head?

/-- Reads one symbol or escape inside brackets. -/
def classAtom (spaced : Bool) (t : Text) : Except Error (Atom × Text) :=
  match t with
  | [] => .error .unclosedClass
  | '\\' :: cs => escape spaced cs
  | c :: cs => .ok (.literal ⟨c, false⟩, cs)

/-- Reads a character, a range or an escape inside brackets. -/
def classRange (f : Flags) (t : Text) : Except Error (Nested × Text) := do
  let spaced := f.ignoreSpace
  let (first, rest) ← classAtom spaced t
  let rest := skip spaced rest
  match rest with
  | [] => throw .unclosedClass
  | c :: cs =>
    if c != '-' || peek spaced rest == some ']' || peek spaced rest == some '-' then
      pure (⟨← f.atomClass first, 0⟩, rest)
    else
      match skip spaced cs with
      | [] => throw .unclosedClass
      | cs =>
        let (second, rest) ← classAtom spaced cs
        match first, second with
        | .literal a, .literal b =>
          if b.char.toNat < a.char.toNat then throw .badRange
          pure (⟨.range (← f.member a) (← f.member b), 0⟩, rest)
        | _, _ => throw .badRange

/-- Reads a class until its outermost bracket is closed. `parts` is the
union being read, the latest part first. -/
def classBody (f : Flags) : Nat → List ClassFrame → List Nested → Text →
    Except Error (Nested × Text)
  | 0, _, _, _ => .error .unclosedClass
  | fuel + 1, frames, parts, t =>
    let spaced := f.ignoreSpace
    let operation (op : SetOp) (rest : Text) : Except Error (Nested × Text) :=
      let (first, frames) := closeOperation f (unionOf parts) frames
      classBody f fuel (.operation op first :: frames) [] rest
    match skip spaced t with
    | [] => .error .unclosedClass
    | '[' :: cs =>
      match asciiBracket? cs with
      | some (rs, negated, rest) =>
        match f.asciiMember rs negated with
        | .ok c => classBody f fuel frames (⟨c, 0⟩ :: parts) rest
        | .error e => .error e
      | none =>
        match openBracket spaced cs with
        | .ok (negated, inner, rest) =>
          classBody f fuel (.bracket parts negated :: frames) inner rest
        | .error e => .error e
    | ']' :: cs =>
      let (whole, frames) := closeOperation f (unionOf parts) frames
      match frames with
      | .bracket before negated :: outer =>
        match f.bracket negated whole.charClass with
        | .ok c =>
          let closed : Nested := ⟨c, 1 + whole.depth⟩
          match outer with
          | [] => .ok (closed, cs)
          | _ => classBody f fuel outer (closed :: before) cs
        | .error e => .error e
      | _ => .error .unclosedClass
    | '&' :: '&' :: cs => operation .intersection cs
    | '-' :: '-' :: cs => operation .difference cs
    | '~' :: '~' :: cs => operation .symmetricDifference cs
    | t =>
      match classRange f t with
      | .ok (n, rest) => classBody f fuel frames (n :: parts) rest
      | .error e => .error e

/-- Reads a bracketed class from behind its opening bracket on. -/
def bracket (f : Flags) (t : Text) : Except Error (Nested × Text) :=
  match openBracket f.ignoreSpace t with
  | .ok (negated, parts, rest) =>
    classBody f (t.length + 1) [.bracket [] negated] parts rest
  | .error e => .error e

end SiteSync.Pattern
