import SiteSync.Pattern.Flags

/-!
# `SiteSync.Pattern.Escape`: backslash escapes

`escape` reads what follows a backslash and gives the atom it stands for
and the rest of the pattern. Where the flag `x` is set, white space and
comments between the parts of an escape do not count.
-/

set_option autoImplicit false

namespace SiteSync.Pattern

/-! ### White space and comments -/

/-- Drops white space and comments; `comment` says that the text starts
inside a comment. -/
def dropSpace (comment : Bool) : Text → Text
  | [] => []
  | c :: cs =>
    if comment then dropSpace (c != '\n') cs
    else if Unicode.isWhiteSpace c then dropSpace false cs
    else if c = '#' then dropSpace true cs
    else c :: cs

/-- Drops white space and comments where they do not count. -/
def skip (spaced : Bool) (t : Text) : Text := if spaced then dropSpace false t else t

/-! ### Characters by number -/

/-- The character with the given code point, if there is one. -/
def charOfCode? (n : Nat) : Option Char :=
  if n.isValidChar then some (Char.ofNat n) else none

/-- Reads `count` hexadecimal digits. -/
def hexDigits (spaced : Bool) : Nat → Nat → Text → Except Error (Nat × Text)
  | 0, n, t => .ok (n, t)
  | count + 1, n, t =>
    match t with
    | [] => .error .badEscape
    | d :: ds =>
      match Unicode.hexValue? d with
      | none => .error .badEscape
      | some v => hexDigits spaced count (16 * n + v) (skip spaced ds)

/-- Reads hexadecimal digits up to a closing brace. -/
def hexBraced (spaced : Bool) : Nat → List Nat → Text → Except Error (List Nat × Text)
  | 0, _, _ => .error .badEscape
  | _ + 1, _, [] => .error .badEscape
  | fuel + 1, digits, d :: ds =>
    if d = '}' then .ok (digits.reverse, skip spaced ds)
    else
      match Unicode.hexValue? d with
      | none => .error .badEscape
      | some v => hexBraced spaced fuel (v :: digits) (skip spaced ds)

/-- The code point that hexadecimal digits write. -/
def numberOf (digits : List Nat) : Nat := digits.foldl (fun n d => 16 * n + d) 0

/-- Reads the digits behind `\x`, `\u` or `\U`: as many as the letter
asks for, or any number of them between braces. -/
def hexLiteral (spaced : Bool) (letter : Char) (t : Text) : Except Error (Literal × Text) := do
  match skip spaced t with
  | '{' :: ds =>
    let (digits, rest) ← hexBraced spaced (ds.length + 1) [] (skip spaced ds)
    if digits.isEmpty then throw .badEscape
    match charOfCode? (numberOf digits) with
    | some c => pure (⟨c, false⟩, rest)
    | none => throw .badEscape
  | ds =>
    let count := if letter = 'x' then 2 else if letter = 'u' then 4 else 8
    let (n, rest) ← hexDigits spaced count 0 ds
    match charOfCode? n with
    | some c => pure (⟨c, letter == 'x'⟩, rest)
    | none => throw .badEscape

/-! ### Properties -/

/-- Reads the name of a property up to a closing brace. -/
def bracedName (spaced : Bool) : Nat → Text → Text → Except Error (Text × Text)
  | 0, _, _ => .error .badEscape
  | _ + 1, _, [] => .error .badEscape
  | fuel + 1, name, c :: cs =>
    if c = '}' then .ok (name.reverse, cs)
    else bracedName spaced fuel (c :: name) (skip spaced cs)

/-- Splits a text around the first place where `sep` stands. -/
def splitAround? (sep : Text) : Text → Option (Text × Text)
  | [] => none
  | c :: cs =>
    match Text.stripPrefix? sep (c :: cs) with
    | some rest => some ([], rest)
    | none => (splitAround? sep cs).map fun parts => (c :: parts.1, parts.2)

/-- The property with the given name between braces, and whether the
name itself negates it: `!=`, `:` and `=` come before a value. -/
def namedProperty (name : Text) : Except Error (List (Nat × Nat) × Bool) :=
  let found (set : Option (List (Nat × Nat))) (negated : Bool) :
      Except Error (List (Nat × Nat) × Bool) :=
    match set with
    | some rs => .ok (rs, negated)
    | none => .error .unknownProperty
  match splitAround? ['!', '='] name with
  | some (p, v) => found (Unicode.byValue? p v) true
  | none =>
    match splitAround? [':'] name with
    | some (p, v) => found (Unicode.byValue? p v) false
    | none =>
      match splitAround? ['='] name with
      | some (p, v) => found (Unicode.byValue? p v) false
      | none => found (Unicode.byName? name) false

/-- Reads what follows `\p` or `\P`. -/
def propertyAtom (spaced negated : Bool) (t : Text) : Except Error (Atom × Text) := do
  match skip spaced t with
  | [] => throw .badEscape
  | '{' :: cs =>
    let (name, rest) ← bracedName spaced (cs.length + 1) [] (skip spaced cs)
    let (rs, inner) ← namedProperty name
    pure (.property rs (negated != inner), rest)
  | '\\' :: _ => throw .badEscape
  | c :: cs =>
    match Unicode.byName? [c] with
    | some rs => pure (.property rs negated, skip spaced cs)
    | none => throw .unknownProperty

/-! ### Words -/

/-- Whether a character may stand in the name of a word assertion. -/
def isAssertionLetter (c : Char) : Bool := c.isAlpha || c == '-'

/-- Reads the letters of the name of a word assertion. -/
def assertionName (spaced : Bool) : Nat → Text → Text → Text × Text
  | 0, name, t => (name.reverse, t)
  | _ + 1, name, [] => (name.reverse, [])
  | fuel + 1, name, c :: cs =>
    if isAssertionLetter c then assertionName spaced fuel (c :: name) (skip spaced cs)
    else (name.reverse, c :: cs)

/-- Reads what follows `\b`: a name between braces, or nothing. A brace
before anything but a letter starts a repetition. -/
def wordAssertion (spaced : Bool) (t : Text) : Except Error (Assertion × Text) :=
  match t with
  | '{' :: cs =>
    match skip spaced cs with
    | [] => .error .badEscape
    | c :: more =>
      if !isAssertionLetter c then .ok (.wordBoundary, t)
      else
        let (name, rest) := assertionName spaced (more.length + 1) [] (c :: more)
        match rest with
        | '}' :: rest =>
          match String.ofList name with
          | "start" => .ok (.wordStart, rest)
          | "end" => .ok (.wordEnd, rest)
          | "start-half" => .ok (.wordStartHalf, rest)
          | "end-half" => .ok (.wordEndHalf, rest)
          | _ => .error .badEscape
        | _ => .error .badEscape
  | _ => .ok (.wordBoundary, t)

/-! ### Escapes -/

/-- Whether a backslash before a character makes it stand for itself:
every ASCII character but letters, digits and angle brackets. -/
def isEscapable (c : Char) : Bool :=
  c.toNat < 128 && !c.isAlphanum && c != '<' && c != '>'

/-- Reads what follows a backslash. -/
def escape (spaced : Bool) (t : Text) : Except Error (Atom × Text) :=
  let literal (c : Char) (rest : Text) : Except Error (Atom × Text) :=
    .ok (.literal ⟨c, false⟩, rest)
  match t with
  | [] => .error .badEscape
  | c :: cs =>
    match c with
    | 'x' | 'u' | 'U' =>
      match hexLiteral spaced c cs with
      | .ok (l, rest) => .ok (.literal l, rest)
      | .error e => .error e
    | 'p' => propertyAtom spaced false cs
    | 'P' => propertyAtom spaced true cs
    | 'd' => .ok (.shorthand .digit false, cs)
    | 'D' => .ok (.shorthand .digit true, cs)
    | 's' => .ok (.shorthand .space false, cs)
    | 'S' => .ok (.shorthand .space true, cs)
    | 'w' => .ok (.shorthand .word false, cs)
    | 'W' => .ok (.shorthand .word true, cs)
    | 'a' => literal '\x07' cs
    | 'f' => literal '\x0c' cs
    | 't' => literal '\t' cs
    | 'n' => literal '\n' cs
    | 'r' => literal '\r' cs
    | 'v' => literal '\x0b' cs
    | 'A' => .ok (.assertion .textStart, cs)
    | 'z' => .ok (.assertion .textEnd, cs)
    | 'b' =>
      match wordAssertion spaced cs with
      | .ok (a, rest) => .ok (.assertion a, rest)
      | .error e => .error e
    | 'B' => .ok (.assertion .notWordBoundary, cs)
    | '<' => .ok (.assertion .wordStart, cs)
    | '>' => .ok (.assertion .wordEnd, cs)
    | c => if isEscapable c then literal c cs else .error .badEscape

end SiteSync.Pattern
