import SiteSync.Yaml.Chars
import SiteSync.Yaml.Node

/-!
# `SiteSync.Yaml.Resolve`: what a plain scalar is

A scalar without marks is null, a boolean, a number or a text, by the
way it looks.
-/

set_option autoImplicit false

namespace SiteSync.Yaml

/-- What a scalar resolves to. Nothing here needs the value of a
number. -/
inductive Resolved where
  /-- Null, or nothing at all. -/
  | null
  /-- A truth value. -/
  | bool (value : Bool)
  /-- An integer; `wide` says that it takes more than 64 bits. -/
  | int (wide : Bool)
  /-- A number with a fraction or exponent, or none. -/
  | float
  /-- Anything else. -/
  | text
deriving Repr, DecidableEq

/-- Whether a scalar is null. -/
def isNull (t : Text) : Bool :=
  ["~", "null", "Null", "NULL"].any (·.toList == t)

/-- The truth value a scalar names. -/
def bool? (t : Text) : Option Bool :=
  if ["true", "True", "TRUE"].any (·.toList == t) then some true
  else if ["false", "False", "FALSE"].any (·.toList == t) then some false
  else none

/-! ### Integers -/

/-- The value of a digit in a base. -/
def digit? (base : Nat) (c : Char) : Option Nat := (hexDigit? c).filter (· < base)

/-- The value of one or more digits in a base. -/
def digits? (base : Nat) (t : Text) : Option Nat :=
  if t = [] then none else t.foldlM (fun v c => (digit? base c).map (v * base + ·)) 0

/-- The digits behind the sign of a base. -/
def based? (t : Text) : Option Nat :=
  match t with
  | '0' :: 'x' :: ds => digits? 16 ds
  | '0' :: 'o' :: ds => digits? 8 ds
  | '0' :: 'b' :: ds => digits? 2 ds
  | _ => none

/-- Whether a scalar has more than one digit, all decimal, and a zero
first. Such a scalar is a text. -/
def isZeroPadded (t : Text) : Bool :=
  let digits := match t with
    | '+' :: ds => ds
    | '-' :: ds => ds
    | ds => ds
  1 < digits.length && digits.head? == some '0' && digits.all Char.isDigit

/-- The integer a scalar without a minus is written as. -/
def unsigned? (t : Text) : Option Nat :=
  (based? t).or (if isZeroPadded t then none else digits? 10 t)

/-- The integer a scalar is written as. -/
def int? : Text → Option Int
  | '+' :: t => (unsigned? t).map Int.ofNat
  | '-' :: t => (unsigned? t).map fun n => -Int.ofNat n
  | t => (unsigned? t).map Int.ofNat

/-- Whether an integer fits into a number of bits, read with a sign or
without one. -/
def fits (bits : Nat) (i : Int) : Bool :=
  let limit : Nat := 1 <<< bits
  i < limit && -(limit / 2 : Int) ≤ i

/-- How an integer resolves: into 64 bits, into 128, or not at all. -/
def sized? (i : Int) : Option Resolved :=
  if fits 64 i then some (.int false)
  else if fits 128 i then some (.int true)
  else none

/-! ### Other numbers -/

/-- A decimal number: `mantissa * 10 ^ exponent`. -/
structure Decimal where
  /-- The digits as an integer. -/
  mantissa : Nat
  /-- The power of ten. -/
  exponent : Int

/-- The exponent behind the mantissa, if there is one. -/
def exponent? : Text → Option Int
  | [] => some 0
  | e :: rest =>
    if e == 'e' || e == 'E' then
      match rest with
      | '+' :: ds => (digits? 10 ds).map Int.ofNat
      | '-' :: ds => (digits? 10 ds).map fun n => -Int.ofNat n
      | ds => (digits? 10 ds).map Int.ofNat
    else none

/-- The decimal number a scalar without a sign is written as. -/
def decimal? (t : Text) : Option Decimal := do
  let whole := t.takeWhile Char.isDigit
  let rest := t.dropWhile Char.isDigit
  let (fraction, rest) := match rest with
    | '.' :: rest => (rest.takeWhile Char.isDigit, rest.dropWhile Char.isDigit)
    | rest => ([], rest)
  let mantissa ← digits? 10 (whole ++ fraction)
  let exponent ← exponent? rest
  pure ⟨mantissa, exponent - fraction.length⟩

/-- The least integer that no double stands for: half a unit above the
greatest double. -/
def beyondDoubles : Nat := 1 <<< 1024 - 1 <<< 970

/-- A number with some zeros behind its digits. -/
def shifted (zeros n : Nat) : Nat := n * Nat.pow 10 zeros

/-- Whether a decimal number rounds to a double. Numbers with more than
400 digits before the point do not, those with a few less are
compared. -/
def Decimal.isDouble (d : Decimal) : Bool :=
  let digits : Int := (Nat.toDigits 10 d.mantissa).length
  if d.mantissa = 0 ∨ digits + d.exponent < 300 then true
  else if 400 < digits + d.exponent then false
  else if d.exponent < 0 then d.mantissa < shifted (-d.exponent).toNat beyondDoubles
  else shifted d.exponent.toNat d.mantissa < beyondDoubles

/-- Whether a scalar is a number with a fraction or exponent, infinite,
or no number. -/
def isFloat (t : Text) : Bool :=
  let unsigned := match t with
    | '+' :: u => u
    | '-' :: u => u
    | u => u
  [".inf", ".Inf", ".INF"].any (·.toList == unsigned)
    || [".nan", ".NaN", ".NAN"].any (·.toList == t)
    || (decimal? unsigned).any Decimal.isDouble

/-- The integer or other number that a scalar is written as. -/
def number? (t : Text) : Option Resolved :=
  match (int? t).bind sized? with
  | some r => some r
  | none => if !isZeroPadded t && isFloat t then some .float else none

/-- What a scalar without marks and tag resolves to. -/
def resolve (t : Text) : Resolved :=
  if t = [] ∨ isNull t then .null
  else
    match bool? t with
    | some b => .bool b
    | none => (number? t).getD .text

/-! ### Tags -/

/-- The tag of a kind of scalar that YAML itself names. -/
def standardTag (kind : String) : Bytes := Text.toBytes ("tag:yaml.org,2002:" ++ kind).toList

/-- Whether a tag is one of an application's own. -/
def isLocalTag (tag : Bytes) : Bool :=
  tag.head? == some 0x21 && (String.fromUTF8? (ByteArray.mk tag.toArray)).isSome

/-- What a tagged or marked scalar resolves to; an application's own tag
cannot be resolved. -/
def resolveScalar (tag : Option Bytes) (style : ScalarStyle) (t : Text) :
    Except Error Resolved :=
  match tag with
  | none => .ok (if style = .plain then resolve t else .text)
  | some tag =>
    if isLocalTag tag then .error .wrongKind
    else if tag = standardTag "bool" then
      match bool? t with
      | some b => .ok (.bool b)
      | none => .error .wrongKind
    else if tag = standardTag "int" then
      match (int? t).bind sized? with
      | some r => .ok r
      | none => .error .wrongKind
    else if tag = standardTag "float" then
      if isFloat t then .ok .float else .error .wrongKind
    else if tag = standardTag "null" then
      if isNull t then .ok .null else .error .wrongKind
    else if tag.head? = some 0x21 ∧ style = .plain then .ok (resolve t)
    else .ok .text

end SiteSync.Yaml
