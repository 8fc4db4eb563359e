import Captions.ConfigFile.Text

/-!
# Numbers of a TOML document

Integers of 64 bits to base 10, 16, 8 and 2, and floating-point numbers of double precision.
Underscores may stand between digits. A decimal number has no leading zeros. A floating-point number
in figures may be too large for double precision only if it is negative.
-/

namespace Captions.ConfigFile

/-- A value that a setting may have. -/
inductive Scalar where
  | text (text : String)
  | integer (value : Int)
  | float (value : Float)

/-! ## Digits -/

/-- A digit to base 8. -/
def isOctalDigit (c : Char) : Bool := '0' ≤ c && c ≤ '7'

/-- A digit to base 2. -/
def isBinaryDigit (c : Char) : Bool := c = '0' || c = '1'

/-- The digits of `cs`: groups of at least one digit with single underscores between them. -/
def digits? (isDigit : Char → Bool) (cs : List Char) : Option (List Char) :=
  let groups := cs.splitOnP (· = '_')
  if groups.all fun group => !group.isEmpty && group.all isDigit then some groups.flatten else none

/-- The number that digits denote. -/
def ofDigits (base : Nat) (digits : List Char) : Nat :=
  digits.foldl (fun n c => base * n + hexValue c) 0

/-- The decimal digits of `cs`, which have no leading zero. -/
def wholeDigits? (cs : List Char) : Option (List Char) := do
  let digits ← digits? Char.isDigit cs
  if digits.length = 1 ∨ digits.head? ≠ some '0' then return digits else none

/-- The sign in front of a number, negative or not, and what follows. -/
def splitSign : List Char → Bool × List Char
  | '-' :: cs => (true, cs)
  | '+' :: cs => (false, cs)
  | cs => (false, cs)

/-! ## Integers -/

/-- The numbers of 64 bits. -/
def withinInt64 (n : Int) : Bool := -0x8000000000000000 ≤ n && n < 0x8000000000000000

/-- An integer, whatever its size. -/
def unboundedInteger? : List Char → Option Int
  | '0' :: 'x' :: cs => (digits? isHexDigit cs).map fun ds => ofDigits 16 ds
  | '0' :: 'o' :: cs => (digits? isOctalDigit cs).map fun ds => ofDigits 8 ds
  | '0' :: 'b' :: cs => (digits? isBinaryDigit cs).map fun ds => ofDigits 2 ds
  | cs =>
    let (negative, cs) := splitSign cs
    (wholeDigits? cs).map fun ds => if negative then -(ofDigits 10 ds) else ofDigits 10 ds

/-- An integer of 64 bits. -/
def integer? (cs : List Char) : Option Int := (unboundedInteger? cs).filter withinInt64

/-! ## Floating-point numbers -/

/-- The number `digits * 10 ^ exponent`, rounded to double precision, with its sign. One that is too
large is refused if it is positive, and is the negative infinity if it is negative. -/
def ofDecimal? (negative : Bool) (digits : List Char) (exponent : Int) : Option Float :=
  let magnitude := Float.ofScientific (ofDigits 10 digits) (exponent < 0) exponent.natAbs
  if negative then some (-magnitude)
  else if magnitude.isFinite then some magnitude
  else none

/-- The exponent of a floating-point number, behind its `e`. -/
def exponent? (cs : List Char) : Option Int :=
  let (negative, cs) := splitSign cs
  (digits? Char.isDigit cs).map fun ds => if negative then -(ofDigits 10 ds) else ofDigits 10 ds

/-- A floating-point number in figures: a whole part, then decimal places, an exponent, or both. -/
def figures? (negative : Bool) (cs : List Char) : Option Float := do
  let isExponentMark (c : Char) : Bool := c = 'e' || c = 'E'
  let mantissa := cs.takeWhile (!isExponentMark ·)
  let whole ← wholeDigits? (mantissa.takeWhile (· ≠ '.'))
  let places ← match mantissa.dropWhile (· ≠ '.') with
    | [] => some none
    | _ :: places => (digits? Char.isDigit places).map some
  let exponent ← match cs.dropWhile (!isExponentMark ·) with
    | [] => some none
    | _ :: exponent => (exponent? exponent).map some
  if places.isNone ∧ exponent.isNone then none
  ofDecimal? negative (whole ++ places.getD []) (exponent.getD 0 - (places.getD []).length)

/-- A floating-point number, in figures or by name. -/
def float? (cs : List Char) : Option Float :=
  let (negative, cs) := splitSign cs
  if cs = ['i', 'n', 'f'] then some (if negative then -1 / 0 else 1 / 0)
  else if cs = ['n', 'a', 'n'] then some (0 / 0)
  else figures? negative cs

/-! ## Values -/

/-- What a number may be made of. -/
def isNumberChar (c : Char) : Bool := c.isAlphanum || c = '_' || c = '+' || c = '-' || c = '.'

/-- A number. What stands next to a number is never a character that a number may be made of, so the
longest run of such characters is read. -/
def number : Reader Scalar := do
  let cs ← Reader.run₁ isNumberChar
  match integer? cs with
  | some n => return .integer n
  | none =>
    match float? cs with
    | some x => return .float x
    | none => failure

/-- A text or a number. -/
def scalar : Reader Scalar := (do return .text (← anyText)) <|> number

end Captions.ConfigFile
