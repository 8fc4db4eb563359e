import Captions.Decimal.Shortest

/-!
# Single-precision numbers as text

The shortest decimal of a number, written in full: never with an exponent, with a point only where
there are decimal places, and with the sign of a negative zero.
-/

namespace Captions

/-- A decimal without exponent. -/
def Decimal.positional (d : Decimal) : List Char :=
  let digits := Nat.toDigits 10 d.digits
  let places := (-d.exponent).toNat
  if places = 0 then digits ++ List.replicate d.exponent.toNat '0'
  else
    let padded := List.replicate (places + 1 - digits.length) '0' ++ digits
    padded.take (padded.length - places) ++ '.' :: padded.drop (padded.length - places)

/-- The magnitude of a single-precision number with the biased exponent and the fraction that its
bits hold; zero has none. -/
def Binary.ofBinary32? (biased fraction : Nat) : Option Binary :=
  if biased = 0 then
    if fraction = 0 then none else some ⟨fraction, -149, false⟩
  else some ⟨0x800000 + fraction, biased - 150, fraction = 0 && 1 < biased⟩

/-- The digits of the magnitude. No single-precision number reaches `10 ^ 39`, and the smallest one
is above `10 ^ (-45)`, with at most nine digits. -/
def Binary.magnitude32 (biased fraction : Nat) : List Char :=
  match (ofBinary32? biased fraction).bind (·.shortest? 39 (-60)) with
  | some d => d.positional
  | none => ['0']

/-- A single-precision number as text. -/
def float32Text (x : Float32) : String :=
  let bits := x.toBits.toNat
  let sign := if bits < 0x80000000 then [] else ['-']
  let biased := bits / 0x800000 % 0x100
  let fraction := bits % 0x800000
  if biased = 0xFF then
    if fraction = 0 then String.ofList (sign ++ ['i', 'n', 'f']) else "NaN"
  else String.ofList (sign ++ Binary.magnitude32 biased fraction)

end Captions
