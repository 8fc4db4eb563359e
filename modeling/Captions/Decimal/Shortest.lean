/-!
# Shortest decimals of binary numbers

A binary floating-point number stands for the interval of the reals that round to it. Its shortest
decimal is the one with the fewest digits in that interval, and of two such the nearer one.

A number is `m * 2 ^ q` with a positive `m`. Everything is counted in quarters of `2 ^ q`, so that
the ends of the interval are whole: `2` away, or `1` away on the lower side if the next smaller
number is only half as far as the next larger one.
-/

namespace Captions

/-- The positive number `digits * 10 ^ exponent`. -/
structure Decimal where
  digits : Nat
  exponent : Int
deriving DecidableEq, Repr

/-- A positive binary number `significand * 2 ^ exponent` and the spacing of its neighbours. -/
structure Binary where
  significand : Nat
  exponent : Int
  /-- Whether the next smaller number is only half as far as the next larger one. -/
  narrowBelow : Bool
deriving DecidableEq, Repr

/-- A number on the grid of the multiples of `10 ^ exponent`, next to `b` and in the interval of
`b`. The ends belong to the interval if the significand is even. Of two such numbers the nearer one
is taken, and the greater one of two equally near. -/
def Binary.onGrid? (b : Binary) (exponent : Int) : Option Decimal :=
  let unit := Nat.pow 2 (b.exponent - 2).toNat * Nat.pow 10 (-exponent).toNat
  let step := Nat.pow 2 (2 - b.exponent).toNat * Nat.pow 10 exponent.toNat
  let value := 4 * b.significand * unit
  let low := (4 * b.significand - if b.narrowBelow then 1 else 2) * unit
  let high := (4 * b.significand + 2) * unit
  let inside (point : Nat) : Bool :=
    if b.significand % 2 = 0 then low ≤ point && point ≤ high else low < point && point < high
  let below := value / step
  let nearerBelow : Bool := 2 * (value - below * step) < step
  if inside (below * step) && (nearerBelow || !inside ((below + 1) * step)) then
    some ⟨below, exponent⟩
  else if inside ((below + 1) * step) then some ⟨below + 1, exponent⟩
  else none

/-- The shortest decimal of `b`, on the coarsest of the grids from `10 ^ coarsest` down to
`10 ^ finest` that has one. -/
def Binary.shortest? (b : Binary) (coarsest finest : Int) : Option Decimal :=
  (List.range (coarsest - finest + 1).toNat).findSome? fun i : Nat => b.onGrid? (coarsest - i)

end Captions
