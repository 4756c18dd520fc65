/-!
# The field with 2^255 - 19 elements

Elements are numbers below the prime; every operation reduces its result.
-/

namespace TokenEscrow

namespace PrimeField

/-- The prime `2 ^ 255 - 19`. -/
def prime : Nat := Nat.pow 2 255 - 19

/-- Sum. -/
def add (a b : Nat) : Nat := (a + b) % prime

/-- Difference. -/
def sub (a b : Nat) : Nat := (a + (prime - b % prime)) % prime

/-- Product. -/
def mul (a b : Nat) : Nat := a * b % prime

/-- Opposite. -/
def neg (a : Nat) : Nat := sub 0 a

/-- `acc * a ^ e`, by squaring. -/
def mulPow (acc a e : Nat) : Nat :=
  if _h : e = 0 then acc
  else mulPow (if e % 2 = 1 then mul acc a else acc) (mul a a) (e / 2)
termination_by e
decreasing_by omega

/-- Power. -/
def pow (a e : Nat) : Nat := mulPow 1 a e

/-- Inverse of a number other than zero, after Fermat. -/
def inv (a : Nat) : Nat := pow a (prime - 2)

/-- A square root of minus one. -/
def sqrtMinusOne : Nat :=
  19681161376707505956807079304988542015446066515923890162744021073123829784752

/-- A square root of the quotient `u / v`; `none` when there is none. -/
def sqrtRatio? (u v : Nat) : Option Nat :=
  let v3 := mul (mul v v) v
  let v7 := mul (mul v3 v3) v
  let root := mul (mul u v3) (pow (mul u v7) ((prime - 5) / 8))
  let square := mul v (mul root root)
  if square = u then some root
  else if square = neg u then some (mul root sqrtMinusOne)
  else none

end PrimeField

end TokenEscrow
