/-!
# Decimal text of binary fractions

A binary fraction of double precision stands for all real numbers that round to
it. `Decimal.shortest` finds the fewest decimal digits that denote one of them,
and among those the nearest to the fraction itself, by exact arithmetic on
natural numbers. `Decimal.text` lays the digits out.
-/

namespace TokenEscrow

namespace Decimal

/-! ## Binary fractions -/

/-- A positive binary fraction `mantissa * 2 ^ scale`, with `scale` counted from `-1076`, which
leaves room for two more binary places below the finest fraction of double precision. -/
structure Fraction where
  mantissa : Nat
  scale : Nat
  /-- the next fraction below is only half as far away as the next above -/
  narrowBelow : Bool

/-- Twice the finest scale, as a denominator: every fraction and every midpoint between two
neighbours is a multiple of `1 / unit`. -/
def unit : Nat := Nat.pow 2 1076

/-- The fraction that a pattern of 64 bits without sign stands for. -/
def Fraction.ofBits (bits : UInt64) : Fraction :=
  let leading := Nat.pow 2 52
  let exponent := bits.toNat / leading % Nat.pow 2 11
  let field := bits.toNat % leading
  if exponent = 0 then ⟨field, 2, false⟩
  else ⟨field + leading, exponent + 1, field = 0 && exponent ≠ 1⟩

namespace Fraction

/-- The fraction in multiples of `1 / unit`. -/
def value (f : Fraction) : Nat := f.mantissa * Nat.pow 2 f.scale

/-- Lower end of the numbers that round to the fraction. -/
def low (f : Fraction) : Nat :=
  f.value - Nat.pow 2 (f.scale - (if f.narrowBelow then 2 else 1))

/-- Upper end of the numbers that round to the fraction. -/
def high (f : Fraction) : Nat := f.value + Nat.pow 2 (f.scale - 1)

/-- Whether `n / d` in multiples of `1 / unit` rounds to the fraction. Halfway values go to the even
mantissa. -/
def contains (f : Fraction) (n d : Nat) : Bool :=
  if f.mantissa % 2 = 0 then f.low * d ≤ n && n ≤ f.high * d
  else f.low * d < n && n < f.high * d

end Fraction

/-! ## The fewest digits -/

/-- Decimal digits, and the power of ten they are multiplied by. -/
structure Digits where
  digits : Nat
  exponent : Int

/-- Number of decimal digits of a number. -/
def width (n : Nat) : Nat := (Nat.toDigits 10 n).length

/-- The power of ten just above a fraction. -/
def magnitude (f : Fraction) : Int := width (f.value * Nat.pow 10 400 / unit) - 400

/-- The number on the grid of `10 ^ exponent` that rounds to the fraction, the nearest if there
are two. -/
def onGrid? (f : Fraction) (exponent : Int) : Option Digits :=
  -- The fraction is `a / b` steps of the grid.
  let a := f.value * Nat.pow 10 (-exponent).toNat
  let b := unit * Nat.pow 10 exponent.toNat
  let inside (steps : Nat) := f.contains (steps * b) (Nat.pow 10 (-exponent).toNat)
  let below := a / b
  let pick (steps : Nat) : Option Digits := some ⟨steps, exponent⟩
  match inside below, inside (below + 1) with
  | true, true =>
    let past := a % b
    if 2 * past < b || (2 * past = b && below % 2 = 0) then pick below else pick (below + 1)
  | true, false => pick below
  | false, true => pick (below + 1)
  | false, false => none

/-- The fewest digits, at most seventeen of them, that denote a number rounding to the fraction.
Grids are tried from the power of ten above the fraction downwards, so the digits never end in
zero. -/
def shortest (f : Fraction) : Digits :=
  let top := magnitude f
  let grids := (List.range 18).map fun n => top - (n : Nat)
  (grids.findSome? (onGrid? f)).getD ⟨f.value, 0⟩

/-! ## Layout -/

/-- The digits of an exponent: at least two. -/
def exponentText (n : Nat) : String := if n < 10 then s!"0{n}" else toString n

/-- Positional from `10 ^ (-5)` up to `10 ^ 16`, with at least one digit after the point;
otherwise one digit before the point, and an exponent with its sign and at least two digits. -/
def Digits.text (d : Digits) : String :=
  let digits := Nat.toDigits 10 d.digits
  let point : Int := digits.length + d.exponent
  if 0 ≤ d.exponent ∧ point ≤ 16 then
    String.ofList (digits ++ List.replicate d.exponent.toNat '0') ++ ".0"
  else if 0 < point ∧ point ≤ 16 then
    String.ofList (digits.take point.toNat ++ '.' :: digits.drop point.toNat)
  else if -5 < point ∧ point ≤ 0 then
    String.ofList ('0' :: '.' :: List.replicate (-point).toNat '0' ++ digits)
  else
    let front := String.ofList (digits.take 1)
    let rest := if digits.length = 1 then "" else "." ++ String.ofList (digits.drop 1)
    let sign := if point < 1 then "-" else "+"
    front ++ rest ++ "e" ++ sign ++ exponentText (point - 1).natAbs

/-- The text of a pattern of 64 bits that stands for a finite number. -/
def text (bits : UInt64) : String :=
  let magnitude := bits % 0x8000000000000000
  let sign := if bits < 0x8000000000000000 then "" else "-"
  if magnitude = 0 then sign ++ "0.0" else sign ++ (shortest (Fraction.ofBits magnitude)).text

end Decimal

end TokenEscrow
