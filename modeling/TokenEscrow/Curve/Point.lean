import TokenEscrow.Bytes.Fixed
import TokenEscrow.Curve.Field

/-!
# Points of the twisted Edwards curve of ed25519

The curve is `-x^2 + y^2 = 1 + d x^2 y^2`. A point is written as its `y`
coordinate with the parity of `x` in the topmost bit. Reading such a text is
generous in two ways that the address search depends on: `y` is taken modulo the
prime, and `x = 0` is accepted with either sign.

* `Point.decompress?` — the point of 32 bytes, if they are one;
* `isOnCurve` — whether they are; derived addresses are those that are not.
-/

namespace TokenEscrow

/-- A point in extended coordinates: `x = X / Z`, `y = Y / Z`, `x y = T / Z`. -/
structure Point where
  X : Nat
  Y : Nat
  Z : Nat
  T : Nat
  deriving Repr

namespace Point

open PrimeField

/-- The coefficient of the curve. -/
def d : Nat := 37095705934669439343138083508754565189542113879843219016388785533085940283555

/-- The neutral element. -/
def zero : Point := ⟨0, 1, 1, 0⟩

/-- The point with these coordinates. -/
def ofAffine (x y : Nat) : Point := ⟨x, y, 1, mul x y⟩

/-- The generator. -/
def generator : Point :=
  ofAffine 15112221349535400772501151409588531511454012693041857206046113283949847762202
    46316835694926478169428394003475163141307993866256225615783033603165251855960

/-- Sum. -/
def add (p q : Point) : Point :=
  let a := mul (sub p.Y p.X) (sub q.Y q.X)
  let b := mul (PrimeField.add p.Y p.X) (PrimeField.add q.Y q.X)
  let c := mul (mul p.T (2 * d % prime)) q.T
  let e := mul (2 * p.Z % prime) q.Z
  let f := sub b a
  let g := sub e c
  let h := PrimeField.add e c
  let i := PrimeField.add b a
  ⟨mul f g, mul h i, mul g h, mul f i⟩

/-- Twice a point. -/
def double (p : Point) : Point :=
  let a := mul p.X p.X
  let b := mul p.Y p.Y
  let c := 2 * mul p.Z p.Z % prime
  let h := PrimeField.add a b
  let s := PrimeField.add p.X p.Y
  let e := sub h (mul s s)
  let g := sub a b
  let f := PrimeField.add c g
  ⟨mul e f, mul g h, mul f g, mul e h⟩

/-- `acc + n p`, by doubling. -/
def addMul (acc p : Point) (n : Nat) : Point :=
  if _h : n = 0 then acc
  else addMul (if n % 2 = 1 then add acc p else acc) (double p) (n / 2)
termination_by n
decreasing_by omega

/-- A multiple of a point. -/
def smul (n : Nat) (p : Point) : Point := addMul zero p n

/-- Whether two triples of coordinates denote one point. -/
def same (p q : Point) : Bool :=
  mul p.X q.Z == mul q.X p.Z && mul p.Y q.Z == mul q.Y p.Z

/-- Whether eight times the point is the neutral element. -/
def isSmallOrder (p : Point) : Bool := same p.double.double.double zero

/-- The value of the topmost bit of 32 bytes. -/
def topBit : Nat := Nat.pow 2 255

/-- The written form of a point. -/
def compress (p : Point) : ByteVec 32 :=
  let z := inv p.Z
  let x := mul p.X z
  let y := mul p.Y z
  ByteVec.ofNatLE 32 (y + x % 2 * topBit)

/-- Reads a point. -/
def decompress? (bytes : ByteVec 32) : Option Point :=
  let value := bytes.toNatLE
  let y := value % topBit % prime
  let yy := mul y y
  (sqrtRatio? (sub yy 1) (PrimeField.add (mul d yy) 1)).map fun root =>
    let x := if root % 2 = value / topBit then root else neg root
    ofAffine x y

end Point

/-- Whether the bytes are the written form of a point of the curve. -/
def isOnCurve (bytes : ByteVec 32) : Bool := (Point.decompress? bytes).isSome

end TokenEscrow
