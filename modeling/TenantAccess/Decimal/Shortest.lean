/-!
# Shortest decimals

Every finite floating point number stands for an interval of reals: those that are rounded to it.
`shortest` finds the decimal with the fewest digits in that interval, and of several the one nearest
to the number itself; of two that are equally near it takes the even one. All arithmetic is exact.
`ofFloat` writes the decimal without an exponent as long as its first digit is near the point.
-/

namespace TenantAccess.Decimal

/-- A positive binary number `mantissa * 2 ^ exponent`. -/
structure Binary where
  mantissa : Nat
  exponent : Int
  /-- Whether the next number below is only half as far away as the next one above. -/
  narrowBelow : Bool

/-- Whether the sign bit of a floating point number is set. -/
def isNegative (x : Float) : Bool := x.toBits.toNat.testBit 63

/-- The absolute value of a finite floating point number. -/
def Binary.ofFloat (x : Float) : Binary :=
  let fraction : Nat := x.toBits.toNat % (1 <<< 52)
  let scale : Nat := x.toBits.toNat / (1 <<< 52) % (1 <<< 11)
  if scale = 0 then { mantissa := fraction, exponent := -1074, narrowBelow := false }
  else
    { mantissa := (1 <<< 52) + fraction, exponent := Int.ofNat scale - 1075,
      narrowBelow := fraction = 0 && 1 < scale }

namespace Binary

/-- The factors that bring a number of quarters of the last place and a multiple of `10 ^ p` to one
scale. -/
def factors (b : Binary) (p : Int) : Nat × Nat :=
  let e := b.exponent - 2
  (Nat.pow 2 e.toNat * Nat.pow 10 (-p).toNat, Nat.pow 2 (-e).toNat * Nat.pow 10 p.toNat)

/-- Whether `c * 10 ^ p` is rounded to the number. -/
def holds (b : Binary) (c : Nat) (p : Int) : Bool :=
  let (f, g) := b.factors p
  let low := (4 * b.mantissa - (if b.narrowBelow then 1 else 2)) * f
  let high := (4 * b.mantissa + 2) * f
  if b.mantissa % 2 = 0 then low ≤ c * g && c * g ≤ high else low < c * g && c * g < high

/-- The decimal place before the first digit: the least `k` with the number below `10 ^ k`, sought
from a bound upwards. -/
def scale (b : Binary) : Nat → Int → Int
  | 0, k => k
  | steps + 1, k =>
    let (f, g) := b.factors k
    if 4 * b.mantissa * f < g then k else scale b steps (k + 1)

/-- The neighbour of the number among the multiples of `10 ^ p` that is rounded to it; of two the
nearer one, and of two that are equally near the even one. -/
def neighbour? (b : Binary) (p : Int) : Option Nat :=
  let (f, g) := b.factors p
  let value := 4 * b.mantissa * f
  let c := value / g
  match b.holds c p, b.holds (c + 1) p with
  | true, true =>
    let middle := (2 * c + 1) * g
    some (if 2 * value < middle || (2 * value = middle && c % 2 = 0) then c else c + 1)
  | true, false => some c
  | false, true => some (c + 1)
  | false, false => none

/-- The decimal with the fewest digits, at most `digits` more than have been tried, as a multiple
of a power of ten. -/
def search (b : Binary) : Nat → Int → Nat × Int
  | 0, p => (4 * b.mantissa * (b.factors p).1 / (b.factors p).2, p)
  | digits + 1, p =>
    match b.neighbour? p with
    | some c => (c, p)
    | none => search b digits (p - 1)

end Binary

/-- A decimal without zeros at its end. -/
def stripZeros : Nat → Nat → Int → Nat × Int
  | 0, c, p => (c, p)
  | steps + 1, c, p => if c % 10 = 0 then stripZeros steps (c / 10) (p + 1) else (c, p)

/-- The shortest decimal of the absolute value of a finite floating point number, as a multiple of
a power of ten. -/
def shortest (x : Float) : Nat × Int :=
  let b := Binary.ofFloat x
  if b.mantissa = 0 then (0, 0)
  else
    let k := b.scale 700 (-330)
    let (c, p) := b.search 17 (k - 1)
    stripZeros 20 c p

/-- The exponents of the first digit with which a decimal is written without an exponent. -/
def isPositional (e : Int) : Bool := -5 ≤ e && e ≤ 15

/-- The decimal `c * 10 ^ p`, written without an exponent and with at least one digit on either side
of the point. -/
def positional (c : Nat) (p : Int) : List Char :=
  let digits := Nat.toDigits 10 c
  if 0 ≤ p then digits ++ List.replicate p.toNat '0' ++ ['.', '0']
  else
    let places := (-p).toNat
    let padded := List.replicate (places + 1 - digits.length) '0' ++ digits
    let cut := padded.length - places
    padded.take cut ++ '.' :: padded.drop cut

/-- The decimal `c * 10 ^ p`, written with one digit before the point, with no point when there is no
other digit, and with a signed exponent. -/
def scientific (c : Nat) (p : Int) : List Char :=
  let digits := Nat.toDigits 10 c
  let e := p + digits.length - 1
  let tail := if digits.length = 1 then [] else '.' :: digits.drop 1
  digits.take 1 ++ tail ++ ['e', if 0 ≤ e then '+' else '-'] ++ Nat.toDigits 10 e.natAbs

/-- A finite floating point number with the fewest digits that identify it. -/
def ofFloat (x : Float) : String :=
  let (c, p) := shortest x
  let e := p + (Nat.toDigits 10 c).length - 1
  let digits := if c = 0 || isPositional e then positional c p else scientific c p
  String.ofList (if isNegative x then '-' :: digits else digits)

end TenantAccess.Decimal
