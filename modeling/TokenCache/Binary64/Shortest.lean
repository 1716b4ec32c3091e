import TokenCache.Binary64.Basic
/-!
# The fewest decimal digits of a binary64 number

A decimal stands for a number when the number is the nearest representable one to it.  Of the decimals that stand for a
number the one with the fewest digits is written, and the nearest of those.
-/
namespace TokenCache
namespace Binary64

/-- A decimal `0.d₁d₂…` times ten to the `point`: `digits` has no zero at its end. -/
structure Decimal where
  digits : List Char
  point : Int

/-- The decimals that stand for `u` units lie between `low` and `high`, in quarters of a unit; the ends do when
`closed`. -/
structure Interval where
  low : Nat
  high : Nat
  closed : Bool

/-- Halfway to the neighbour on either side.  The one below a power of two is half as far away. -/
def interval (u : Nat) : Interval :=
  let step := twoTo (spacing u)
  let below := if u = twoTo 52 * step && 1 < step then step else 2 * step
  ⟨4 * u - below, 4 * u + 2 * step, u / step % 2 = 0⟩

/-- A decimal as a quotient of quarters of a unit. -/
structure Quotient where
  num : Nat
  den : Nat

def quarters (digits : Nat) (exponent : Int) : Quotient :=
  if 0 ≤ exponent then ⟨digits * tenTo exponent.toNat * (4 * one), 1⟩
  else ⟨digits * (4 * one), tenTo (-exponent).toNat⟩

def Interval.contains (i : Interval) (q : Quotient) : Bool :=
  if i.closed then i.low * q.den ≤ q.num && q.num ≤ i.high * q.den
  else i.low * q.den < q.num && q.num < i.high * q.den

/-- How many digits stand before the point; not above zero for a number below one tenth. -/
def pointOf (u : Nat) : Int :=
  if one ≤ u then ((Nat.toDigits 10 (u / one)).length : Int)
  else
    let m := (Nat.toDigits 10 (one / u)).length
    if one ≤ u * tenTo (m - 1) then 2 - m else 1 - m

/-- The two decimals of `n` digits beside `u` units, the nearer one first; of two equally near the even one. -/
def candidates (u : Nat) (point : Int) (n : Nat) : List Nat :=
  let unit := quarters 1 (point - n)
  let lower := 4 * u * unit.den / unit.num
  let twice := 2 * (4 * u * unit.den)
  let middle := (2 * lower + 1) * unit.num
  if twice < middle || (twice == middle && lower % 2 == 0) then [lower, lower + 1] else [lower + 1, lower]

/-- The first of the decimals of `n` digits that stands for `u` units. -/
def shortestOf (u : Nat) (point : Int) (n : Nat) : Option (Nat × Int) :=
  ((candidates u point n).find? fun d => (interval u).contains (quarters d (point - n))).map (·, point - n)

/-- Digits without the zeros at their end. -/
def significant (digits : Nat) : List Char :=
  ((Nat.toDigits 10 digits).reverse.dropWhile (· == '0')).reverse

/-- **The shortest decimal of `u` units**, for `u` above zero.  Seventeen digits are always enough. -/
def shortest (u : Nat) : Decimal :=
  let point := pointOf u
  match (List.range' 1 17).findSome? (shortestOf u point) with
  | some (d, e) => ⟨significant d, e + (Nat.toDigits 10 d).length⟩
  | none => ⟨significant u, 0⟩

end Binary64
end TokenCache
