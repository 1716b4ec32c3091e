/-!
# Binary64 numbers

Expiry dates and lifetimes are judged in the double-precision format.  Every finite number of that format is a whole
number of *units*, a unit being the smallest positive one, so a finite number is a sign and a natural number, and all
arithmetic is exact until the one rounding at its end (`ofQuotient`).
-/
namespace TokenCache

/-- A double-precision number: `finite n u` is `u` units, below zero when `n`. -/
inductive Binary64
  | nan
  | infinite (negative : Bool)
  | finite (negative : Bool) (units : Nat)
  deriving DecidableEq

namespace Binary64

/-! ## Powers -/

def twoTo (n : Nat) : Nat := Nat.pow 2 n

def tenTo (n : Nat) : Nat := Nat.pow 10 n

theorem twoTo_pos (n : Nat) : 0 < twoTo n :=
  Nat.pow_pos (by decide)

theorem tenTo_pos (n : Nat) : 0 < tenTo n :=
  Nat.pow_pos (by decide)

theorem twoTo_add (m n : Nat) : twoTo (m + n) = twoTo m * twoTo n :=
  Nat.pow_add 2 m n

theorem tenTo_add (m n : Nat) : tenTo (m + n) = tenTo m * tenTo n :=
  Nat.pow_add 10 m n

/-- The number of units in one. -/
def one : Nat := twoTo 1074

/-- The number of units that are too many. -/
def limit : Nat := twoTo 2098

/-! ## Rounding -/

/-- **The nearest integer to a quotient**, the even one of two. -/
def nearestInteger (num den : Nat) : Nat :=
  let q := num / den
  let r := num % den
  if 2 * r < den then q else if den < 2 * r then q + 1 else if q % 2 = 0 then q else q + 1

/-- The distance between representable numbers of units about `n`, as a power of two: 53 binary digits are kept. -/
def spacing (n : Nat) : Nat :=
  n.log2 - 52

/-- **The representable number of units nearest to a quotient**, the one with even digits of two. -/
def nearest (num den : Nat) : Nat :=
  let k := spacing (num / den)
  nearestInteger num (den * twoTo k) * twoTo k

/-- A quotient of units as a number: past the largest finite one it is infinite. -/
def ofQuotient (negative : Bool) (num den : Nat) : Binary64 :=
  let u := nearest num den
  if u < limit then finite negative u else infinite negative

def ofInt (n : Int) : Binary64 :=
  ofQuotient (n < 0) (n.natAbs * one) 1

/-! ## Order and sign -/

def isFinite : Binary64 → Bool
  | finite _ _ => true
  | _ => false

def neg : Binary64 → Binary64
  | nan => nan
  | infinite negative => infinite !negative
  | finite negative u => finite (!negative) u

/-- A signed number of units. -/
def signed (negative : Bool) (u : Nat) : Int :=
  if negative then -(u : Int) else u

/-- Whether `x` is below `y`: never, if one of them is no number. -/
def lt : Binary64 → Binary64 → Bool
  | nan, _ => false
  | _, nan => false
  | infinite n, infinite m => n && !m
  | infinite n, finite _ _ => n
  | finite _ _, infinite m => !m
  | finite n u, finite m v => signed n u < signed m v

/-- Whether two numbers have one value: the two zeros have, and what is no number has none. -/
def same : Binary64 → Binary64 → Bool
  | infinite n, infinite m => n == m
  | finite n u, finite m v => signed n u == signed m v
  | _, _ => false

end Binary64
end TokenCache
