import TokenCache.Binary64.Basic
/-!
# Binary64 arithmetic

Product and quotient, each rounded once; rounding to a whole number, a half going away from zero; and conversion to a
64-bit integer, which stops at the ends of its range.
-/
namespace TokenCache
namespace Binary64

def mul : Binary64 → Binary64 → Binary64
  | nan, _ => nan
  | _, nan => nan
  | infinite n, infinite m => infinite (n != m)
  | infinite n, finite m v => if v = 0 then nan else infinite (n != m)
  | finite n u, infinite m => if u = 0 then nan else infinite (n != m)
  | finite n u, finite m v => ofQuotient (n != m) (u * v) one

def div : Binary64 → Binary64 → Binary64
  | nan, _ => nan
  | _, nan => nan
  | infinite _, infinite _ => nan
  | infinite n, finite m _ => infinite (n != m)
  | finite n _, infinite m => finite (n != m) 0
  | finite n u, finite m v =>
    if v = 0 then (if u = 0 then nan else infinite (n != m)) else ofQuotient (n != m) (u * one) v

/-- The whole number nearest to `u` units, a half going up. -/
def wholeNearest (u : Nat) : Nat :=
  (2 * u + one) / (2 * one)

/-- **The nearest whole number**, a half going away from zero. -/
def round : Binary64 → Binary64
  | finite n u => finite n (wholeNearest u * one)
  | x => x

def thousand : Binary64 :=
  ofInt 1000

/-- Signed 64-bit integers are below this, and not below its negative. -/
def int64Limit : Int := 9223372036854775808

def fits64 (n : Int) : Bool :=
  -int64Limit ≤ n && n < int64Limit

def clamp64 (n : Int) : Int :=
  max (-int64Limit) (min n (int64Limit - 1))

/-- **The signed 64-bit integer** left when the fraction is dropped: the nearer end of the range for what is beyond it,
zero for what is no number. -/
def toInt64 : Binary64 → Int
  | nan => 0
  | infinite negative => if negative then -int64Limit else int64Limit - 1
  | finite negative u => clamp64 (signed negative (u / one))

end Binary64
end TokenCache
