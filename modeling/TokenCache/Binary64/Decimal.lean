import TokenCache.Binary64.Basic
/-!
# Decimal text read as binary64

`ofDecimal` rounds a decimal once, however long it is; `ofText?` says which texts are decimals.
-/
namespace TokenCache
namespace Binary64

/-- The number of decimal digits; none for zero. -/
def decimalLength (n : Nat) : Nat :=
  if n = 0 then 0 else (Nat.toDigits 10 n).length

/-- **The number nearest to `digits` times ten to the `exponent`.**  What has its first digit far outside the format's
range is decided without computing the power. -/
def ofDecimal (negative : Bool) (digits : Nat) (exponent : Int) : Binary64 :=
  if digits = 0 then finite negative 0
  else
    let top := exponent + decimalLength digits
    if 400 < top then infinite negative
    else if top < -400 then finite negative 0
    else if 0 ≤ exponent then ofQuotient negative (digits * tenTo exponent.toNat * one) 1
    else ofQuotient negative (digits * one) (tenTo (-exponent).toNat)

/-! ## Text -/

def isDigit (c : Char) : Bool :=
  '0' ≤ c && c ≤ '9'

/-- The number that digits spell after `n`. -/
def appendDigits (n : Nat) (cs : List Char) : Nat :=
  cs.foldl (fun n c => n * 10 + (c.toNat - 48)) n

/-- A sign, if there is one, and whether it is a minus. -/
def takeSign : List Char → Bool × List Char
  | '-' :: cs => (true, cs)
  | '+' :: cs => (false, cs)
  | cs => (false, cs)

/-- An exponent's digits: some, and nothing else. -/
def exponent? (cs : List Char) : Option Int :=
  let (negative, ds) := takeSign cs
  if !ds.isEmpty && ds.all isDigit then
    some (signed negative (appendDigits 0 ds))
  else none

/-- What may follow the digits: nothing, or `e` and an exponent. -/
def scale? : List Char → Option Int
  | [] => some 0
  | c :: cs => if c == 'e' || c == 'E' then exponent? cs else none

/-- Digits with at most one point among them and at least one digit, then an exponent if there is one. -/
def unsigned? (negative : Bool) (cs : List Char) : Option Binary64 :=
  let whole := cs.takeWhile isDigit
  let (fraction, rest) := match cs.dropWhile isDigit with
    | '.' :: ds => (ds.takeWhile isDigit, ds.dropWhile isDigit)
    | ds => ([], ds)
  if whole.isEmpty && fraction.isEmpty then none
  else (scale? rest).map fun e =>
    ofDecimal negative (appendDigits 0 (whole ++ fraction)) (e - fraction.length)

/-- **A decimal, an infinity or no-number as text**: no blank, a sign or none, letters in either case. -/
def ofText? (s : String) : Option Binary64 :=
  let (negative, cs) := takeSign s.toList
  let name := String.ofList (cs.map Char.toLower)
  if name == "inf" || name == "infinity" then some (infinite negative)
  else if name == "nan" then some nan
  else unsigned? negative cs

end Binary64
end TokenCache
