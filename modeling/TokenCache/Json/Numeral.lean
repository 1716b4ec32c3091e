import TokenCache.Binary64.Arithmetic
import TokenCache.Binary64.Decimal
import TokenCache.Json.Basic
import TokenCache.Json.Fault
/-!
# Numbers in a JSON text

A numeral without point and exponent is a whole number if 64 bits hold it.  Every other one is computed in double
precision from a 64-bit significand and a power of ten, so a long decimal need not give the nearest double: digits that
do not fit the significand are dropped, and scaling rounds once more.
-/
namespace TokenCache
namespace Json

/-- Significands are below this. -/
def significandLimit : Nat := 18446744073709551616

def isDigit (b : UInt8) : Bool :=
  48 ≤ b && b ≤ 57

/-- A significand below 2⁶⁴ with the digits it took, and what follows them. -/
structure Absorbed where
  significand : Nat
  count : Nat
  rest : List UInt8

/-- Appends digits to a significand up to the first one that would take it to 2⁶⁴. -/
def absorb (significand count : Nat) : List UInt8 → Absorbed
  | [] => ⟨significand, count, []⟩
  | b :: bytes =>
    let next := significand * 10 + (b.toNat - 48)
    if isDigit b && next < significandLimit then absorb next (count + 1) bytes else ⟨significand, count, b :: bytes⟩

/-! ## Scaling -/

/-- The double nearest to a power of ten. -/
def powerOfTen (n : Nat) : Binary64 :=
  Binary64.ofDecimal false 1 n

/-- The significand scaled by a power of ten, with one rounding for each step of at most 308 digits; nothing when that
is infinite.  `n` bounds the steps. -/
def scale? : Nat → Binary64 → Int → Option Binary64
  | 0, x, _ => some x
  | n + 1, x, e =>
    if e.natAbs ≤ 308 then
      let y := if 0 ≤ e then x.mul (powerOfTen e.natAbs) else x.div (powerOfTen e.natAbs)
      if y.isFinite then some y else none
    else if x = .finite false 0 then some x
    else if 0 ≤ e then none
    else scale? n (x.div (powerOfTen 308)) (e + 308)

/-- A double from its significand and exponent: three steps leave nothing of any significand. -/
def realOf? (negative : Bool) (significand : Nat) (e : Int) : Option Binary64 :=
  (scale? 5 (Binary64.ofInt significand) e).map fun x => if negative then x.neg else x

/-! ## The parts of a numeral -/

/-- A number and what follows it. -/
abbrev NumberScan := Except Fault (Number × List UInt8)

/-- The greatest exponent there is. -/
def exponentLimit : Int := 2147483647

def clampExponent (e : Int) : Int :=
  max (-exponentLimit - 1) (min e exponentLimit)

/-- A double and what follows it, or a fault after it. -/
def finished (negative : Bool) (significand : Nat) (e : Int) (rest : List UInt8) : NumberScan :=
  match realOf? negative significand e with
  | some x => .ok (.real x, rest)
  | none => .error ⟨.outOfRange, rest, 0⟩

/-- The digits of an exponent after its first, up to the limit: the exponent and what follows, or nothing and what
follows the digit that passed the limit. -/
def exponentDigits (e : Int) : List UInt8 → Option Int × List UInt8
  | [] => (some e, [])
  | b :: bytes =>
    if isDigit b then
      let next := e * 10 + (b.toNat - 48 : Nat)
      if next ≤ exponentLimit then exponentDigits next bytes else (none, bytes)
    else (some e, b :: bytes)

/-- Past the limit an exponent leaves zero, or a fault if it is positive and the significand is not zero. -/
def beyondLimit (negative negativeExponent : Bool) (significand : Nat) (rest : List UInt8) : NumberScan :=
  if significand ≠ 0 && !negativeExponent then .error ⟨.outOfRange, rest, 0⟩
  else .ok (.real (.finite negative 0), rest.dropWhile isDigit)

/-- The sign and digits after `e`, then the whole numeral. -/
def scanExponent (negative : Bool) (significand : Nat) (e : Int) (bytes : List UInt8) : NumberScan :=
  let (negativeExponent, digits) := match bytes with
    | 43 :: r => (false, r)
    | 45 :: r => (true, r)
    | r => (false, r)
  match digits with
  | [] => .error ⟨.endInValue, [], 0⟩
  | b :: r =>
    if isDigit b then
      match exponentDigits (b.toNat - 48 : Nat) r with
      | (some x, rest) => finished negative significand (clampExponent (if negativeExponent then e - x else e + x)) rest
      | (none, rest) => beyondLimit negative negativeExponent significand rest
    else .error ⟨.invalidNumber, r, 0⟩

/-- An exponent, if one comes, and then the whole numeral. -/
def scanScale (negative : Bool) (significand : Nat) (e : Int) : List UInt8 → NumberScan
  | [] => finished negative significand e []
  | b :: bytes =>
    if b == 101 || b == 69 then scanExponent negative significand e bytes
    else finished negative significand e (b :: bytes)

/-- The digits after the point: some, of which those that fit are taken. -/
def scanFraction (negative : Bool) (significand : Nat) (e : Int) (bytes : List UInt8) : NumberScan :=
  let taken := absorb significand 0 bytes
  match bytes with
  | [] => .error ⟨.endInValue, [], 0⟩
  | b :: _ =>
    if isDigit b then scanScale negative taken.significand (e - taken.count) (taken.rest.dropWhile isDigit)
    else .error (.beside .invalidNumber bytes)

/-- A whole number, if 64 bits hold it. -/
def wholeNumber (negative : Bool) (significand : Nat) : Number :=
  if negative then
    if significand = 0 || Binary64.int64Limit < significand then .real (Binary64.ofInt significand).neg
    else .integer (-significand)
  else .integer significand

/-- What follows the whole part, of which `dropped` digits did not fit. -/
def scanTail (negative : Bool) (significand dropped : Nat) : List UInt8 → NumberScan
  | 46 :: bytes => scanFraction negative significand dropped bytes
  | bytes =>
    if dropped = 0 && !(bytes.head?.any fun b => b == 101 || b == 69) then
      .ok (wholeNumber negative significand, bytes)
    else scanScale negative significand dropped bytes

/-- The whole part: a zero alone, or digits that do not open with one. -/
def scanUnsigned (negative : Bool) : List UInt8 → NumberScan
  | [] => .error ⟨.endInValue, [], 0⟩
  | b :: bytes =>
    if b == 48 then
      if bytes.head?.any isDigit then .error (.beside .invalidNumber bytes) else scanTail negative 0 0 bytes
    else if isDigit b then
      let taken := absorb 0 0 (b :: bytes)
      scanTail negative taken.significand (taken.rest.takeWhile isDigit).length (taken.rest.dropWhile isDigit)
    else .error ⟨.invalidNumber, bytes, 0⟩

/-- **A numeral**, from its sign or first digit. -/
def scanNumeral : List UInt8 → NumberScan
  | 45 :: bytes => scanUnsigned true bytes
  | bytes => scanUnsigned false bytes

end Json
end TokenCache
