/-!
# Hexadecimal text

Lower-case digits, two for a byte.
-/
namespace TokenCache
namespace Hex

def digit (n : Nat) : Char :=
  if n < 10 then Char.ofNat (48 + n) else Char.ofNat (87 + n)

def digitValue? (c : Char) : Option Nat :=
  if '0' ≤ c && c ≤ '9' then some (c.toNat - 48)
  else if 'a' ≤ c && c ≤ 'f' then some (c.toNat - 87)
  else if 'A' ≤ c && c ≤ 'F' then some (c.toNat - 55)
  else none

/-- The last `width` digits of a number. -/
def digits : Nat → Nat → List Char
  | 0, _ => []
  | width + 1, n => digits width (n / 16) ++ [digit (n % 16)]

theorem length_digits : ∀ width n : Nat, (digits width n).length = width
  | 0, _ => rfl
  | width + 1, n => by rw [digits, List.length_append, length_digits width]; rfl

def ofBytes (bytes : List UInt8) : String :=
  String.ofList (bytes.flatMap fun b => digits 2 b.toNat)

/-- The number some digits spell. -/
def value? (cs : List Char) : Option Nat :=
  cs.foldlM (fun n c => (digitValue? c).map (n * 16 + ·)) 0

end Hex
end TokenCache
