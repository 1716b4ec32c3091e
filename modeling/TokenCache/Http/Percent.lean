import TokenCache.Text.Hex
import TokenCache.Text.Utf8
/-!
# Percent encoding

A byte that may not stand for itself is written as `%` and two upper-case hexadecimal digits.  Form bodies and the parts
of a URL differ in which bytes may.
-/
namespace TokenCache
namespace Percent

def encodeByte (b : UInt8) : List Char :=
  '%' :: (Hex.digits 2 b.toNat).map Char.toUpper

/-- Encodes every byte that `keep` does not let stand. -/
def encodeWith (keep : UInt8 → Bool) (s : String) : String :=
  String.ofList ((Utf8.encode s).flatMap fun b => if keep b then [Char.ofNat b.toNat] else encodeByte b)

/-- ASCII without control characters. -/
def isPrintable (b : UInt8) : Bool :=
  32 ≤ b && b < 127

def isAlphanumeric (b : UInt8) : Bool :=
  (48 ≤ b && b ≤ 57) || (65 ≤ b && b ≤ 90) || (97 ≤ b && b ≤ 122)

/-! ## Forms -/

/-- A byte of a form field: a space becomes a plus sign. -/
def formByte (b : UInt8) : List Char :=
  if isAlphanumeric b || b == 42 || b == 45 || b == 46 || b == 95 then [Char.ofNat b.toNat]
  else if b == 32 then ['+']
  else encodeByte b

def formText (s : String) : String :=
  String.ofList ((Utf8.encode s).flatMap formByte)

/-- **The body of a form.** -/
def form (fields : List (String × String)) : String :=
  String.intercalate "&" (fields.map fun f => formText f.1 ++ "=" ++ formText f.2)

/-! ## Decoding -/

/-- The bytes with every `%` and two digits replaced by the byte they stand for. -/
def decodeBytes : List UInt8 → List UInt8
  | 37 :: a :: b :: rest =>
    match Hex.value? [Char.ofNat a.toNat, Char.ofNat b.toNat] with
    | some n => n.toUInt8 :: decodeBytes rest
    | none => 37 :: decodeBytes (a :: b :: rest)
  | b :: rest => b :: decodeBytes rest
  | [] => []

def decode (s : String) : String :=
  Utf8.decodeLossy (decodeBytes (Utf8.encode s))

/-- The text that stands behind the encoding, if it is text. -/
def decode? (s : String) : Option String :=
  Utf8.decode? (decodeBytes (Utf8.encode s))

end Percent
end TokenCache
