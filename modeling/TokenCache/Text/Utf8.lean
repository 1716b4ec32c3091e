/-!
# UTF-8

Bytes are read character by character.  `units` keeps a gap for every maximal piece that belongs to no character: a
strict reading refuses any gap, a lossy one shows each as U+FFFD.
-/
namespace TokenCache
namespace Utf8

def encode (s : String) : List UInt8 :=
  s.toList.flatMap String.utf8EncodeChar

/-- Reads `n` more bytes of a character, the first of them between `low` and `high`.  Without a code point, the bytes up
to the first wrong one are gone. -/
def continued (code : Nat) (low high : UInt8) : Nat → List UInt8 → Option Nat × List UInt8
  | 0, bytes => (some code, bytes)
  | _ + 1, [] => (none, [])
  | n + 1, b :: bytes =>
    if low ≤ b && b ≤ high then continued (code * 64 + (b.toNat - 0x80)) 0x80 0xBF n bytes else (none, b :: bytes)

/-- What the bytes that open with `b` start with: a code point, or a piece that is none. -/
def leading (b : UInt8) (bytes : List UInt8) : Option Nat × List UInt8 :=
  if b < 0x80 then (some b.toNat, bytes)
  else if b < 0xC2 then (none, bytes)
  else if b < 0xE0 then continued (b.toNat - 0xC0) 0x80 0xBF 1 bytes
  else if b == 0xE0 then continued 0 0xA0 0xBF 2 bytes
  else if b == 0xED then continued 13 0x80 0x9F 2 bytes
  else if b < 0xF0 then continued (b.toNat - 0xE0) 0x80 0xBF 2 bytes
  else if b == 0xF0 then continued 0 0x90 0xBF 3 bytes
  else if b < 0xF4 then continued (b.toNat - 0xF0) 0x80 0xBF 3 bytes
  else if b == 0xF4 then continued 4 0x80 0x8F 3 bytes
  else (none, bytes)

/-- At most `n` units: enough for all of them when `n` is the number of bytes. -/
def unitsWithin : Nat → List UInt8 → List (Option Char)
  | 0, _ => []
  | _ + 1, [] => []
  | n + 1, b :: bytes =>
    let (code, rest) := leading b bytes
    code.map Char.ofNat :: unitsWithin n rest

/-- **The characters of some bytes**, with `none` for every maximal piece that is no character. -/
def units (bytes : List UInt8) : List (Option Char) :=
  unitsWithin bytes.length bytes

/-- The text the bytes encode, if there is no gap in it. -/
def decode? (bytes : List UInt8) : Option String :=
  let found := units bytes
  if found.all Option.isSome then some (String.ofList (found.filterMap id)) else none

def decodeLossy (bytes : List UInt8) : String :=
  String.ofList ((units bytes).map (·.getD '\uFFFD'))

/-- How many bytes come before the first gap. -/
def validLength (bytes : List UInt8) : Nat :=
  ((units bytes).takeWhile Option.isSome).foldl (fun n c => n + c.elim 0 Char.utf8Size) 0

end Utf8
end TokenCache
