import TokenCache.Binary64.Shortest
import TokenCache.Json.Basic
import TokenCache.Text.Hex
import TokenCache.Text.Utf8
/-!
# Writing JSON

Two forms: `compact` has no space, `pretty` gives every element and member a line of its own, indented by two spaces for
each container around it.
-/
namespace TokenCache
namespace Json

def ascii (s : String) : List UInt8 :=
  s.toList.map fun c => c.toNat.toUInt8

/-! ## Strings -/

/-- Quotation marks, backslashes and control characters are written as escapes, all else as it is. -/
def escaped (b : UInt8) : List UInt8 :=
  match b with
  | 34 => [92, 34]
  | 92 => [92, 92]
  | 8 => [92, 98]
  | 9 => [92, 116]
  | 10 => [92, 110]
  | 12 => [92, 102]
  | 13 => [92, 114]
  | _ => if b < 32 then ascii "\\u00" ++ (Hex.digits 2 b.toNat).map (·.toNat.toUInt8) else [b]

def quoted (s : String) : List UInt8 :=
  34 :: (Utf8.encode s).flatMap escaped ++ [34]

/-! ## Numbers -/

/-- A double is written positionally when its first digit is at most the 16th before the point and at least the fifth
after it. -/
def positional (point : Int) : Bool :=
  -4 ≤ point && point ≤ 16

/-- Digits with the point after the first `n` of them, and a zero where either side would be empty. -/
def withPoint (digits : List Char) (n : Nat) : List Char :=
  if digits.length ≤ n then digits ++ List.replicate (n - digits.length) '0' ++ ['.', '0']
  else digits.take n ++ '.' :: digits.drop n

def signedExponent (e : Int) : List Char :=
  (if e < 0 then '-' else '+') :: e.natAbs.repr.toList

/-- One digit, the others after a point if there are any, and the exponent with its sign. -/
def scientific (digits : List Char) (e : Int) : List Char :=
  (match digits with
    | d :: rest@(_ :: _) => d :: '.' :: rest
    | ds => ds) ++ 'e' :: signedExponent e

def magnitude (u : Nat) : List Char :=
  if u = 0 then ['0', '.', '0']
  else
    let d := Binary64.shortest u
    if positional d.point then
      if 0 < d.point then withPoint d.digits d.point.toNat
      else '0' :: '.' :: List.replicate (-d.point).toNat '0' ++ d.digits
    else scientific d.digits (d.point - 1)

/-- **A double as text**: the fewest digits that read back.  What is no finite number has no numeral. -/
def realText : Binary64 → String
  | .finite negative u => String.ofList ((if negative then ['-'] else []) ++ magnitude u)
  | _ => "null"

def numeral : Number → List UInt8
  | .integer n => ascii (toString n)
  | .real x => ascii (realText x)

/-! ## Values -/

mutual

def compact : Json → List UInt8
  | null => ascii "null"
  | bool b => ascii (if b then "true" else "false")
  | number n => numeral n
  | string s => quoted s
  | array items => 91 :: compactItems items ++ [93]
  | object members => 123 :: compactMembers members ++ [125]

def compactItems : List Json → List UInt8
  | [] => []
  | [v] => compact v
  | v :: w :: rest => compact v ++ 44 :: compactItems (w :: rest)

def compactMembers : List (String × Json) → List UInt8
  | [] => []
  | [(key, v)] => quoted key ++ 58 :: compact v
  | (key, v) :: m :: rest => quoted key ++ 58 :: compact v ++ 44 :: compactMembers (m :: rest)

end

/-- A new line inside `depth` containers. -/
def newLine (depth : Nat) : List UInt8 :=
  10 :: List.replicate (2 * depth) 32

mutual

def prettyWithin (depth : Nat) : Json → List UInt8
  | null => ascii "null"
  | bool b => ascii (if b then "true" else "false")
  | number n => numeral n
  | string s => quoted s
  | array [] => [91, 93]
  | array (v :: vs) => 91 :: prettyItems (depth + 1) (v :: vs) ++ newLine depth ++ [93]
  | object [] => [123, 125]
  | object (m :: ms) => 123 :: prettyMembers (depth + 1) (m :: ms) ++ newLine depth ++ [125]

def prettyItems (depth : Nat) : List Json → List UInt8
  | [] => []
  | [v] => newLine depth ++ prettyWithin depth v
  | v :: w :: rest => newLine depth ++ prettyWithin depth v ++ 44 :: prettyItems depth (w :: rest)

def prettyMembers (depth : Nat) : List (String × Json) → List UInt8
  | [] => []
  | [(key, v)] => newLine depth ++ quoted key ++ 58 :: 32 :: prettyWithin depth v
  | (key, v) :: m :: rest =>
    newLine depth ++ quoted key ++ 58 :: 32 :: prettyWithin depth v ++ 44 :: prettyMembers depth (m :: rest)

end

def pretty (v : Json) : List UInt8 :=
  prettyWithin 0 v

/-- A value without spaces, as text. -/
def text (v : Json) : String :=
  Utf8.decodeLossy (compact v)

def prettyText (v : Json) : String :=
  Utf8.decodeLossy (pretty v)

end Json
end TokenCache
