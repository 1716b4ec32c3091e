/-!
# Punycode

A label with characters beyond ASCII is written in ASCII: its ASCII characters first, then a numeral for each of the
others, in the order of their code points.  A numeral tells how many code points and places lie between a character and
the one before it.  Its digits are letters and decimal digits, the lowest first; how large a last digit can be depends
on the numerals before.
-/
namespace TokenCache
namespace Punycode

/-! ## Digits -/

def digit (n : Nat) : Nat :=
  if n < 26 then 97 + n else 22 + n

def digitValue? (c : Nat) : Option Nat :=
  if 97 ≤ c && c ≤ 122 then some (c - 97)
  else if 65 ≤ c && c ≤ 90 then some (c - 65)
  else if 48 ≤ c && c ≤ 57 then some (c - 22)
  else none

theorem digitValue?_digit (n : Nat) (h : n < 36) : digitValue? (digit n) = some n := by
  have all : ∀ m ∈ List.range 36, digitValue? (digit m) = some m := by decide
  exact all n (List.mem_range.2 h)

/-- A digit below this is the last one of its numeral; `place` is 36 for the first digit and grows by 36. -/
def threshold (bias place : Nat) : Nat :=
  max 1 (min 26 (place - bias))

theorem threshold_pos (bias place : Nat) : 1 ≤ threshold bias place :=
  Nat.le_max_left 1 _

theorem threshold_le (bias place : Nat) : threshold bias place ≤ 26 :=
  Nat.max_le.2 ⟨by decide, Nat.min_le_left 26 _⟩

/-- Divides by 35 until no more than 455 is left: what is left, and 36 for each division. -/
def shrunk (n : Nat) : Nat × Nat :=
  if 455 < n then match shrunk (n / 35) with
    | (rest, bias) => (rest, bias + 36)
  else (n, 0)
termination_by n
decreasing_by omega

/-- The bias after a numeral, when there are `length` characters. -/
def adapt (numeral length : Nat) (isFirst : Bool) : Nat :=
  let n := if isFirst then numeral / 700 else numeral / 2
  let (rest, bias) := shrunk (n + n / length)
  bias + 36 * rest / (rest + 38)

def firstBias : Nat := 72

def firstCode : Nat := 128

/-! ## Writing -/

/-- The digits of a number from a place on. -/
def numeral (bias place n : Nat) : List Nat :=
  let t := threshold bias place
  if n < t then [digit n]
  else digit (t + (n - t) % (36 - t)) :: numeral bias (place + 36) ((n - t) / (36 - t))
termination_by n
decreasing_by
  have := threshold_pos bias place
  have h := Nat.div_le_self (n - threshold bias place) (36 - threshold bias place)
  omega

/-- What has been written: the numerals, the code points and places passed since the last one, the bias, and how many
characters are there. -/
structure Encoding where
  numerals : List Nat
  passed : Nat
  bias : Nat
  length : Nat

namespace Encoding

/-- Passes a character of the label while the code point `code` is written. -/
def pass (basic code : Nat) (e : Encoding) (c : Nat) : Encoding :=
  if c < code then { e with passed := e.passed + 1 }
  else if c = code then
    ⟨e.numerals ++ numeral e.bias 36 e.passed, 0, adapt e.passed (e.length + 1) (e.length == basic), e.length + 1⟩
  else e

/-- Writes all characters with the code points listed, of which `next` is not greater than the first. -/
def codes (label : List Nat) (basic : Nat) : Nat → List Nat → Encoding → Encoding
  | _, [], e => e
  | next, code :: rest, e =>
    let e := label.foldl (pass basic code) { e with passed := e.passed + (code - next) * (e.length + 1) }
    codes label basic (code + 1) rest { e with passed := e.passed + 1 }

end Encoding

/-- **A label in ASCII.** -/
def encode (label : List Nat) : List Nat :=
  let basic := label.filter (· < 128)
  let others := ((label.filter (128 ≤ ·)).eraseDups).mergeSort
  let e := Encoding.codes label basic.length firstCode others ⟨[], 0, firstBias, basic.length⟩
  basic ++ (if basic.isEmpty then [] else [45]) ++ e.numerals

/-! ## Reading -/

/-- What has been read: the characters, the code point and place of the last one, the bias, and of the numeral under way
the place it started from, and the place and weight of its next digit. -/
structure Decoding where
  label : List Nat
  code : Nat
  place : Nat
  bias : Nat
  start : Nat
  digitPlace : Nat
  weight : Nat

namespace Decoding

/-- The weight of a digit fits in 32 bits. -/
def weightLimit : Nat := 4294967296

/-- The character that a numeral leads to, in its place. -/
def insert (d : Decoding) : Option Decoding :=
  let length := d.label.length + 1
  let code := d.code + d.place / length
  let place := d.place % length
  let bias := adapt (d.place - d.start) length (d.start == 0)
  if code < 0xD800 || (0xDFFF < code && code < 0x110000) then
    some ⟨d.label.insertIdx place code, code, place + 1, bias, place + 1, 36, 1⟩
  else none

/-- Reads a digit. -/
def read (d : Decoding) (c : Nat) : Option Decoding :=
  (digitValue? c).bind fun n =>
    let t := threshold d.bias d.digitPlace
    let d := { d with place := d.place + n * d.weight }
    if n < t then d.insert
    else if weightLimit ≤ d.weight * (36 - t) then none
    else some { d with digitPlace := d.digitPlace + 36, weight := d.weight * (36 - t) }

end Decoding

/-- The ASCII characters and the numerals: the last hyphen stands between them. -/
def split (cs : List Nat) : List Nat × List Nat :=
  let numerals := (cs.reverse.takeWhile (· != 45)).reverse
  (cs.take (cs.length - numerals.length - 1), numerals)

/-- **The label that some ASCII text stands for**; none if a numeral is incomplete or leads to no character, or if there
is nothing before the last hyphen. -/
def decode? (cs : List Nat) : Option (List Nat) :=
  let (basic, numerals) := split cs
  if basic.isEmpty && cs.head? == some 45 then none
  else
    (numerals.foldlM Decoding.read ⟨basic, firstCode, 0, firstBias, 0, 36, 1⟩).bind fun d =>
      if d.digitPlace = 36 then some d.label else none

end Punycode
end TokenCache
