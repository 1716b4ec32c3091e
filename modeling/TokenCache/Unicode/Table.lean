import TokenCache.Text.Hex
import TokenCache.Text.Pieces
/-!
# Tables of code points

A property of characters is given as text, in words between spaces.  A table of *classes* lists the code points of each
class after its name: `R: 5D0-5EA 5EF`.  A table of *sequences* lists, after the code point to start from, what one code
point after the other is replaced by: `C0: E0+23 ~ F8 61.308`.  No table says anything about ASCII.
-/
namespace TokenCache
namespace Unicode

/-- The words of a text. -/
def words (text : String) : List (List Char) :=
  (Text.splitWhere (fun c => c == ' ' || c == '\n') text.toList).filter (· != [])

/-- A number in hexadecimal digits; zero for anything else. -/
def number (cs : List Char) : Nat :=
  (Hex.value? cs).getD 0

/-- A number in decimal digits. -/
def count (cs : List Char) : Nat :=
  cs.foldl (fun n c => n * 10 + (c.toNat - 48)) 0

/-! ## Classes -/

/-- The code points from one to another. -/
structure Span where
  first : Nat
  last : Nat

namespace Span

def contains (s : Span) (c : Nat) : Bool :=
  s.first ≤ c && c ≤ s.last

/-- The span a word such as `5D0-5EA` or `5EF` stands for. -/
def ofWord (w : List Char) : Span :=
  match Text.before (· == '-') w with
  | (first, _ :: last) => ⟨number first, number last⟩
  | (one, []) => ⟨number one, number one⟩

end Span

/-- The spans of all classes, each with the name of its class. -/
abbrev Classes := List (String × Span)

namespace Classes

/-- The classes a text lists, the words before the first name being of class `name`. -/
def ofWords (name : String) : List (List Char) → Classes
  | [] => []
  | w :: ws =>
    if w.getLast? == some ':' then ofWords (String.ofList w.dropLast) ws
    else (name, Span.ofWord w) :: ofWords name ws

def ofText (text : String) : Classes :=
  ofWords "" (words text)

/-- **The class of a code point**, if it is in any. -/
def find? (t : Classes) (c : Nat) : Option String :=
  if c < 128 then none else (List.find? (fun e => e.2.contains c) t).map Prod.fst

def has (t : Classes) (c : Nat) : Bool :=
  (t.find? c).isSome

end Classes

/-! ## Sequences -/

/-- What code points are replaced by. -/
abbrev Sequences := List (Nat × List Nat)

namespace Sequences

/-- Code points joined by points, or `-` for none. -/
def target (w : List Char) : List Nat :=
  if w == ['-'] then [] else (Text.splitWhere (· == '.') w).map number

/-- What a word says about the code points from `c` on, and the code point it leads to.  After a target, `+n` has it
rise with the code point, `*n` stay the same, and `/n` rise with every second code point, the others left out. -/
def entries (c : Nat) (w : List Char) : Sequences × Nat :=
  if w == ['~'] then ([], c + 1)
  else match Text.before (fun x => x == '+' || x == '*' || x == '/') w with
    | (w, '+' :: n) => ((List.range (count n)).map fun i => (c + i, (target w).map (· + i)), c + count n)
    | (w, '*' :: n) => ((List.range (count n)).map fun i => (c + i, target w), c + count n)
    | (w, '/' :: n) => ((List.range (count n)).map fun i => (c + 2 * i, (target w).map (· + 2 * i)), c + 2 * count n)
    | (w, _) => ([(c, target w)], c + 1)

/-- The entries that words list from the code point `c` on. -/
def ofWords (c : Nat) : List (List Char) → Sequences
  | [] => []
  | w :: ws =>
    if w.getLast? == some ':' then ofWords (number w.dropLast) ws
    else
      let (es, next) := entries c w
      es ++ ofWords next ws

def ofText (text : String) : Sequences :=
  ofWords 0 (words text)

/-- **What a code point is replaced by**, if the table says so. -/
def find? (t : Sequences) (c : Nat) : Option (List Nat) :=
  if c < 128 then none else (List.find? (fun e => e.1 == c) t).map Prod.snd

end Sequences

end Unicode
end TokenCache
