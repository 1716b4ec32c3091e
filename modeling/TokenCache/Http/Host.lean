import TokenCache.Domain.Name
import TokenCache.Http.Percent
/-!
# Hosts in URLs

A host is a domain name, an IPv4 address in one of its many spellings, or an IPv6 address in brackets.  It is written in
one way: names in ASCII, IPv4 as four decimal numbers, IPv6 with its longest run of zeros left out.  Where only the
scheme knows what a host is, all but an address in brackets is left as it is.
-/
namespace TokenCache
namespace HostName

/-! ## IPv4 -/

def digitsIn (base : Nat) (cs : List Char) : Option Nat :=
  cs.foldlM (fun n c => (Hex.digitValue? c).bind fun d => if d < base then some (n * base + d) else none) 0

/-- A part of an IPv4 address: decimal, octal after `0`, hexadecimal after `0x`. -/
def ipv4Part? (cs : List Char) : Option Nat :=
  match cs with
  | [] => none
  | '0' :: 'x' :: ds => digitsIn 16 ds
  | '0' :: 'X' :: ds => digitsIn 16 ds
  | '0' :: d :: ds => digitsIn 8 (d :: ds)
  | ds => digitsIn 10 ds

/-- The number that some bytes and a last part of the bytes that are left make up. -/
def ipv4Value? (parts : List Nat) : Option Nat :=
  match parts.reverse with
  | [] => none
  | last :: before =>
    let room := Nat.pow 256 (4 - before.length)
    if 3 < before.length || before.any (255 < ·) || room ≤ last then none
    else some (before.reverse.foldl (fun n p => n * 256 + p) 0 * room + last)

/-- The parts between the points, without an empty one at the end. -/
def parts (cs : List Char) : List (List Char) :=
  let ps := Text.splitWhere (· == '.') cs
  if 1 < ps.length && ps.getLast? == some [] then ps.dropLast else ps

/-- Whether a host is to be read as an IPv4 address: its last part is a number. -/
def endsInNumber (cs : List Char) : Bool :=
  match (parts cs).getLast? with
  | some last => !last.isEmpty && (last.all Char.isDigit || (ipv4Part? last).isSome)
  | none => false

def ipv4Text (n : Nat) : String :=
  String.intercalate "." ([n / 16777216 % 256, n / 65536 % 256, n / 256 % 256, n % 256].map toString)

def ipv4? (cs : List Char) : Option String :=
  (((parts cs).mapM ipv4Part?).bind ipv4Value?).map ipv4Text

/-! ## IPv6 -/

/-- The 16-bit pieces of some text between colons; an IPv4 address in last place is two of them. -/
def pieces? (cs : List Char) : Option (List Nat) :=
  if cs.isEmpty then some []
  else
    let ps := Text.splitWhere (· == ':') cs
    let hex (p : List Char) : Option Nat := if p.isEmpty || 4 < p.length then none else Hex.value? p
    match ps.getLast? with
    | some last =>
      if last.contains '.' then do
        let front ← ps.dropLast.mapM hex
        let bytes ← (Text.splitWhere (· == '.') last).mapM fun p =>
          if p.isEmpty || 3 < p.length || (p.length != 1 && p.head? == some '0') then none else digitsIn 10 p
        match bytes with
        | [a, b, c, d] => if [a, b, c, d].all (· < 256) then some (front ++ [a * 256 + b, c * 256 + d]) else none
        | _ => none
      else ps.mapM hex
    | none => none

/-- The text before and after the first double colon. -/
def splitDouble : List Char → Option (List Char × List Char)
  | ':' :: ':' :: rest => some ([], rest)
  | c :: rest => (splitDouble rest).map fun (before, after) => (c :: before, after)
  | [] => none

/-- Eight pieces, a double colon standing for as many zeros as are missing. -/
def ipv6Pieces? (cs : List Char) : Option (List Nat) :=
  match splitDouble cs with
  | some (before, after) => do
    let front ← pieces? before
    let back ← pieces? after
    if before.contains '.' || 7 < front.length + back.length then none
    else some (front ++ List.replicate (8 - front.length - back.length) 0 ++ back)
  | none => (pieces? cs).bind fun ps => if ps.length = 8 then some ps else none

/-- How many zeros a list opens with. -/
def zeros (ps : List Nat) : Nat :=
  (ps.takeWhile (· == 0)).length

/-- Where the first of the longest runs of at least two zeros starts, and its length. -/
def longestRun (ps : List Nat) : Option (Nat × Nat) :=
  ((List.range ps.length).map fun i => (i, zeros (ps.drop i))).foldl (fun best (i, n) =>
    if 2 ≤ n && (best.elim true fun (_, m) => decide (m < n)) then some (i, n) else best) none

def hexText (n : Nat) : String :=
  String.ofList (Nat.toDigits 16 n)

def ipv6Text (ps : List Nat) : String :=
  let joined (qs : List Nat) := String.intercalate ":" (qs.map hexText)
  match longestRun ps with
  | some (i, n) => s!"[{joined (ps.take i)}::{joined (ps.drop (i + n))}]"
  | none => s!"[{joined ps}]"

/-- An address between brackets, from what follows the first of them. -/
def bracketed? (rest : List Char) : Option String :=
  if rest.getLast? == some ']' then (ipv6Pieces? rest.dropLast).map ipv6Text else none

/-! ## Hosts -/

/-- **A host on a network, as it is written**, if it is one. -/
def parse? (raw : List Char) : Option String :=
  match raw with
  | '[' :: rest => bracketed? rest
  | _ =>
    (Domain.toAscii? (Percent.decode (String.ofList raw)).toList).bind fun name =>
      if name.isEmpty then none
      else if endsInNumber name then ipv4? name
      else some (String.ofList name)

/-- **A host whose meaning is up to the scheme.**  It may be empty; its letters keep their case, and what is not in
ASCII is percent-encoded. -/
def parsePrivate? (raw : List Char) : Option String :=
  match raw with
  | '[' :: rest => bracketed? rest
  | _ =>
    if raw.any fun c => ("\x00 #/:<>?@[\\]^|".toList).contains c then none
    else some (Percent.encodeWith Percent.isPrintable (String.ofList raw))

end HostName
end TokenCache
