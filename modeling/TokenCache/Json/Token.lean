import TokenCache.Json.Numeral
import TokenCache.Text.Hex
import TokenCache.Text.Utf8
/-!
# Tokens of a JSON text

A text is cut into lexemes: a token and the bytes from its first one on, which is where faults that lie with the
grammar are noticed.  A piece that is no token ends the list, as a token that carries its own fault.
-/
namespace TokenCache
namespace Json

inductive Token
  | openArray
  | closeArray
  | openObject
  | closeObject
  | colon
  | comma
  | text (s : String)
  | scalar (v : Json)
  /-- A piece with a fault inside; `quoted` when it opens with a quotation mark. -/
  | broken (quoted : Bool) (fault : Fault)
  /-- A byte that no token opens with. -/
  | stray

structure Lexeme where
  token : Token
  bytes : List UInt8

/-! ## Strings -/

/-- A 16-bit unit from four hexadecimal digits, and what follows them. -/
def scanUnit : List UInt8 → Except Fault (Nat × List UInt8)
  | a :: b :: c :: d :: rest =>
    match Hex.value? ([a, b, c, d].map fun x => Char.ofNat x.toNat) with
    | some n => .ok (n, rest)
    | none => .error ⟨.invalidEscape, rest, 0⟩
  | _ => .error ⟨.endInString, [], 0⟩

def isLeading (n : Nat) : Bool := 0xD800 ≤ n && n ≤ 0xDBFF

def isTrailing (n : Nat) : Bool := 0xDC00 ≤ n && n ≤ 0xDFFF

/-- One given byte. -/
def expectByte (b : UInt8) : List UInt8 → Except Fault (List UInt8)
  | [] => .error ⟨.endInString, [], 0⟩
  | c :: rest => if c == b then .ok rest else .error ⟨.unfinishedSurrogate, rest, 0⟩

/-- The code point after `\u`: one unit, or a leading and a trailing one. -/
def scanCodePoint (bytes : List UInt8) : Except Fault (Nat × List UInt8) := do
  let (n, rest) ← scanUnit bytes
  if isTrailing n then throw ⟨.loneSurrogate, rest, 0⟩
  else if isLeading n then
    let (m, rest) ← scanUnit (← expectByte 117 (← expectByte 92 rest))
    if isTrailing m then return (0x10000 + (n - 0xD800) * 0x400 + (m - 0xDC00), rest)
    else throw ⟨.loneSurrogate, rest, 0⟩
  else return (n, rest)

/-- The byte that a letter after `\` stands for. -/
def shortEscape? (b : UInt8) : Option UInt8 :=
  match b with
  | 34 => some 34
  | 92 => some 92
  | 47 => some 47
  | 98 => some 8
  | 102 => some 12
  | 110 => some 10
  | 114 => some 13
  | 116 => some 9
  | _ => none

/-- What follows `\`, as the bytes it stands for. -/
def scanEscape : List UInt8 → Except Fault (List UInt8 × List UInt8)
  | [] => .error ⟨.endInString, [], 0⟩
  | b :: rest =>
    match shortEscape? b with
    | some c => .ok ([c], rest)
    | none =>
      if b == 117 then do
        let (n, rest) ← scanCodePoint rest
        return (String.utf8EncodeChar (Char.ofNat n), rest)
      else .error ⟨.invalidEscape, rest, 0⟩

/-- The bytes up to the closing quotation mark, escapes resolved, after those in `done`, the last first.  `n` bounds the
steps. -/
def scanQuoted : Nat → List UInt8 → List UInt8 → Except Fault (List UInt8 × List UInt8)
  | 0, _, _ => .error ⟨.endInString, [], 0⟩
  | _ + 1, _, [] => .error ⟨.endInString, [], 0⟩
  | n + 1, done, b :: rest =>
    if b == 34 then .ok (done.reverse, rest)
    else if b == 92 then do
      let (bytes, rest) ← scanEscape rest
      scanQuoted n (bytes.reverse ++ done) rest
    else if b < 32 then .error ⟨.controlCharacter, rest, 0⟩
    else scanQuoted n (b :: done) rest

/-- **A string** after its opening quotation mark: its bytes are UTF-8. -/
def scanString (bytes : List UInt8) : Except Fault (String × List UInt8) := do
  let (content, rest) ← scanQuoted bytes.length [] bytes
  match Utf8.decode? content with
  | some s => return (s, rest)
  | none => throw ⟨.invalidText, rest, content.length - Utf8.validLength content⟩

/-! ## Tokens -/

/-- The rest of a name, letter by letter. -/
def scanName (v : Json) : List UInt8 → List UInt8 → Except Fault (Json × List UInt8)
  | [], bytes => .ok (v, bytes)
  | _ :: _, [] => .error ⟨.endInValue, [], 0⟩
  | a :: name, b :: bytes => if a == b then scanName v name bytes else .error ⟨.expectedIdent, bytes, 0⟩

/-- The token of a scan, and the bytes after it. -/
def tokenOf {α : Type} (quoted : Bool) (f : α → Token) : Except Fault (α × List UInt8) → Token × List UInt8
  | .ok (a, rest) => (f a, rest)
  | .error fault => (.broken quoted fault, [])

/-- **The token that opens with a byte**, and the bytes after it. -/
def scanToken (b : UInt8) (rest : List UInt8) : Token × List UInt8 :=
  match b with
  | 91 => (.openArray, rest)
  | 93 => (.closeArray, rest)
  | 123 => (.openObject, rest)
  | 125 => (.closeObject, rest)
  | 58 => (.colon, rest)
  | 44 => (.comma, rest)
  | 34 => tokenOf true .text (scanString rest)
  | 110 => tokenOf false .scalar (scanName .null [117, 108, 108] rest)
  | 116 => tokenOf false .scalar (scanName (.bool true) [114, 117, 101] rest)
  | 102 => tokenOf false .scalar (scanName (.bool false) [97, 108, 115, 101] rest)
  | _ =>
    if b == 45 || isDigit b then tokenOf false (fun n => .scalar (.number n)) (scanNumeral (b :: rest))
    else (.stray, [])

/-- Space, tab, line feed and carriage return may stand between tokens. -/
def isSpace (b : UInt8) : Bool :=
  b == 32 || b == 9 || b == 10 || b == 13

/-- At most `n` lexemes: enough for all of them when `n` is the number of bytes. -/
def lexemesWithin : Nat → List UInt8 → List Lexeme
  | 0, _ => []
  | n + 1, bytes =>
    match bytes.dropWhile isSpace with
    | [] => []
    | b :: rest =>
      let (token, after) := scanToken b rest
      ⟨token, b :: rest⟩ :: lexemesWithin n after

def lexemes (bytes : List UInt8) : List Lexeme :=
  lexemesWithin bytes.length bytes

end Json
end TokenCache
