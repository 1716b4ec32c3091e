/-!
# What is wrong with a JSON text, and where

A position counts lines from one and the bytes since the last line feed.
-/
namespace TokenCache
namespace Json

inductive Cause
  | endInValue
  | endInArray
  | endInObject
  | endInString
  | expectedValue
  | expectedIdent
  | expectedColon
  | expectedArrayEnd
  | expectedObjectEnd
  | keyNotString
  | trailingComma
  | trailingCharacters
  | tooDeep
  | invalidNumber
  | outOfRange
  | controlCharacter
  | invalidEscape
  | loneSurrogate
  | unfinishedSurrogate
  | invalidText
  deriving DecidableEq

/-- A cause, and the bytes after the place where it was noticed.  `back` bytes of that place's column do not count. -/
structure Fault where
  cause : Cause
  rest : List UInt8
  back : Nat := 0

/-- A fault noticed at a byte that was looked at and not taken. -/
def Fault.beside (cause : Cause) (bytes : List UInt8) : Fault :=
  ⟨cause, bytes.drop 1, 0⟩

def Cause.message : Cause → String
  | endInValue => "EOF while parsing a value"
  | endInArray => "EOF while parsing a list"
  | endInObject => "EOF while parsing an object"
  | endInString => "EOF while parsing a string"
  | expectedValue => "expected value"
  | expectedIdent => "expected ident"
  | expectedColon => "expected \x60:\x60"
  | expectedArrayEnd => "expected \x60,\x60 or \x60]\x60"
  | expectedObjectEnd => "expected \x60,\x60 or \x60\x7d\x60"
  | keyNotString => "key must be a string"
  | trailingComma => "trailing comma"
  | trailingCharacters => "trailing characters"
  | tooDeep => "recursion limit exceeded"
  | invalidNumber => "invalid number"
  | outOfRange => "number out of range"
  | controlCharacter => "control character (\\u0000-\\u001F) found while parsing a string"
  | invalidEscape => "invalid escape"
  | loneSurrogate => "lone leading surrogate in hex escape"
  | unfinishedSurrogate => "unexpected end of hex escape"
  | invalidText => "invalid unicode code point"

/-- A place in a text, by line and column. -/
structure Position where
  line : Nat
  column : Nat
  deriving DecidableEq

def Position.start : Position := ⟨1, 0⟩

def Position.next (p : Position) (b : UInt8) : Position :=
  if b == 10 then ⟨p.line + 1, 0⟩ else ⟨p.line, p.column + 1⟩

/-- Where a fault in `text` is. -/
def Fault.position (text : List UInt8) (f : Fault) : Position :=
  let p := (text.take (text.length - f.rest.length)).foldl Position.next Position.start
  ⟨p.line, p.column - f.back⟩

/-- A fault as it is reported: what, and where. -/
structure SyntaxError where
  cause : Cause
  position : Position
  deriving DecidableEq

def SyntaxError.message (e : SyntaxError) : String :=
  s!"{e.cause.message} at line {e.position.line} column {e.position.column}"

end Json
end TokenCache
