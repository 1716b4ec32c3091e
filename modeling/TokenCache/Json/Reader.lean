import TokenCache.Json.Token
/-!
# Reading JSON

Reading is a machine that takes one lexeme at a time and keeps the containers that are still open.  Its state says what
may come next, so each fault of the grammar belongs to a state and a token, or to a state and the end of the text.
-/
namespace TokenCache
namespace Json

/-- An open container without its next element: the elements before, the last first, or the members before and the key
of the next one. -/
inductive Frame
  | array (before : List Json)
  | member (before : Members) (key : String)

/-- What may come next.  `frames` holds the containers around, the innermost first. -/
inductive State
  /-- A value. -/
  | value (frames : List Frame)
  /-- The first element of an array, or its end. -/
  | firstElement (frames : List Frame)
  /-- A further element of an array. -/
  | nextElement (before : List Json) (frames : List Frame)
  /-- A comma after an element, or the end of the array. -/
  | afterElement (before : List Json) (frames : List Frame)
  /-- The first key of an object, or its end. -/
  | firstKey (frames : List Frame)
  /-- A further key of an object. -/
  | nextKey (before : Members) (frames : List Frame)
  /-- The colon after a key. -/
  | colon (before : Members) (key : String) (frames : List Frame)
  /-- A comma after a member, or the end of the object. -/
  | afterMember (before : Members) (frames : List Frame)
  /-- Nothing more. -/
  | done (v : Json)

/-- How many containers may be open at once. -/
def depthLimit : Nat := 127

/-- Hands a finished value to the container around it. -/
def State.close (v : Json) : List Frame → State
  | [] => .done v
  | .array before :: frames => .afterElement (v :: before) frames
  | .member before key :: frames => .afterMember (before.insert key v) frames

/-- Starts a value with a token. -/
def State.begin (frames : List Frame) (x : Lexeme) : Except Fault State :=
  match x.token with
  | .openArray => if frames.length < depthLimit then .ok (.firstElement frames) else .error (.beside .tooDeep x.bytes)
  | .openObject => if frames.length < depthLimit then .ok (.firstKey frames) else .error (.beside .tooDeep x.bytes)
  | .text s => .ok (.close (.string s) frames)
  | .scalar v => .ok (.close v frames)
  | .broken _ fault => .error fault
  | _ => .error (.beside .expectedValue x.bytes)

/-- Takes a key. -/
def State.takeKey (before : Members) (frames : List Frame) (x : Lexeme) : Except Fault State :=
  match x.token with
  | .text s => .ok (.colon before s frames)
  | .broken true fault => .error fault
  | _ => .error (.beside .keyNotString x.bytes)

/-- **One step of the machine.** -/
def State.step : State → Lexeme → Except Fault State
  | value frames, x => begin frames x
  | firstElement frames, x =>
    match x.token with
    | .closeArray => .ok (close (.array []) frames)
    | _ => begin (.array [] :: frames) x
  | nextElement before frames, x =>
    match x.token with
    | .closeArray => .error (.beside .trailingComma x.bytes)
    | _ => begin (.array before :: frames) x
  | afterElement before frames, x =>
    match x.token with
    | .closeArray => .ok (close (.array before.reverse) frames)
    | .comma => .ok (nextElement before frames)
    | _ => .error (.beside .expectedArrayEnd x.bytes)
  | firstKey frames, x =>
    match x.token with
    | .closeObject => .ok (close (.object []) frames)
    | _ => takeKey [] frames x
  | nextKey before frames, x =>
    match x.token with
    | .closeObject => .error (.beside .trailingComma x.bytes)
    | _ => takeKey before frames x
  | colon before k frames, x =>
    match x.token with
    | .colon => .ok (value (.member before k :: frames))
    | _ => .error (.beside .expectedColon x.bytes)
  | afterMember before frames, x =>
    match x.token with
    | .closeObject => .ok (close (.object before) frames)
    | .comma => .ok (nextKey before frames)
    | _ => .error (.beside .expectedObjectEnd x.bytes)
  | done _, x => .error (.beside .trailingCharacters x.bytes)

/-- The value read, if nothing is missing at the end of the text. -/
def State.finish : State → Except Fault Json
  | done v => .ok v
  | value _ | nextElement _ _ | nextKey _ _ => .error ⟨.endInValue, [], 0⟩
  | firstElement _ | afterElement _ _ => .error ⟨.endInArray, [], 0⟩
  | firstKey _ | colon _ _ _ | afterMember _ _ => .error ⟨.endInObject, [], 0⟩

def read (bytes : List UInt8) : Except Fault Json := do
  (← (lexemes bytes).foldlM State.step (.value [])).finish

/-- **The value of a JSON text**, or what is wrong with it. -/
def parse (bytes : List UInt8) : Except SyntaxError Json :=
  match read bytes with
  | .ok v => .ok v
  | .error f => .error ⟨f.cause, f.position bytes⟩

end Json
end TokenCache
