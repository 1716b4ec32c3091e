import TokenCache.Provider
import TokenCache.Store
/-!
# Refreshing a token

A refresh has two halves: it is announced and the request goes out, and what comes of it is judged and, if it holds a
token, merged into the record that is on disk by then (`receive`).  Nothing is written before the reply has been
accepted.
-/
namespace TokenCache
namespace Refresh

/-! ## Judging the answer -/

/-- Why an answer is of no use. -/
inductive Refusal
  | unreachable (e : TransportError)
  | rejected (r : TokenReply)
  | malformed (e : Json.SyntaxError)
  | notObject
  | noToken
  deriving DecidableEq

/-- A reply of use: its members and the access token among them. -/
structure Grant where
  members : Members
  accessToken : String

/-- **What an answer grants**: the reply has to be a success, a JSON object, and to have a usable access token. -/
def grant? : Answer → Except Refusal Grant
  | .error e => .error (.unreachable e)
  | .ok reply =>
    if reply.isSuccess then
      match Json.parse (Utf8.encode reply.body) with
      | .error e => .error (.malformed e)
      | .ok (.object members) =>
        match Record.usableIn members Record.accessTokenKey with
        | some token => .ok ⟨members, token⟩
        | none => .error .noToken
      | .ok _ => .error .notObject
    else .error (.rejected reply)

/-- How much of a rejection's body its message shows. -/
def excerpt (body : String) : String :=
  String.ofList ((Text.trim body).toList.take 200)

def Refusal.status : Refusal → Nat
  | rejected reply => reply.status
  | noToken => AuthError.unauthorized
  | _ => AuthError.internal

def Refusal.message (displayName : String) : Refusal → String
  | unreachable e => s!"{displayName} OAuth refresh failed: {e.message}"
  | rejected reply => s!"{displayName} OAuth refresh failed ({reply.status}): {excerpt reply.body}"
  | malformed e => s!"{displayName} OAuth refresh failed: {e.message}"
  | notObject => s!"{displayName} OAuth refresh failed: response is not a JSON object"
  | noToken => s!"{displayName} OAuth refresh response missing access_token"

/-- The request and reply of a rejection, the request without its secrets. -/
def Refusal.exchange (request : TokenRequest) : Refusal → Option RawExchange
  | rejected reply => some ⟨request.redacted, reply.shown⟩
  | _ => none

def Refusal.toAuthError (refusal : Refusal) (displayName : String) (request : TokenRequest) : AuthError :=
  .refreshFailed refusal.status (refusal.message displayName) (refusal.exchange request)

/-! ## The two halves -/

/-- Reports that a request goes out. -/
def announce (c : Config) (refreshToken : String) : Run Unit :=
  Run.log (.refreshing c.name c.tokenEndpoint (Fingerprint.ofToken refreshToken))

/-- Reports a refusal, if the endpoint made one. -/
def reportRefusal (c : Config) : Refusal → Run Unit
  | .rejected reply => Run.log (.rejected c.name reply.status)
  | _ => pure ()

/-- Merges a grant into the record on disk and saves it. -/
def persist (store : Store) (grant : Grant) (used : String) : Run Bool := do
  let current := (← store.load).getD Record.empty
  store.save (current.merge grant.members used (← Run.now))

/-- **The second half**: judges the answer to a request that used a refresh token. -/
def receive (c : Config) (store : Store) (used : String) (answer : Answer) : Run (Except AuthError String) := do
  match grant? answer with
  | .error refusal =>
    reportRefusal c refusal
    return .error (refusal.toAuthError c.displayName (c.refreshRequest used))
  | .ok grant =>
    let persisted ← persist store grant used
    Run.log (.refreshed c.name (Fingerprint.ofToken grant.accessToken)
      (grant.members.hasKey Record.refreshTokenKey) persisted)
    return .ok grant.accessToken

/-- **Exchanges a refresh token for an access token.** -/
def run (c : Config) (store : Store) (endpoint : Endpoint) (refreshToken : String) :
    Run (Except AuthError String) := do
  announce c refreshToken
  let answer ← Run.ask endpoint (c.refreshRequest refreshToken)
  receive c store refreshToken answer

end Refresh
end TokenCache
