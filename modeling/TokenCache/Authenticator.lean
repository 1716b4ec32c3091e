import TokenCache.Expiry
import TokenCache.Refresh
import TokenCache.RefreshLock
/-!
# The authenticator

Each call starts from the credential file.  A token that is still valid is handed out as it is; else the record's
refresh token is exchanged for a new one, under the refresh lock if the configuration asks for it.  Under the lock the
file is read again, because the holder before may have refreshed it already.
-/
namespace TokenCache

structure Authenticator where
  config : Config
  policy : ExpiryPolicy
  /-- Whether failures to save are handed to an observer. -/
  observed : Bool

/-- What surrounds a call: the endpoint, and what others do while it waits for the lock. -/
structure Surroundings where
  endpoint : Endpoint
  whileWaiting : Host → Host

/-- An API base and the token for it. -/
structure ResolvedEndpoint where
  apiBase : String
  apiKey : String
  deriving DecidableEq

namespace Authenticator

def store (a : Authenticator) : Store :=
  ⟨a.config.credentialPath, a.observed⟩

def lock? (a : Authenticator) : Option RefreshLock :=
  if a.config.refreshLock then some (.forCredentials a.config.credentialPath) else none

/-! ## Judging a record -/

/-- The access token of a record, if it is still valid. -/
def validToken? (a : Authenticator) (r : Record) (now : Instant) : Option String :=
  if a.policy.expired r.expiryDate now then none else r.accessToken

def notFound (c : Config) : AuthError :=
  .missingCredential s!"{c.displayName} OAuth credentials not found at {c.credentialPath}. {c.loginHint}"

def noRefreshToken (c : Config) : AuthError :=
  .missingCredential s!"{c.displayName} access token expired and no refresh token available. {c.loginHint}"

/-- What a call does next: it is over, or it needs a refresh. -/
inductive Next
  | answered (result : Except AuthError String)
  | refresh (refreshToken : String)

/-- **What the record on disk leads to.** -/
def judge (a : Authenticator) (record : Option Record) (now : Instant) : Next :=
  match record with
  | none => .answered (.error (notFound a.config))
  | some r =>
    match a.validToken? r now with
    | some token => .answered (.ok token)
    | none =>
      match r.refreshToken with
      | some token => .refresh token
      | none => .answered (.error (noRefreshToken a.config))

/-- **What it leads to under the lock**, for a call that has read a refresh token before. -/
def judgeAgain (a : Authenticator) (record : Option Record) (refreshToken : String) (now : Instant) : Next :=
  match record.bind fun r => a.validToken? r now with
  | some token => .answered (.ok token)
  | none => .refresh ((record.bind Record.refreshToken).getD refreshToken)

/-! ## The steps of a call -/

/-- The first step: reads the file. -/
def start (a : Authenticator) : Run Next := do
  let record ← a.store.load
  return a.judge record (← Run.now)

/-- Reports that the token of another holder is handed out. -/
def reportReuse (a : Authenticator) : Next → Run Unit
  | .answered _ => Run.log (.reused a.config.name)
  | .refresh _ => pure ()

/-- The step that follows once the lock is held: reads the file again. -/
def recheck (a : Authenticator) (refreshToken : String) : Run Next := do
  let record ← a.store.load
  let next := a.judgeAgain record refreshToken (← Run.now)
  a.reportReuse next
  return next

def refresh (a : Authenticator) (endpoint : Endpoint) (refreshToken : String) : Run (Except AuthError String) :=
  Refresh.run a.config a.store endpoint refreshToken

def refreshUnderLock (a : Authenticator) (endpoint : Endpoint) (refreshToken : String) :
    Run (Except AuthError String) := do
  match ← a.recheck refreshToken with
  | .answered result => return result
  | .refresh token => a.refresh endpoint token

/-! ## Calls -/

/-- **A token that is valid for at least the policy's margin**, refreshed if need be. -/
def accessToken (a : Authenticator) (around : Surroundings) : Run (Except AuthError String) := do
  match ← a.start with
  | .answered result => return result
  | .refresh token =>
    match a.lock? with
    | none => a.refresh around.endpoint token
    | some lock => lock.withExclusive around.whileWaiting (a.refreshUnderLock around.endpoint token)

/-- The API base.  The file is read only when the provider takes its base from there. -/
def apiBase (a : Authenticator) : Run String := do
  match a.config.apiBaseSource with
  | .static => return a.config.apiBase none
  | .recordField _ => return a.config.apiBase (← a.store.load)

/-- A caller's own value, trimmed; a blank one counts as absent. -/
def given? (value : Option String) : Option String :=
  value.bind Text.nonBlank?

/-- **API base and token for a request**: what the caller gives, and else what the credentials give. -/
def resolveEndpoint (a : Authenticator) (around : Surroundings) (apiBase apiKey : Option String) :
    Run (Except AuthError ResolvedEndpoint) := do
  let base ← (given? apiBase).elim a.apiBase pure
  match given? apiKey with
  | some key => return .ok ⟨base, key⟩
  | none =>
    match ← a.accessToken around with
    | .ok key => return .ok ⟨base, key⟩
    | .error e => return .error e

end Authenticator
end TokenCache
