import TokenCache.Authenticator
/-!
# Credential status

A summary of the record on disk for people and scripts.  Making it sends no request and writes no file.
-/
namespace TokenCache

structure CredentialStatus where
  provider : String
  credentialPath : String
  credentialsFound : Bool
  hasAccessToken : Bool
  hasRefreshToken : Bool
  expiresAt : Option String
  keyRemaining : String
  expired : Bool
  apiBase : String
  deriving DecidableEq

namespace CredentialStatus

/-! ## Remaining time -/

/-- Days, hours and minutes; days only if there are any. -/
def durationText (seconds : Nat) : String :=
  let days := seconds / 86400
  let hours := seconds % 86400 / 3600
  let minutes := seconds % 3600 / 60
  if 0 < days then s!"{days}d {hours}h {minutes}m" else s!"{hours}h {minutes}m"

/-- **The time left until an expiry date**, in whole seconds. -/
def remainingText (expiresAt : Option Instant) (now : Instant) : String :=
  match expiresAt with
  | none => "--"
  | some t =>
    let seconds := (t - now).tdiv 1000
    if seconds ≤ 0 then "expired" else durationText seconds.toNat

/-! ## Forms -/

def toJson (s : CredentialStatus) : Json :=
  .object [
    ("provider", .string s.provider),
    ("credentialPath", .string s.credentialPath),
    ("credentialsFound", .bool s.credentialsFound),
    ("hasAccessToken", .bool s.hasAccessToken),
    ("hasRefreshToken", .bool s.hasRefreshToken),
    ("expiresAt", s.expiresAt.elim .null .string),
    ("keyRemaining", .string s.keyRemaining),
    ("expired", .bool s.expired),
    ("apiBase", .string s.apiBase)]

def yesNo (b : Bool) : String :=
  if b then "yes" else "no"

/-- The status as lines of text: where no credentials are found, only that. -/
def lines (s : CredentialStatus) : List String :=
  ["Provider:      " ++ s.provider, "Credentials:   " ++ s.credentialPath] ++
    if s.credentialsFound then
      ["Access token:  " ++ yesNo s.hasAccessToken,
        "Refresh token: " ++ yesNo s.hasRefreshToken,
        "Expires:       " ++ s.expiresAt.getD "--" ++ " (" ++ s.keyRemaining ++ ")",
        "State:         " ++ (if s.expired then "refresh needed" else "valid"),
        "API base:      " ++ s.apiBase]
    else ["State:         not found"]

end CredentialStatus

namespace Authenticator

/-- **The status of a record**, or of there being none, at an instant. -/
def statusOf (a : Authenticator) (record : Option Record) (now : Instant) : CredentialStatus :=
  let expiry := record.bind Record.expiryDate
  let date := expiry.bind Expiry.date?
  { provider := a.config.name
    credentialPath := a.config.credentialPath
    credentialsFound := record.isSome
    hasAccessToken := (record.bind Record.accessToken).isSome
    hasRefreshToken := (record.bind Record.refreshToken).isSome
    expiresAt := date.map Calendar.dateText
    keyRemaining := CredentialStatus.remainingText date now
    expired := a.policy.expired expiry now
    apiBase := a.config.apiBase record }

def status (a : Authenticator) : Run CredentialStatus := do
  let record ← a.store.load
  return a.statusOf record (← Run.now)

end Authenticator
end TokenCache
