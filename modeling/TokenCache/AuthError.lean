import TokenCache.Exchange
/-!
# Failures

A caller learns of a failure by its kind, a message and a status as in HTTP.
-/
namespace TokenCache

inductive AuthError
  /-- No credential file, or nothing in it that can lead to a token. -/
  | missingCredential (message : String)
  /-- The endpoint refused the refresh, gave an answer of no use, or gave none. -/
  | refreshFailed (status : Nat) (message : String) (exchange : Option RawExchange)
  /-- A refreshed record was not saved.  The caller has its token all the same. -/
  | persistFailed (path detail : String)
  deriving DecidableEq

namespace AuthError

def unauthorized : Nat := 401

def internal : Nat := 500

def message : AuthError → String
  | missingCredential m => m
  | refreshFailed _ m _ => m
  | persistFailed path detail => s!"failed to persist credentials to {path}: {detail}"

def status : AuthError → Nat
  | missingCredential _ => unauthorized
  | refreshFailed n _ _ => n
  | persistFailed .. => internal

def exchange : AuthError → Option RawExchange
  | refreshFailed _ _ x => x
  | _ => none

end AuthError
end TokenCache
