import TokenCache.Binary64.Arithmetic
import TokenCache.Calendar
/-!
# Expiry

Login tools write an expiry date in seconds or in milliseconds since the epoch.  Above ten thousand million it is taken
as milliseconds.  A token counts as expired a margin before its expiry date.
-/
namespace TokenCache

/-- How long before its expiry date a token counts as expired, in milliseconds. -/
structure ExpiryPolicy where
  margin : Int
  deriving DecidableEq

namespace Expiry

/-- The greatest value that is taken as seconds. -/
def threshold : Binary64 :=
  Binary64.ofInt 10000000000

/-- **An expiry date in seconds.** -/
def seconds (x : Binary64) : Binary64 :=
  if threshold.lt x then x.div Binary64.thousand else x

/-- The instant of an expiry date, if there is a date for it. -/
def date? (x : Binary64) : Option Instant :=
  if x.isFinite then
    let t := (((seconds x).mul Binary64.thousand).round).toInt64
    if Calendar.representable t then some t else none
  else none

end Expiry

namespace ExpiryPolicy

def standard : ExpiryPolicy := ⟨60000⟩

/-- The instant from which on a token that expires at `now` or before must not be used. -/
def deadline (p : ExpiryPolicy) (now : Instant) : Binary64 :=
  (Binary64.ofInt (now + p.margin)).div Binary64.thousand

/-- **Whether a token with this expiry date counts as expired**: without one it never does. -/
def expired (p : ExpiryPolicy) (expiry : Option Binary64) (now : Instant) : Bool :=
  match expiry with
  | none => false
  | some x => (Expiry.seconds x).lt (p.deadline now)

end ExpiryPolicy
end TokenCache
