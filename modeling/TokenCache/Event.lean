import TokenCache.AuthError
import TokenCache.Calendar
import TokenCache.FileSystem.Basic
import TokenCache.Record
/-!
# Events

What happens on the way to a token is reported as events with a level, a message and named values.  A token appears in
them as its fingerprint only.
-/
namespace TokenCache

inductive Level
  | trace
  | debug
  | info
  | warn
  | error
  deriving DecidableEq

inductive Event
  | unreadable (path : String) (error : OsError)
  | unparsable (path : String) (error : Record.ParseError)
  | notPersisted (path : String) (error : AuthError)
  | lockUnavailable (lock : String) (error : OsError)
  | lockAwaited (lock : String)
  | lockAcquired (lock : String)
  | lockReleased (lock : String)
  | reused (provider : String)
  | refreshing (provider endpoint fingerprint : String)
  | rejected (provider : String) (status : Nat)
  | refreshed (provider fingerprint : String) (rotated persisted : Bool)
  deriving DecidableEq

/-- A named value of an event. -/
inductive FieldValue
  | text (s : String)
  | number (n : Nat)
  | flag (b : Bool)

namespace Event

def level : Event → Level
  | notPersisted .. | lockUnavailable .. | rejected .. => .warn
  | refreshed .. => .info
  | _ => .debug

def message : Event → String
  | unreadable .. => "unable to read OAuth credentials"
  | unparsable .. => "unable to parse OAuth credentials"
  | notPersisted .. => "failed to persist refreshed OAuth credentials"
  | lockUnavailable .. => "refresh lock unavailable, refreshing unlocked"
  | lockAwaited _ => "waiting for refresh lock"
  | lockAcquired _ => "refresh lock acquired"
  | lockReleased _ => "refresh lock released"
  | reused _ => "reusing token refreshed by another holder"
  | refreshing .. => "refreshing OAuth access token"
  | rejected .. => "OAuth refresh rejected by token endpoint"
  | refreshed .. => "OAuth access token refreshed"

def fields : Event → List (String × FieldValue)
  | unreadable path e => [("path", .text path), ("error", .text e.message)]
  | unparsable path e => [("path", .text path), ("error", .text e.message)]
  | notPersisted path e => [("path", .text path), ("error", .text e.message)]
  | lockUnavailable lock e => [("lock", .text lock), ("error", .text e.message)]
  | lockAwaited lock | lockAcquired lock | lockReleased lock => [("lock", .text lock)]
  | reused provider => [("provider", .text provider)]
  | refreshing provider endpoint fp =>
    [("provider", .text provider), ("endpoint", .text endpoint), ("refresh_fp", .text fp)]
  | rejected provider status => [("provider", .text provider), ("status", .number status)]
  | refreshed provider fp rotated persisted =>
    [("provider", .text provider), ("access_fp", .text fp), ("rotated_refresh", .flag rotated),
      ("persisted", .flag persisted)]

end Event

/-! ## Levels -/

namespace Level

def name : Level → String
  | trace => "TRACE"
  | debug => "DEBUG"
  | info => "INFO"
  | warn => "WARN"
  | error => "ERROR"

/-- How much a level weighs. -/
def rank : Level → Nat
  | trace => 0
  | debug => 1
  | info => 2
  | warn => 3
  | error => 4

end Level

/-! ## Lines -/

def FieldValue.shown : FieldValue → String
  | text s => s
  | number n => toString n
  | flag b => if b then "true" else "false"

/-- **An event as a line of text**, with the instant it was reported at. -/
def Event.line (e : Event) (time : Instant) : String :=
  let indent := String.ofList (List.replicate (5 - e.level.name.length) ' ')
  let fields := e.fields.map fun f => " " ++ f.1 ++ "=" ++ f.2.shown
  Calendar.stampText time ++ " " ++ indent ++ e.level.name ++ " " ++ e.message ++ String.join fields

end TokenCache
