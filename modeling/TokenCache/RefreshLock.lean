import TokenCache.Directory
import TokenCache.Exchange
/-!
# The refresh lock

Callers that share a credential file can take turns at refreshing it.  The lock is a file beside the credential file,
named by a digest of the credential path as it is written.  A lock that cannot be had is reported, and the work is done
without it.
-/
namespace TokenCache

structure RefreshLock where
  path : String
  deriving DecidableEq

namespace RefreshLock

/-- The name of the lock file for a credential path. -/
def fileName (credentialPath : String) : String :=
  ".refresh-" ++ Fingerprint.digits 24 credentialPath ++ ".lock"

def forCredentials (path : String) : RefreshLock :=
  ⟨Path.join (Path.directory path) (fileName path)⟩

/-- Makes the lock file and the directories it is in. -/
def openFile (lock : RefreshLock) : Run (Except OsError Unit) := do
  match ← (Path.parent? lock.path).elim (pure (.ok ())) Directory.ensure with
  | .error e => return .error e
  | .ok () => Run.perform (FileSystem.openFile lock.path)

/-- **Works while holding the lock.**  `others` is what happens until the lock is granted. -/
def withExclusive {α : Type} (lock : RefreshLock) (others : Host → Host) (work : Run α) : Run α := do
  match ← lock.openFile with
  | .error e =>
    Run.log (.lockUnavailable lock.path e)
    work
  | .ok () =>
    Run.log (.lockAwaited lock.path)
    Run.disturb others
    Run.log (.lockAcquired lock.path)
    let a ← work
    Run.log (.lockReleased lock.path)
    return a

end RefreshLock
end TokenCache
