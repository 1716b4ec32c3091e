import TokenCache.Directory
/-!
# The credential store

Loading gives a record or nothing: a file that is missing, unreadable or malformed is no record.  Saving writes a
temporary file beside the target and moves it over the target, so that the target holds the old content or the new one
and never a part.
-/
namespace TokenCache

/-- Where a record is kept, and whether failures to save are handed to an observer. -/
structure Store where
  path : String
  observed : Bool

/-- Why a record was not saved. -/
inductive SaveError
  | directory (path : String) (error : OsError)
  | temporary (error : OsError)
  | writing (error : OsError)
  | replacing (path : String) (error : OsError)
  deriving DecidableEq

/-- A temporary file is not named in the message, since its name is another each time. -/
def SaveError.message : SaveError → String
  | directory path e => s!"failed to create dir {path}: {e.message}"
  | temporary e => s!"failed to create temp file: {e.message}"
  | writing e => s!"failed to write temp file: {e.message}"
  | replacing path e => s!"failed to replace {path}: {e.message}"

namespace Store

/-! ## Loading -/

def load (s : Store) : Run (Option Record) := do
  match (← Run.files).readFile s.path with
  | .error e =>
    Run.log (.unreadable s.path e)
    return none
  | .ok content =>
    match Record.parse content with
    | .ok r => return some r
    | .error e =>
      Run.log (.unparsable s.path e)
      return none

/-! ## Saving -/

/-- A new file in a directory, which is not yet known by a name anyone uses. -/
def openTemporary (directory : String) : Run (Except OsError Location) := do
  match (← Run.files).temporaryIn directory with
  | .error e => return .error e
  | .ok temporary =>
    match ← Run.perform (FileSystem.createAt temporary) with
    | .ok () => return .ok temporary
    | .error e => return .error e

/-- Fills the temporary file and moves it to the path. -/
def fillAndMove (temporary : Location) (path : String) (content : List UInt8) : Run (Except SaveError Unit) := do
  match ← Run.perform (FileSystem.writeAt temporary content) with
  | .error e => return .error (.writing e)
  | .ok () =>
    let _ ← Run.perform (FileSystem.setModeAt temporary 0o600)
    match ← Run.perform (FileSystem.moveTo temporary path) with
    | .error e => return .error (.replacing path e)
    | .ok () => return .ok ()

/-- Replaces the file at a path by way of a temporary file in a directory, which is gone after a failure. -/
def replaceBy (directory path : String) (content : List UInt8) : Run (Except SaveError Unit) := do
  match ← openTemporary directory with
  | .error e => return .error (.temporary e)
  | .ok temporary =>
    match ← fillAndMove temporary path content with
    | .ok () => return .ok ()
    | .error e =>
      let _ ← Run.perform (FileSystem.removeAt temporary)
      return .error e

/-- **Replaces the file at a path in one step**, in its directory, which is made if there is none. -/
def replaceFile (path : String) (content : List UInt8) : Run (Except SaveError Unit) := do
  match ← Directory.ensure (Path.directory path) with
  | .error e => return .error (.directory (Path.directory path) e)
  | .ok () => replaceBy (Path.directory path) path content

def trySave (s : Store) (r : Record) : Run (Except AuthError Unit) := do
  match ← replaceFile s.path r.bytes with
  | .ok () => return .ok ()
  | .error e => return .error (.persistFailed s.path e.message)

/-- Reports a save that failed, also to the observer. -/
def reportFailure (s : Store) (e : AuthError) : Run Unit := do
  Run.log (.notPersisted s.path e)
  if s.observed then Run.emit (.report e)

/-- **Saves a record**, and tells whether that was done.  A failure goes to the observer and not to the caller. -/
def save (s : Store) (r : Record) : Run Bool := do
  match ← s.trySave r with
  | .ok () => return true
  | .error e =>
    s.reportFailure e
    return false

end Store
end TokenCache
