import TokenCache.Run
/-!
# Making directories

A directory is made together with those around it that are missing.
-/
namespace TokenCache
namespace Directory

/-- Makes one directory; that there is one already is no failure. -/
def make (path : String) : Run (Except OsError Unit) := do
  match ← Run.perform (FileSystem.makeDirectory path) with
  | .ok () => return .ok ()
  | .error e => return if (← Run.files).isDirectory path then .ok () else .error e

/-- Makes a directory and at most `n` around it.  Those are made only when the first try finds one of them missing. -/
def ensureWithin : Nat → String → Run (Except OsError Unit)
  | 0, _ => return .error .notFound
  | n + 1, path => do
    if path.isEmpty then return .ok ()
    match ← Run.perform (FileSystem.makeDirectory path) with
    | .ok () => return .ok ()
    | .error .notFound =>
      match Path.parent? path with
      | none => return .error .notFound
      | some parent =>
        match ← ensureWithin n parent with
        | .ok () => make path
        | .error e => return .error e
    | .error e => return if (← Run.files).isDirectory path then .ok () else .error e

/-- **Sees to it that there is a directory at a path.** -/
def ensure (path : String) : Run (Except OsError Unit) :=
  ensureWithin (path.length + 1) path

end Directory
end TokenCache
