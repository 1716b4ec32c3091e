import TokenCache.FileSystem.Resolve
/-!
# File operations

Reading, and the single changes that saving and locking are made of.  A change gives the file system after it, or the
cause of its failure.
-/
namespace TokenCache
namespace FileSystem

/-! ## Looking -/

def readFile (fs : FileSystem) (path : String) : Except OsError (List UInt8) := do
  match ← fs.resolve .followed path with
  | .found _ (.file content _) => return content
  | .found _ .directory => throw .isDirectory
  | _ => throw .notFound

/-- Whether a path leads to a directory, through links or not. -/
def isDirectory (fs : FileSystem) (path : String) : Bool :=
  match fs.resolve .followed path with
  | .ok (.found _ .directory) => true
  | _ => false

/-- What a path names, a link not followed. -/
def status? (fs : FileSystem) (path : String) : Option Entry :=
  match fs.resolve .asIs path with
  | .ok (.found _ entry) => some entry
  | _ => none

/-! ## Changes -/

abbrev Change := FileSystem → Except OsError FileSystem

/-- A new directory. -/
def makeDirectory (path : String) : Change := fun fs => do
  let p ← fs.place .alreadyExists path
  match fs.get? p.location with
  | some _ => throw .alreadyExists
  | none => return fs.put p.location .directory

/-- The file at a path, made if there is none. -/
def openFile (path : String) : Change := fun fs => do
  match ← fs.resolve .opened path with
  | .found _ (.file _ _) => return fs
  | .found _ _ => throw .isDirectory
  | .vacant directory name => return fs.put (name :: directory) (.file [] 0o644)

/-- A new, empty file for its owner alone. -/
def createAt (location : Location) : Change := fun fs =>
  match fs.get? location with
  | some _ => .error .alreadyExists
  | none => .ok (fs.put location (.file [] 0o600))

def writeAt (location : Location) (content : List UInt8) : Change := fun fs =>
  match fs.get? location with
  | some (.file _ mode) => .ok (fs.put location (.file content mode))
  | some _ => .error .isDirectory
  | none => .error .notFound

def setModeAt (location : Location) (mode : Nat) : Change := fun fs =>
  match fs.get? location with
  | some (.file content _) => .ok (fs.put location (.file content mode))
  | some _ => .error .isDirectory
  | none => .error .notFound

def removeAt (location : Location) : Change := fun fs =>
  .ok (fs.unlink location)

/-- **Moves a file to a path**, in place of a file or link there.  A null character in the path is reported as the
system would, and not as by the other operations. -/
def moveTo (location : Location) (path : String) : Change := fun fs =>
  if hasNull path then .error .invalidArgument
  else do
    let p ← fs.place .busy path
    match fs.get? location with
    | none => throw .notFound
    | some entry =>
      if p.slash then throw .notDirectory
      else if fs.get? p.location = some .directory then throw .isDirectory
      else return (fs.unlink location).put p.location entry

/-! ## Temporary files -/

/-- A location in a directory where there is nothing. -/
def freshIn (fs : FileSystem) (directory : Location) : Location :=
  let names := (List.range (fs.entries.length + 1)).map fun n => s!".tmp{n}"
  ((names.find? fun name => (fs.get? (name :: directory)).isNone).getD ".tmp") :: directory

def currentPath (fs : FileSystem) : String :=
  "/" ++ String.intercalate "/" fs.current.reverse

/-- The path by which a temporary file in a directory is made.  It starts from the root, even if the directory's does
not.  The last six characters of the name are new each time; which they are makes no difference to whether the path is
too long. -/
def temporaryPath (fs : FileSystem) (directory : String) : String :=
  Path.join (Path.join fs.currentPath directory) ".tmpXXXXXX"

/-- **Where a temporary file can be made** in a directory. -/
def temporaryIn (fs : FileSystem) (directory : String) : Except OsError Location := do
  checked (fs.temporaryPath directory)
  match ← fs.resolve .followed directory with
  | .found dir .directory => return fs.freshIn dir
  | .found _ _ => throw .notDirectory
  | .vacant _ _ => throw .notFound

end FileSystem
end TokenCache
