import TokenCache.Directory
/-!
# What others do to a host

A login tool or another process may write, link and remove files at any time, and the clock goes on.
-/
namespace TokenCache

inductive Edit
  /-- Writes a file, through a link if there is one. -/
  | write (path : String) (content : List UInt8)
  | directory (path : String)
  | link (path target : String)
  /-- Removes an entry and all below it. -/
  | remove (path : String)
  | clock (time : Instant)

namespace Edit

/-- A host after a change of its files, or as it was if the change fails. -/
def changed (change : FileSystem.Change) (host : Host) : Host :=
  (Run.perform change host).host

/-- A host with the directory an entry is to be in. -/
def withDirectory (path : String) (host : Host) : Host :=
  (Directory.ensure (Path.directory path) host).host

def writeFile (path : String) (content : List UInt8) : FileSystem.Change := fun fs => do
  match ← fs.resolve .opened path with
  | .found location (.file _ _) => return fs.put location (.file content 0o644)
  | .found _ _ => throw .isDirectory
  | .vacant parent name => return fs.put (name :: parent) (.file content 0o644)

def makeLink (path target : String) : FileSystem.Change := fun fs => do
  let p ← fs.place .alreadyExists path
  if (fs.get? p.location).isSome then throw .alreadyExists
  else return fs.put p.location (.link target)

def removeEntry (path : String) : FileSystem.Change := fun fs => do
  return fs.erase (← fs.place .busy path).location

def apply (host : Host) : Edit → Host
  | write path content => changed (writeFile path content) (withDirectory path host)
  | directory path => (Directory.ensure path host).host
  | link path target => changed (makeLink path target) (withDirectory path host)
  | remove path => changed (removeEntry path) host
  | clock time => { host with clock := time }

/-- One edit after the other. -/
def applyAll (edits : List Edit) (host : Host) : Host :=
  edits.foldl apply host

end Edit
end TokenCache
