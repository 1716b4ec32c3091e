import TokenCache.FileSystem.Basic
/-!
# Finding what a path names

A path is followed name by name from the root or the current directory.  A link met on the way is replaced by the path
it names, at most `linkLimit` times; one in last place as the `Ending` says.
-/
namespace TokenCache
namespace FileSystem

/-- How many links a path may lead through. -/
def linkLimit : Nat := 40

/-- The greatest number of bytes in a name. -/
def nameLimit : Nat := 255

/-- The number of bytes that make a path too long. -/
def pathLimit : Nat := 4096

/-- The names along a path, and an empty one for a slash at its end, which asks for a directory. -/
def route (path : String) : List String :=
  let pieces := Path.split path.toList
  ((pieces.filter (· != [])) ++ (if pieces.getLast? == some [] then [[]] else [])).map String.ofList

/-- Where a path met in a directory starts. -/
def origin (directory : Location) (path : String) : Location :=
  if Path.isAbsolute path then [] else directory

/-- What a path leads to: an entry, or a free name in a directory. -/
inductive Target
  | found (loc : Location) (entry : Entry)
  | vacant (directory : Location) (name : String)

/-- What is to be done with the last name on a path. -/
inductive Ending
  /-- To look at it, also if it is a link. -/
  | asIs
  /-- To look at what it leads to. -/
  | followed
  /-- To open what it leads to, which is made if it is not there: never a name with a slash after it. -/
  | opened
  deriving DecidableEq

/-- Follows names from a directory on.  At a link that is to be followed `jump` takes over, from the directory the link
is in and with the names its target puts in its place. -/
def descend (fs : FileSystem) (ending : Ending) (jump : Location → List String → Except OsError Target) :
    Location → List String → Except OsError Target
  | here, [] => .ok (.found here .directory)
  | here, name :: rest =>
    if name = "" || name = "." then descend fs ending jump here rest
    else if name = ".." then descend fs ending jump here.tail rest
    else if ending = .opened && rest = [""] then .error .isDirectory
    else if nameLimit < name.utf8ByteSize then .error .nameTooLong
    else match fs.get? (name :: here) with
      | none => if rest.isEmpty then .ok (.vacant here name) else .error .notFound
      | some .directory => descend fs ending jump (name :: here) rest
      | some (.file content mode) =>
        if rest.isEmpty then .ok (.found (name :: here) (.file content mode)) else .error .notDirectory
      | some (.link target) =>
        if rest.isEmpty && ending = .asIs then .ok (.found (name :: here) (.link target))
        else jump (origin here target) (route target ++ rest)

/-- Follows names through at most `n` links. -/
def walk (fs : FileSystem) (ending : Ending) : Nat → Location → List String → Except OsError Target
  | 0 => descend fs ending fun _ _ => .error .tooManyLinks
  | n + 1 => descend fs ending (walk fs ending n)

/-- Whether there is a null character in a path. -/
def hasNull (path : String) : Bool :=
  path.toList.contains '\x00'

/-- A path without null characters that is neither empty nor too long. -/
def checked (path : String) : Except OsError Unit :=
  if hasNull path then .error .nullInPath
  else if path.isEmpty then .error .notFound
  else if pathLimit ≤ path.utf8ByteSize then .error .nameTooLong
  else .ok ()

/-- **What a path names.** -/
def resolve (fs : FileSystem) (ending : Ending) (path : String) : Except OsError Target := do
  checked path
  walk fs ending linkLimit (origin fs.current path) (route path)

/-- A place an entry can be put at: its location, and whether the path ends with a slash. -/
structure Place where
  location : Location
  slash : Bool

/-- The directory that names lead to. -/
def directoryAt (fs : FileSystem) (start : Location) (names : List String) : Except OsError Location := do
  match ← walk fs .followed linkLimit start names with
  | .found here .directory => return here
  | .found _ _ => throw .notDirectory
  | .vacant _ _ => throw .notFound

/-- **The place a path names**: its last name in the directory before it, whether or not there is something.  `unnamed`
is the failure for a path that ends in no name. -/
def place (fs : FileSystem) (unnamed : OsError) (path : String) : Except OsError Place := do
  checked path
  let slash := path.toList.getLast? == some '/'
  let names := if slash then (route path).dropLast else route path
  let directory ← fs.directoryAt (origin fs.current path) names.dropLast
  match names.getLast? with
  | none => throw unnamed
  | some name =>
    if name = "." || name = ".." then throw unnamed
    else if nameLimit < name.utf8ByteSize then throw .nameTooLong
    else return ⟨name :: directory, slash⟩

end FileSystem
end TokenCache
