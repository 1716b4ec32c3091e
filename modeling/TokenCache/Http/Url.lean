import TokenCache.Http.Host
import TokenCache.Text.Blank
/-!
# URLs

An endpoint is given as a URL.  Reading one settles its spelling: scheme and host in lower case, a port that goes
without saying left out, `.` and `..` resolved, and what may not stand for itself percent-encoded.
-/
namespace TokenCache

/-- The name and the password before a host, percent-encoded; either may be empty. -/
structure UserInfo where
  name : String
  password : String
  deriving DecidableEq

/-- A URL by its parts.  `host` is absent from URLs that have no place for one, and empty in those that leave the place
empty. -/
structure Url where
  scheme : String
  user : UserInfo
  host : Option String
  port : Option Nat
  path : String
  query : Option String
  fragment : Option String
  deriving DecidableEq

namespace UserInfo

def empty : UserInfo := ⟨"", ""⟩

/-- The text before the host: nothing at all if both are empty. -/
def toText (u : UserInfo) : String :=
  if u = empty then "" else u.name ++ (if u.password.isEmpty then "" else ":" ++ u.password) ++ "@"

end UserInfo

namespace Url

/-- The port that goes without saying. -/
def defaultPort? (scheme : String) : Option Nat :=
  if scheme == "http" || scheme == "ws" then some 80
  else if scheme == "https" || scheme == "wss" then some 443
  else if scheme == "ftp" then some 21
  else none

/-- Schemes whose URLs name a host and a path that starts with a slash. -/
def isSpecial (scheme : String) : Bool :=
  (defaultPort? scheme).isSome || scheme == "file"

/-! ## Which bytes stand for themselves -/

/-- Printable ASCII other than a space and the characters of `except`. -/
def keepsBut (except : String) (b : UInt8) : Bool :=
  32 < b && b < 127 && !except.toList.contains (Char.ofNat b.toNat)

def keepsInFragment : UInt8 → Bool := keepsBut "\"<>`"

def keepsInPath : UInt8 → Bool := keepsBut "\"#<>?`\x7b\x7d"

def keepsInUser : UInt8 → Bool := keepsBut "\"#<>?`\x7b\x7d/:;=@[\\]^|"

def keepsInQuery (special : Bool) : UInt8 → Bool := keepsBut (if special then "\"#<>'" else "\"#<>")

def encoded (keep : UInt8 → Bool) (cs : List Char) : String :=
  Percent.encodeWith keep (String.ofList cs)

/-! ## Paths -/

def isSlash (special : Bool) (c : Char) : Bool :=
  c == '/' || (special && c == '\\')

def dotless (segment : List Char) : String :=
  (Text.lower (String.ofList segment)).replace "%2e" "."

/-- A letter with a colon or a bar after it: the name of a drive, which no `..` leads out of. -/
def isDrive : List Char → Bool
  | [letter, sign] => letter.isAlpha && (sign == ':' || sign == '|')
  | _ => false

/-- The segments without the last one; they have the last first. -/
def parent : List (List Char) → List (List Char)
  | s :: done => if isDrive s then s :: done else done
  | [] => []

/-- Drops `.`, and `..` with the segment before it; either of them in last place leaves an empty segment.  `done` has
the segments so far, the last first. -/
def resolveDots (done : List (List Char)) : List (List Char) → List (List Char)
  | [] => done.reverse
  | s :: ss =>
    let keep := if ss.isEmpty then [[]] else []
    if dotless s == "." then resolveDots (keep ++ done) ss
    else if dotless s == ".." then resolveDots (keep ++ parent done) ss
    else resolveDots (s :: done) ss

/-- Segments, dots resolved, with slashes between them. -/
def joined (segments : List (List Char)) : List Char :=
  ['/'].intercalate (resolveDots [] segments)

/-- The text after the slash it may start with. -/
def afterSlash (special : Bool) : List Char → List Char
  | c :: cs => if isSlash special c then cs else c :: cs
  | [] => []

/-- A path from the text that follows the host. -/
def hierarchical (special : Bool) (cs : List Char) : String :=
  "/" ++ encoded keepsInPath (joined (Text.splitWhere (isSlash special) (afterSlash special cs)))

/-! ## User, host and port -/

/-- The name before the first colon, the password after it. -/
def userInfo (cs : List Char) : UserInfo :=
  match Text.before (· == ':') cs with
  | (name, password) => ⟨encoded keepsInUser name, encoded keepsInUser (password.drop 1)⟩

/-- What stands before the last `@`, if there is one, and what stands after it. -/
def splitUser (cs : List Char) : Option (List Char) × List Char :=
  let rest := (cs.reverse.takeWhile (· != '@')).reverse
  if cs.contains '@' then (some (cs.take (cs.length - rest.length - 1)), rest) else (none, cs)

/-- The host, up to the first colon that is not between brackets, and the rest from it on. -/
def splitHost (inside : Bool) : List Char → List Char × List Char
  | [] => ([], [])
  | c :: cs =>
    if c == ':' && !inside then ([], c :: cs)
    else
      let (host, rest) := splitHost (c == '[' || (inside && c != ']')) cs
      (c :: host, rest)

/-- A port up to 65535; nothing for an empty one and the one that goes without saying. -/
def port? (scheme : String) (digits : List Char) : Option (Option Nat) :=
  if digits.isEmpty then some none
  else
    (HostName.digitsIn 10 digits).bind fun n =>
      if 65535 < n then none else some (if some n = defaultPort? scheme then none else some n)

/-! ## Reading -/

/-- Query and fragment, and what stands before them. -/
structure Tail where
  front : List Char
  query : Option (List Char)
  fragment : Option (List Char)

def splitTail (cs : List Char) : Tail :=
  let (body, fragment) := match Text.before (· == '#') cs with
    | (body, _ :: f) => (body, some f)
    | (body, []) => (body, none)
  match Text.before (· == '?') body with
  | (front, _ :: q) => ⟨front, some q, fragment⟩
  | (front, []) => ⟨front, none, fragment⟩

/-- A scheme and what follows its colon. -/
def scheme? (cs : List Char) : Option (String × List Char) :=
  match Text.before (· == ':') cs with
  | (name, _ :: rest) =>
    if (name.head?.any Char.isAlpha) && name.all (fun c => c.isAlphanum || c == '+' || c == '-' || c == '.') then
      some (Text.lower (String.ofList name), rest)
    else none
  | _ => none

/-- What stands between the scheme and the query. -/
structure Body where
  user : UserInfo
  host : Option String
  port : Option Nat
  path : String

/-- The body of a URL from the text after two slashes: user, host and port, and a path.  Only a private host may be
empty, and then no user and no port belong to it.  `last` tells that neither query nor fragment follows. -/
def authority? (scheme : String) (special last : Bool) (cs : List Char) : Option Body := do
  let (authority, path) := Text.before (isSlash special) cs
  let (user, rest) := splitUser authority
  if user == some [] && rest.isEmpty && !(last && path.isEmpty) then none
  let info := user.elim UserInfo.empty userInfo
  let (host, rest) := splitHost false rest
  if host.isEmpty && (special || !rest.isEmpty || info != UserInfo.empty) then none
  let name ← if special then HostName.parse? host else HostName.parsePrivate? host
  let (digits, more) := Text.before (!·.isDigit) (rest.drop 1)
  if !more.isEmpty && more.head? != some '\\' then none
  let path := more ++ path
  return ⟨info, name, ← port? scheme digits, if path.isEmpty && !special then "" else hierarchical special path⟩

/-- The body of a `file` URL: a host, which is no other than this one if it is `localhost`, and a path without empty
segments in front. -/
def fileBody (host : String) (segments : List (List Char)) : Body :=
  ⟨UserInfo.empty, some host, none, "/" ++ encoded keepsInPath ((joined segments).dropWhile (· == '/'))⟩

/-- The body of a `file` URL, by its host and the segments of its path.  A path that starts with a drive is on no other
host, and the drive is written with a colon. -/
def onDrive (host : String) : List (List Char) → Body
  | s :: ss => if isDrive s then fileBody "" ((s.take 1 ++ [':']) :: ss) else fileBody host (s :: ss)
  | [] => fileBody host []

/-- The body of a `file` URL: a host if two slashes come first, and a path. -/
def file? (cs : List Char) : Option Body :=
  let segments := Text.splitWhere (isSlash true)
  match cs with
  | a :: b :: rest =>
    if isSlash true a && isSlash true b then
      let (host, path) := Text.before (isSlash true) rest
      if isDrive host then some (onDrive "" (segments rest))
      else if host.isEmpty then some (fileBody "" (segments (path.drop 1)))
      else (HostName.parse? host).map fun name =>
        if name = "localhost" then fileBody "" (segments (path.drop 1)) else onDrive name (segments (path.drop 1))
    else if isSlash true a then some (fileBody "" (segments (b :: rest)))
    else some (onDrive "" (segments cs))
  | [c] => some (if isSlash true c then fileBody "" [[]] else onDrive "" [[c]])
  | [] => some (fileBody "" [[]])

/-- The body, by what kind of URL the scheme and the first characters make it. -/
def body? (scheme : String) (last : Bool) (cs : List Char) : Option Body :=
  if scheme == "file" then file? cs
  else if isSpecial scheme then authority? scheme true last (cs.dropWhile (isSlash true))
  else match cs with
    | '/' :: '/' :: rest => authority? scheme false last rest
    | '/' :: _ => some ⟨UserInfo.empty, none, none, hierarchical false cs⟩
    | _ => some ⟨UserInfo.empty, none, none, encoded Percent.isPrintable cs⟩

/-- Text without control characters and spaces around it, and without tabs and line ends inside. -/
def cleaned (s : String) : List Char :=
  let outer (c : Char) := decide (c.toNat ≤ 32)
  (((s.toList.dropWhile outer).reverse.dropWhile outer).reverse).filter fun c => c != '\t' && c != '\n' && c != '\r'

/-- **The URL a text spells**, if it is an absolute one. -/
def parse? (s : String) : Option Url := do
  let (scheme, rest) ← scheme? (cleaned s)
  let t := splitTail rest
  let b ← body? scheme (t.query.isNone && t.fragment.isNone) t.front
  return ⟨scheme, b.user, b.host, b.port, b.path, t.query.map (encoded (keepsInQuery (isSpecial scheme))),
    t.fragment.map (encoded keepsInFragment)⟩

/-- Whether a URL names a host. -/
def hasHost (u : Url) : Bool :=
  u.host.any (· != "")

/-! ## Writing -/

/-- What a request line names: path and query. -/
def target (u : Url) : String :=
  u.path ++ (u.query.elim "" ("?" ++ ·))

/-- What stands before the path: two slashes only where a host can be, and `/.` where the path would look like one. -/
def front (u : Url) : String :=
  match u.host with
  | some host => "//" ++ u.user.toText ++ host ++ u.port.elim "" fun p => s!":{p}"
  | none => if u.path.startsWith "//" then "/." else ""

/-- **A URL as text.** -/
def toText (u : Url) : String :=
  u.scheme ++ ":" ++ u.front ++ u.target ++ u.fragment.elim "" ("#" ++ ·)

end Url
end TokenCache
