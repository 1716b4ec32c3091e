import Std.Time.DateTime.Timestamp
import TokenCache.CommandLine
import TokenCache.Edit
import TokenCache.Http.Transport
/-!
# The program

Reads what a command needs to know of its surroundings, runs the command on that, and carries out what it did.  The
program has no network of its own: a request fails as one to an unreachable endpoint.
-/
namespace TokenCache
namespace Main

/-! ## Surroundings -/

/-- The variables a command may look at. -/
def variableNames : List String :=
  ["HOME", "RUST_LOG"] ++ Provider.all.flatMap fun p =>
    ["TOKEN_FILE", "TOKEN_DIR", "API_BASE", "CLIENT_ID", "CLIENT_SECRET", "REFRESH_LOCK"].map fun s =>
      p.variablePrefix ++ "_" ++ s

def readEnvironment : IO Environment := do
  let values ← variableNames.mapM fun name => return (name, ← IO.getEnv name)
  return fun name => (values.lookup name).join

def readClock : IO Instant := do
  return (← Std.Time.Timestamp.now).toMillisecondsSinceUnixEpoch.val

def offline : Surroundings where
  endpoint r host :=
    match Posting.ofRequest r with
    | .error e => (.error e, host)
    | .ok p => (p.answer .refused, host)
  whileWaiting := id

/-! ## Files -/

/-- The files a command may touch. -/
def paths (env : Environment) : List String :=
  Provider.all.flatMap fun p =>
    let path := (Command.authenticator p env).config.credentialPath
    [path, (RefreshLock.forCredentials path).path]

/-- Adds a file that can be read to the files known. -/
def readInto (files : FileSystem) (path : String) : IO FileSystem := do
  try
    let content ← IO.FS.readBinFile path
    return (Edit.apply ⟨files, 0⟩ (.write path content.toList)).files
  catch _ => return files

/-- The rights in three bits of a mode. -/
def accessRight (bits : Nat) : IO.AccessRight :=
  ⟨bits.testBit 2, bits.testBit 1, bits.testBit 0⟩

def fileRight (mode : Nat) : IO.FileRight :=
  ⟨accessRight (mode >>> 6), accessRight (mode >>> 3), accessRight mode⟩

/-- Puts a file that a command has changed where it belongs, in one step.  Its mode is set before there is anything in
it. -/
def carryOut (before after : FileSystem) (path : String) : IO Unit := do
  match after.status? path with
  | some (.file content mode) =>
    if before.status? path != some (.file content mode) then
      let directory := Path.directory path
      IO.FS.createDirAll directory
      let temporary := Path.join directory ".tmp-token-cache"
      IO.FS.writeBinFile temporary .empty
      IO.setAccessRights temporary (fileRight mode)
      IO.FS.writeBinFile temporary ⟨content.toArray⟩
      IO.FS.rename temporary path
  | _ => return ()

end Main
end TokenCache

open TokenCache in
def main (arguments : List String) : IO UInt32 := do
  let env ← Main.readEnvironment
  let before ← (Main.paths env).foldlM Main.readInto (FileSystem.emptyAt ["here"])
  let result := Command.run arguments env Main.offline ⟨before, ← Main.readClock⟩
  (Main.paths env).forM (Main.carryOut before result.host.files)
  IO.print result.output
  IO.eprint result.errors
  return result.exitCode.toUInt32
