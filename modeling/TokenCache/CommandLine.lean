import TokenCache.Status
/-!
# The command line

A command line is a help request or names a provider and what to print for it.  Standard output holds what was asked for
and nothing else; reports and failures go to standard error, and the exit code tells a wrong command line from a failed
call.
-/
namespace TokenCache

inductive Command
  | help
  | token (p : Provider)
  | apiBase (p : Provider)
  | status (p : Provider) (json : Bool)
  deriving DecidableEq

/-- What is wrong with a command line. -/
inductive UsageError
  | unknownProvider (word : String)
  | noCommand
  | unknownCommand (word : String)
  | tokenArguments
  | apiBaseArguments
  | statusArguments
  deriving DecidableEq

def UsageError.message : UsageError → String
  | unknownProvider word => s!"unknown provider: {word}"
  | noCommand => "usage: oauth-cache <qwen|gemini> <token|api-base|status [--json]>"
  | unknownCommand word => s!"unknown command: {word}"
  | tokenArguments => "usage: oauth-cache <provider> token"
  | apiBaseArguments => "usage: oauth-cache <provider> api-base"
  | statusArguments => "usage: oauth-cache <provider> status [--json]"

namespace Command

def isHelp (word : String) : Bool :=
  word == "-h" || word == "--help" || word == "help"

/-- The command for a provider. -/
def ofWords (p : Provider) : List String → Except UsageError Command
  | [] => .error .noCommand
  | "token" :: rest => if rest.isEmpty then .ok (.token p) else .error .tokenArguments
  | "api-base" :: rest => if rest.isEmpty then .ok (.apiBase p) else .error .apiBaseArguments
  | "status" :: rest =>
    if rest.isEmpty then .ok (.status p false)
    else if rest == ["--json"] then .ok (.status p true)
    else .error .statusArguments
  | word :: _ => .error (.unknownCommand word)

/-- **What a command line asks for.** -/
def parse : List String → Except UsageError Command
  | [] => .ok .help
  | first :: rest =>
    if isHelp first then .ok .help
    else match Provider.parse? first with
      | some p => ofWords p rest
      | none => .error (.unknownProvider first)

def helpText : String :=
  "oauth-cache - cached OAuth bearer tokens for CLI-issued credentials\n\n" ++
  "Usage:\n" ++
  "oauth-cache <provider> token           Print a valid access token, refreshing if needed\n" ++
  "oauth-cache <provider> api-base        Print the API base for the provider\n" ++
  "oauth-cache <provider> status [--json] Show stored credential state (no network)\n" ++
  "oauth-cache help                       Show this help\n\n" ++
  "Providers: " ++ String.intercalate ", " (Provider.all.map Provider.name)

end Command

/-! ## Which events are shown -/

/-- The least level shown; nothing is when there is none. -/
abbrev Verbosity := Option Level

namespace Verbosity

/-- The part of the program whose events these are. -/
def component : String := "oauth_cache"

/-- What a word says of the level. -/
def ofWord? (word : String) : Option Verbosity :=
  let w := Text.lower word
  if w == "off" then some none
  else ([.trace, .debug, .info, .warn, .error].find? fun l : Level => Text.lower l.name == w).map some

/-- A level for every component, or for the one that is named. -/
structure Directive where
  component : Option String
  verbosity : Verbosity

/-- A level, a component with a level after `=`, or a component of which everything is shown. -/
def directive? (word : String) : Option Directive :=
  match ofWord? word with
  | some v => some ⟨none, v⟩
  | none =>
    let name := String.ofList (word.toList.takeWhile (· != '='))
    match word.toList.dropWhile (· != '=') with
    | _ :: level => (ofWord? (String.ofList level)).map (⟨some name, ·⟩)
    | [] => some ⟨some name, some .trace⟩

/-- The words between commas. -/
def words (s : String) : List String :=
  ((s.splitOn ",").map Text.trim).filter fun w => !w.isEmpty

/-- The verbosity the directives give the component: one that names it wins over one that names none. -/
def ofDirectives (ds : List Directive) : Verbosity :=
  match (ds.filter fun d => d.component == some component).getLast? with
  | some d => d.verbosity
  | none =>
    match (ds.filter fun d => d.component.isNone).getLast? with
    | some d => d.verbosity
    | none => if ds.isEmpty then some .error else none

/-- **The verbosity a setting asks for**: warnings if there is no setting, or one that says nothing clear. -/
def ofSetting (setting : Option String) : Verbosity :=
  match setting with
  | none => some .warn
  | some s => ((words s).mapM directive?).elim (some .warn) ofDirectives

def shows (v : Verbosity) (l : Level) : Bool :=
  v.any fun least => least.rank ≤ l.rank

end Verbosity

/-! ## Running a command -/

/-- What a command prints, and the host it leaves. -/
structure CommandResult where
  exitCode : Nat
  output : String
  errors : String
  host : Host

namespace Command

def authenticator (p : Provider) (env : Environment) : Authenticator :=
  ⟨p.config (Provider.homeDirectory env) env, .standard, false⟩

/-- The lines of the events shown. -/
def eventLines (v : Verbosity) (trace : List Signal) : String :=
  String.join (trace.filterMap fun
    | .event time e => if v.shows e.level then some (e.line time ++ "\n") else none
    | _ => none)

def failureLine (message : String) : String :=
  s!"oauth-cache: {message}\n"

/-- The text for a failed call. -/
def describe (e : AuthError) : String :=
  s!"{e.message} (status {e.status})"

def statusText (s : CredentialStatus) (json : Bool) : String :=
  if json then s.toJson.prettyText else String.intercalate "\n" s.lines

/-- What a command prints, or how it fails. -/
def execute (env : Environment) (around : Surroundings) : Command → Run (Except AuthError String)
  | help => return .ok helpText
  | token p => (authenticator p env).accessToken around
  | apiBase p => return .ok (← (authenticator p env).apiBase)
  | status p json => return .ok (statusText (← (authenticator p env).status) json)

/-- **Runs a command line.** -/
def run (arguments : List String) (env : Environment) (around : Surroundings) (host : Host) : CommandResult :=
  match parse arguments with
  | .error e => ⟨2, "", failureLine e.message, host⟩
  | .ok command =>
    let outcome := execute env around command host
    let shown := eventLines (Verbosity.ofSetting (env "RUST_LOG")) outcome.trace
    match outcome.value with
    | .ok text => ⟨0, text ++ "\n", shown, outcome.host⟩
    | .error e => ⟨1, "", shown ++ failureLine (describe e), outcome.host⟩

end Command
end TokenCache
