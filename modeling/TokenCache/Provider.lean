import TokenCache.Exchange
import TokenCache.Path
import TokenCache.Record
/-!
# Providers and their configuration

Each provider has a built-in profile.  Six environment variables under the provider's own prefix override parts of it; a
blank value counts as unset.
-/
namespace TokenCache

inductive Provider
  | qwen
  | gemini
  deriving DecidableEq

/-- Where the API base comes from. -/
inductive ApiBaseSource
  | static
  | recordField (name : String)
  deriving DecidableEq

structure Config where
  name : String
  displayName : String
  /-- Ends the message of a missing credential. -/
  loginHint : String
  tokenEndpoint : String
  clientId : String
  clientSecret : Option String
  defaultApiBase : String
  apiBaseSource : ApiBaseSource
  credentialPath : String
  refreshTimeoutMillis : Nat
  refreshLock : Bool
  deriving DecidableEq

/-- The values of environment variables. -/
abbrev Environment := String → Option String

/-- The file a login tool leaves in its directory. -/
def credentialFileName : String := "oauth_creds.json"

namespace Provider

def all : List Provider := [qwen, gemini]

def name : Provider → String
  | qwen => "qwen"
  | gemini => "gemini"

/-- **The provider a word names**: blanks around it and its case do not matter. -/
def parse? (raw : String) : Option Provider :=
  let word := Text.lower (Text.trim raw)
  if word == "qwen" || word == "qwen-oauth" || word == "qwen_oauth" then some qwen
  else if word == "gemini" || word == "gemini-oauth" || word == "gemini_oauth" then some gemini
  else none

def variablePrefix : Provider → String
  | qwen => "QWEN_OAUTH"
  | gemini => "GEMINI_OAUTH"

/-- The built-in profile of a provider. -/
def defaults (home : String) : Provider → Config
  | qwen =>
    { name := "qwen"
      displayName := "Qwen"
      loginHint := "Please authenticate via Qwen CLI."
      tokenEndpoint := "https://chat.qwen.ai/api/v1/oauth2/token"
      clientId := "f0304373b74a44d2b584a3fb70ca9e56"
      clientSecret := none
      defaultApiBase := "https://dashscope.aliyuncs.com/compatible-mode/v1"
      apiBaseSource := .recordField "resource_url"
      credentialPath := Path.join (Path.join home ".qwen") credentialFileName
      refreshTimeoutMillis := 30000
      refreshLock := false }
  | gemini =>
    { name := "gemini"
      displayName := "Gemini"
      loginHint := "Please log in via Gemini CLI."
      tokenEndpoint := "https://oauth2.googleapis.com/token"
      clientId := "681255809395-oo8ft2oprdrnp9e3aqf6av3hmdib135j.apps.googleusercontent.com"
      clientSecret := none
      defaultApiBase := "https://generativelanguage.googleapis.com/v1beta/openai"
      apiBaseSource := .static
      credentialPath := Path.join (Path.join home ".gemini") credentialFileName
      refreshTimeoutMillis := 30000
      refreshLock := false }

/-! ## Overrides -/

/-- `~` stands for the home directory, alone or before a slash. -/
def expandHome (home raw : String) : String :=
  match raw.toList with
  | ['~'] => home
  | '~' :: '/' :: rest => Path.join home (String.ofList rest)
  | _ => raw

def isSet (flag : String) : Bool :=
  let word := Text.lower flag
  word == "1" || word == "true" || word == "yes" || word == "on"

/-- A variable of the provider, trimmed, unless it is blank. -/
def setting? (p : Provider) (env : Environment) (suffix : String) : Option String :=
  (env (p.variablePrefix ++ "_" ++ suffix)).bind Text.nonBlank?

/-- Where the environment puts the credential file: a directory wins over a file. -/
def credentialPath? (p : Provider) (home : String) (env : Environment) : Option String :=
  match p.setting? env "TOKEN_DIR" with
  | some dir => some (Path.join (expandHome home dir) credentialFileName)
  | none => (p.setting? env "TOKEN_FILE").map (expandHome home)

/-- **The profile with the environment's overrides.** -/
def config (p : Provider) (home : String) (env : Environment) : Config :=
  let base := p.defaults home
  { base with
    credentialPath := (p.credentialPath? home env).getD base.credentialPath
    defaultApiBase := (p.setting? env "API_BASE").getD base.defaultApiBase
    clientId := (p.setting? env "CLIENT_ID").getD base.clientId
    clientSecret := (p.setting? env "CLIENT_SECRET").orElse fun _ => base.clientSecret
    refreshLock := ((p.setting? env "REFRESH_LOCK").map isSet).getD base.refreshLock }

/-- The home directory: the current one if none is set. -/
def homeDirectory (env : Environment) : String :=
  (env "HOME").getD "."

end Provider

namespace Config

/-- **The API base**: the record's usable field, if the provider has one and the record too; else the default. -/
def apiBase (c : Config) (record : Option Record) : String :=
  match c.apiBaseSource with
  | .static => c.defaultApiBase
  | .recordField name => (record.bind fun r => r.stringField name).getD c.defaultApiBase

/-- The request a refresh sends. -/
def refreshRequest (c : Config) (refreshToken : String) : TokenRequest :=
  TokenRequest.refresh c.tokenEndpoint refreshToken c.clientId c.clientSecret

end Config
end TokenCache
