import TokenCache.Sha256
import TokenCache.Text.Blank
import TokenCache.Text.Hex
import TokenCache.Text.Utf8
/-!
# Requests to a token endpoint and its replies

A refresh is one form posted to the endpoint.  Where a request is shown, secrets are replaced by fingerprints.
-/
namespace TokenCache

/-! ## Fingerprints -/

namespace Fingerprint

/-- The first `n` hexadecimal digits of a text's digest. -/
def digits (n : Nat) (s : String) : String :=
  String.ofList ((Hex.ofBytes (Sha256.hash (Utf8.encode s))).toList.take n)

/-- The fingerprint of a text as it stands. -/
def ofText (s : String) : String :=
  digits 16 s

/-- **The fingerprint of a token**: blanks around it do not count. -/
def ofToken (token : String) : String :=
  ofText (Text.trim token)

end Fingerprint

/-! ## Requests -/

abbrev Form := List (String × String)

structure TokenRequest where
  endpoint : String
  form : Form
  deriving DecidableEq

namespace TokenRequest

/-- **The request for a new access token.** -/
def refresh (endpoint refreshToken clientId : String) (clientSecret : Option String) : TokenRequest :=
  ⟨endpoint,
    [("grant_type", "refresh_token"), ("refresh_token", refreshToken), ("client_id", clientId)] ++
      (clientSecret.map fun secret => ("client_secret", secret)).toList⟩

/-- The first value of a field. -/
def field? (r : TokenRequest) (name : String) : Option String :=
  (r.form.find? fun f => f.1 == name).map Prod.snd

def contentType : String := "application/x-www-form-urlencoded"

def acceptedType : String := "application/json"

def isSecret (name : String) : Bool :=
  name == "refresh_token" || name == "client_secret"

/-- A field as it is shown. -/
def shown (f : String × String) : String :=
  if isSecret f.1 then f.1 ++ "=<sha256:" ++ Fingerprint.ofText f.2 ++ ">" else f.1 ++ "=" ++ f.2

/-- **The request as it is shown**: a secret appears as its fingerprint. -/
def redacted (r : TokenRequest) : String :=
  s!"POST {r.endpoint}\nContent-Type: {contentType}\nAccept: {acceptedType}\n\n" ++
    String.intercalate "&" (r.form.map shown)

end TokenRequest

/-! ## Replies -/

structure TokenReply where
  status : Nat
  body : String
  deriving DecidableEq

namespace TokenReply

def isSuccess (r : TokenReply) : Bool :=
  200 ≤ r.status && r.status < 300

def shown (r : TokenReply) : String :=
  s!"HTTP {r.status}\n\n{r.body}"

end TokenReply

/-- The call did not lead to a reply. -/
structure TransportError where
  message : String
  deriving DecidableEq

/-- What came of a request. -/
abbrev Answer := Except TransportError TokenReply

/-- A request and its reply, kept to explain a rejection. -/
structure RawExchange where
  request : String
  response : String
  deriving DecidableEq

end TokenCache
