import TokenCache.Exchange
import TokenCache.Http.Url
/-!
# Posting a form over HTTP

A request becomes a posting to a URL, or fails before anything is sent.  A posting leads to a reply, or to a failure
that names the URL.
-/
namespace TokenCache

/-- A form on its way: where it goes and what is sent there. -/
structure Posting where
  url : Url
  body : String

/-- What the other side of a connection does with a posting. -/
inductive Connection
  | refused
  /-- Closed, or silent until the time is up, before anything was answered. -/
  | unanswered
  /-- Answered, the content cut short or not. -/
  | answered (status : Nat) (content : List UInt8) (complete : Bool)

namespace Posting

/-! ## Building -/

/-- The failure of a request that cannot be built, with the URL if there is one. -/
def unbuildable (url : Option Url) : TransportError :=
  ⟨"token request failed: builder error" ++ url.elim "" fun u => s!" for url ({u.toText})"⟩

/-- Whether name and password before a host can be sent in a header instead: the name is text, and if it is empty, so is
a password that is not. -/
def canBeSent (user : UserInfo) : Bool :=
  match Percent.decode? user.name with
  | some name => name != "" || (user.password != "" && (Percent.decode? user.password).isSome)
  | none => false

/-- The URL without name and password, if they are sent in a header. -/
def bare (url : Url) : Url :=
  if canBeSent url.user then { url with user := UserInfo.empty } else url

/-- The greatest number of bytes in the URL of a request. -/
def lengthLimit : Nat := 65534

/-- Whether a form can be posted to a URL: its scheme is that of a web page, its host has no quotation marks and braces,
and it is not too long. -/
def takesForms (url : Url) : Bool :=
  (url.scheme == "http" || url.scheme == "https") &&
    !(url.host.getD "").toList.any (fun c => "\"`\x7b\x7d".toList.contains c) &&
    url.toText.utf8ByteSize ≤ lengthLimit

/-- **The posting for a request**: its endpoint has to be an absolute URL with a host that forms can be posted to. -/
def ofRequest (r : TokenRequest) : Except TransportError Posting :=
  match Url.parse? r.endpoint with
  | none => .error (unbuildable none)
  | some url =>
    if !url.hasHost then .error (unbuildable (some url))
    else if takesForms (bare url) then .ok ⟨bare url, Percent.form r.form⟩
    else .error (unbuildable (some (bare url)))

/-! ## Sending -/

def line (p : Posting) : String :=
  s!"POST {p.url.target} HTTP/1.1"

def unsent (p : Posting) : TransportError :=
  ⟨s!"token request failed: error sending request for url ({p.url.toText})"⟩

def unread : TransportError :=
  ⟨"failed to read token response: error decoding response body"⟩

/-- Statuses that end an exchange.  Any other number of three digits announces that a reply will come, and anything else
is no status. -/
def isFinal (status : Nat) : Bool :=
  status == 101 || (200 ≤ status && status < 1000)

/-- Replies that have no content, whatever is announced. -/
def hasContent (status : Nat) : Bool :=
  status != 101 && status != 204 && status != 304

/-- **What comes of a posting.** -/
def answer (p : Posting) : Connection → Answer
  | .refused | .unanswered => .error p.unsent
  | .answered status content complete =>
    if !isFinal status then .error p.unsent
    else if !hasContent status then .ok ⟨status, ""⟩
    else if complete then .ok ⟨status, Utf8.decodeLossy content⟩
    else .error unread

end Posting
end TokenCache
