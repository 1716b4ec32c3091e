import TokenCache.Binary64.Arithmetic
import TokenCache.Binary64.Decimal
import TokenCache.Json.Reader
import TokenCache.Json.Writer
import TokenCache.Text.Blank
/-!
# Credential records

A record is a JSON object with a few known keys.  The file that holds it belongs to a login tool, so members with other
keys are kept, in their order, when a reply of the token endpoint is merged into it.
-/
namespace TokenCache

structure Record where
  members : Members

namespace Record

/-! ## Keys -/

def accessTokenKey : String := "access_token"

def refreshTokenKey : String := "refresh_token"

def expiryKey : String := "expiry_date"

def lifetimeKey : String := "expires_in"

/-! ## Values -/

/-- A string that is not blank, as it stands. -/
def usable? : Json → Option String
  | .string s => if Text.blank s then none else some s
  | _ => none

/-- A number, or a string that reads as one when trimmed. -/
def quantity? : Json → Option Binary64
  | .number n => some n.toBinary64
  | .string s => Binary64.ofText? (Text.trim s)
  | _ => none

/-- The usable string of a key. -/
def usableIn (members : Members) (key : String) : Option String :=
  (members.get? key).bind usable?

theorem usable?_eq_some {v : Json} {t : String} :
    usable? v = some t ↔ v = .string t ∧ Text.blank t = false := by
  unfold usable?
  split
  · rename_i s
    cases hs : Text.blank s
    · simp only [Bool.false_eq_true, if_false, Option.some.injEq, Json.string.injEq]
      exact ⟨fun h => ⟨h, h ▸ hs⟩, fun h => h.1⟩
    · simp only [if_true, Json.string.injEq]
      exact ⟨nofun, fun h => absurd (h.1 ▸ hs) (by rw [h.2]; simp)⟩
  · rename_i hv
    exact ⟨nofun, fun h => absurd h.1 (hv t)⟩

theorem usableIn_eq_some {members : Members} {key t : String} :
    usableIn members key = some t ↔ members.get? key = some (.string t) ∧ Text.blank t = false := by
  unfold usableIn
  rw [Option.bind_eq_some_iff]
  constructor
  · rintro ⟨v, hv, ht⟩
    obtain ⟨rfl, hb⟩ := usable?_eq_some.1 ht
    exact ⟨hv, hb⟩
  · rintro ⟨hv, hb⟩
    exact ⟨_, hv, usable?_eq_some.2 ⟨rfl, hb⟩⟩

theorem usableIn_eq_none {members : Members} {key : String} :
    usableIn members key = none ↔ ∀ s, members.get? key = some (.string s) → Text.blank s = true := by
  rw [Option.eq_none_iff_forall_ne_some]
  constructor
  · intro h s hs
    cases hb : Text.blank s with
    | false => exact absurd (usableIn_eq_some.2 ⟨hs, hb⟩) (h s)
    | true => rfl
  · intro h t ht
    obtain ⟨hs, hb⟩ := usableIn_eq_some.1 ht
    rw [h t hs] at hb
    cases hb

/-! ## Reading and writing -/

inductive ParseError
  | malformed (e : Json.SyntaxError)
  | notObject
  deriving DecidableEq

def ParseError.message : ParseError → String
  | .malformed e => "credential data is not valid JSON: " ++ e.message
  | .notObject => "credential data is not a JSON object"

def parse (bytes : List UInt8) : Except ParseError Record :=
  match Json.parse bytes with
  | .error e => .error (.malformed e)
  | .ok (.object members) => .ok ⟨members⟩
  | .ok _ => .error .notObject

/-- The record as a file holds it. -/
def bytes (r : Record) : List UInt8 :=
  Json.pretty (.object r.members)

/-! ## Fields -/

def empty : Record := ⟨[]⟩

def get? (r : Record) (key : String) : Option Json :=
  r.members.get? key

def insert (r : Record) (key : String) (value : Json) : Record :=
  ⟨r.members.insert key value⟩

theorem get?_insert (r : Record) (key : String) (value : Json) (k : String) :
    (r.insert key value).get? k = if key == k then some value else r.get? k :=
  Members.get?_insert key value k r.members

def stringField (r : Record) (key : String) : Option String :=
  usableIn r.members key

def accessToken (r : Record) : Option String :=
  r.stringField accessTokenKey

def refreshToken (r : Record) : Option String :=
  r.stringField refreshTokenKey

def expiryDate (r : Record) : Option Binary64 :=
  (r.get? expiryKey).bind quantity?

/-- Whether two records have the same members in any order. -/
def same (r s : Record) : Bool :=
  (Json.object r.members).same (.object s.members)

/-! ## Merging a reply -/

/-- **The instant a lifetime in seconds after `now`**, in milliseconds, if 64 bits hold both the lifetime and the
instant. -/
def expiryAfter (now : Int) (lifetime : Binary64) : Option Int :=
  match (lifetime.mul Binary64.thousand).round with
  | .finite negative u =>
    let length := Binary64.signed negative (u / Binary64.one)
    let instant := now + length
    if Binary64.fits64 length && length != -Binary64.int64Limit && Binary64.fits64 instant then some instant else none
  | _ => none

/-- Whether a member of a reply is taken over: a refresh token only if it is usable. -/
def accepts (key : String) (value : Json) : Bool :=
  key != refreshTokenKey || (usable? value).isSome

/-- Writes the members of a reply over those of the record. -/
def overwrite (r : Record) (reply : Members) : Record :=
  reply.foldl (fun r m => if accepts m.1 m.2 then r.insert m.1 m.2 else r) r

/-- Sees to it that there is a usable refresh token. -/
def retain (r : Record) (used : String) : Record :=
  if r.refreshToken.isSome then r else r.insert refreshTokenKey (.string used)

/-- The expiry that a reply implies by its lifetime alone. -/
def impliedExpiry (reply : Members) (now : Int) : Option Int :=
  if reply.hasKey expiryKey then none
  else ((reply.get? lifetimeKey).bind quantity?).bind (expiryAfter now)

/-- **Merges a reply into the record.**  A reply without a usable refresh token leaves the stored one, or else the one
that was used; a reply with a lifetime and no expiry date gets one. -/
def merge (r : Record) (reply : Members) (used : String) (now : Int) : Record :=
  let merged := (r.overwrite reply).retain used
  match impliedExpiry reply now with
  | some instant => merged.insert expiryKey (.number (.integer instant))
  | none => merged

end Record
end TokenCache
