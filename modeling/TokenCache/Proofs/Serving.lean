import TokenCache.Proofs.Expiry
import TokenCache.Proofs.Forecast
import TokenCache.Proofs.Landing
import TokenCache.Proofs.Overlap
/-!
# Tokens served from the file

A reply that gives a token for a number of seconds leaves a record from which calls are served without a request, up to
the margin before the token's end and no longer (`served_until_margin`).  What a later call finds is the merge of the
reply over the record, if that was saved (`recordIn_granted`), and at each instant the merge holds a valid token or
holds none (`validToken?_merge`).  If the save failed, it finds the record that was there (`accessToken_granted`).
-/
namespace TokenCache

open Binary64 (twoTo fits64 signed)

/-! ## Replies with a lifetime -/

namespace Refresh

/-- **An answer that grants a token for a number of seconds**: a reply of use, free of doubles, that states this
lifetime and no expiry date. -/
structure Timed (answer : Answer) (members : Members) (token : String) (n : Int) : Prop where
  accepted : ∃ reply, answer = .ok reply ∧ Accepted reply members token
  whole : Json.Whole (.object members)
  undated : members.hasKey Record.expiryKey = false
  lifetime : ∃ v, members.get? Record.lifetimeKey = some v ∧ Record.Lifetime v n
  least : 0 ≤ n
  most : n ≤ 9000000000000

namespace Timed

variable {answer : Answer} {members : Members} {token : String} {n : Int}

theorem grant? (h : Timed answer members token n) : Refresh.grant? answer = .ok ⟨members, token⟩ :=
  grant?_eq_ok.2 h.accepted

theorem storable (h : Timed answer members token n) : Record.Storable members :=
  have ⟨_, _, ha⟩ := h.accepted
  Record.storable_of_parse ha.object h.whole

theorem usable (h : Timed answer members token n) : Record.usableIn members Record.accessTokenKey = some token := by
  obtain ⟨_, -, ha⟩ := h.accepted
  unfold Record.usableIn
  rw [ha.member, Option.bind_some]
  unfold Record.usable?
  dsimp only
  rw [ha.usable, if_neg Bool.false_ne_true]

/-- **The token ends its lifetime after the reply.** -/
theorem impliedExpiry (h : Timed answer members token n) {now : Int} (hd : Calendar.representable now = true) :
    Record.impliedExpiry members now = some (now + 1000 * n) := by
  obtain ⟨v, hv, hl⟩ := h.lifetime
  have hleast := h.least
  have hmost := h.most
  have hnow := Calendar.natAbs_lt_of_representable hd
  have hm : 1000 * n.natAbs < twoTo 53 := Nat.lt_of_lt_of_le (m := 9007199254740992) (by omega) (by decide)
  obtain ⟨negative, hq, hs⟩ := Record.quantity?_lifetime hl (Nat.lt_of_le_of_lt (by omega) hm)
  have hlength := Record.signed_mul_thousand hs
  have hfit : fits64 (now + signed negative (1000 * n.natAbs : Nat)) = true := by
    rw [hlength]
    exact Binary64.fits64_iff.2 ⟨by omega, by omega⟩
  unfold Record.impliedExpiry
  rw [h.undated, if_neg Bool.false_ne_true, hv, Option.bind_some, hq, Option.bind_some,
    Record.expiryAfter_whole negative hm hfit, hlength]

end Timed

section
variable (c : Config) {s : Store} (used : String) {answer : Answer} (host : Host) {old : Record} {grant : Grant}

theorem proper_of_grant (hg : grant? answer = .ok grant) : Record.Proper ⟨grant.members⟩ := by
  obtain ⟨reply, -, ha⟩ := grant?_eq_ok.1 hg
  exact Json.parse_proper ha.object

theorem nodup_of_grant (hg : grant? answer = .ok grant) : grant.members.keys.Nodup :=
  (Record.proper_iff.1 (proper_of_grant hg)).1

/-- **After a granted answer the file holds the merge** over the record that it held before, if the save landed. -/
theorem readFile_granted (hold : s.recordIn host.files = some old) (hg : grant? answer = .ok grant)
    (hl : (receive c s used answer host).unsaved = []) :
    (receive c s used answer host).host.files.readFile s.path =
      .ok (old.merge grant.members used host.clock).bytes := by
  have hm : merged s grant used host = old.merge grant.members used host.clock := by
    unfold merged
    rw [hold]
    rfl
  obtain ⟨-, hsaved, -, -, hunsaved⟩ := receive_granted c s used host hg
  rw [hm] at hsaved hunsaved
  have hs := (Store.save_outcome s (old.merge grant.members used host.clock) host).1
  obtain ⟨-, made, p, hgrow, hrep⟩ := hs.landed (hs.unsaved_eq_nil.1 (hunsaved.symm.trans hl))
  rw [hsaved]
  exact Store.readFile_replaced hold hgrow hrep

theorem recordIn_reread (hold : s.recordIn host.files = some old) (hg : grant? answer = .ok grant)
    (hl : (receive c s used answer host).unsaved = []) :
    s.recordIn (receive c s used answer host).host.files =
      some (old.merge grant.members used host.clock).reread := by
  obtain ⟨content, -, hp⟩ := Store.recordIn_eq_some.1 hold
  have hproper := (Record.proper_of_parse hp).merge (proper_of_grant hg) used host.clock
  exact Store.recordIn_eq_some.2 ⟨_, readFile_granted c used host hold hg hl, Record.parse_bytes_reread hproper⟩

theorem recordIn_granted (hold : s.recordIn host.files = some old) (hs : Record.Storable old.members)
    (hg : grant? answer = .ok grant) (hgs : Record.Storable grant.members)
    (hl : (receive c s used answer host).unsaved = []) :
    s.recordIn (receive c s used answer host).host.files = some (old.merge grant.members used host.clock) := by
  rw [recordIn_reread c used host hold hg hl, Record.reread_of_storable (hs.merge hgs used host.clock)]

/-- **The merge has the token of the answer**, also when it is read again. -/
theorem accessToken_reread (hg : grant? answer = .ok grant) (r : Record) (now : Int) :
    (r.merge grant.members used now).reread.accessToken = some grant.accessToken := by
  obtain ⟨reply, -, ha⟩ := grant?_eq_ok.1 hg
  have hu : Record.usableIn grant.members Record.accessTokenKey = some grant.accessToken :=
    Record.usableIn_eq_some.2 ⟨ha.member, ha.usable⟩
  exact (Record.stringField_reread _ _).trans (Record.accessToken_merge hu (nodup_of_grant hg) r used now)

theorem refreshToken_reread (hg : grant? answer = .ok grant) {r : Record} {stored : String}
    (ht : r.refreshToken = some stored) (now : Int) :
    (r.merge grant.members used now).reread.refreshToken =
      some ((Record.usableIn grant.members Record.refreshTokenKey).getD stored) :=
  (Record.stringField_reread _ _).trans (Record.refreshToken_merge ht (nodup_of_grant hg) used now)

end

end Refresh

/-! ## Serving from the file -/

namespace Authenticator

variable {a : Authenticator} {host : Host} {r : Record} {stored : String} {answer : Answer} {members : Members}
  {token : String} {n : Int}

/-- **The merge of a reply holds a valid token** exactly until the margin before the token's end. -/
theorem validToken?_merge (h : Refresh.Timed answer members token n) {now later : Int} (hlow : 10000000000 < now)
    (hd : Calendar.representable now = true) (hl : Calendar.representable (later + a.policy.margin) = true) (r : Record)
    (used : String) :
    a.validToken? (r.merge members used now) later =
      if later + a.policy.margin ≤ now + 1000 * n then some token else none := by
  have hleast := h.least
  have hmost := h.most
  have hnow := Calendar.natAbs_lt_of_representable hd
  have hhigh : now + 1000 * n ≤ (twoTo 1000 : Nat) := by
    have hb : 3 * 8796093022208000 ≤ twoTo 1000 := Nat.le_trans (by decide) (Binary64.twoTo_le (m := 55) (by decide))
    generalize twoTo 1000 = limit at hb ⊢
    omega
  have he := a.policy.expired_iff (e := now + 1000 * n) (by omega) hhigh hl
  unfold validToken?
  rw [Record.expiryDate_merge (h.impliedExpiry hd),
    Record.accessToken_merge h.usable (Record.storable_iff.1 h.storable).1]
  by_cases hle : later + a.policy.margin ≤ now + 1000 * n
  · rw [if_pos hle, if_neg fun hx => Int.not_le.2 (he.1 hx) hle]
  · rw [if_neg hle, if_pos (he.2 (Int.not_le.1 hle))]

/-- **A record that has to be refreshed**: it has a refresh token, and no access token or an expired one. -/
structure Stale (a : Authenticator) (fs : FileSystem) (now : Instant) (r : Record) (stored : String) : Prop where
  record : a.store.recordIn fs = some r
  whole : Json.Whole (.object r.members)
  stored : r.refreshToken = some stored
  stale : r.accessToken = none ∨ a.policy.expired r.expiryDate now = true

namespace Stale

variable {fs : FileSystem} {now : Instant}

theorem storable (h : Stale a fs now r stored) : Record.Storable r.members := by
  obtain ⟨content, -, hp⟩ := Store.recordIn_eq_some.1 h.record
  exact Record.storable_of_parse (Record.parse_eq_ok.1 hp) h.whole

theorem validToken? (h : Stale a fs now r stored) : a.validToken? r now = none :=
  validToken?_eq_none.2 h.stale

end Stale

/-- Nothing happens to the host but what the call does. -/
def undisturbed (answer : TokenRequest → Answer) : Surroundings :=
  ⟨fun request host => (answer request, host), id⟩

/-- **A call that ends with a granted answer**: it hands out the token, and the file holds the merge of the reply over
the record that was there, if the save landed, and else that record still. -/
structure Granted (a : Authenticator) (host : Host) (r : Record) (used : String) (grant : Refresh.Grant)
    (call : Outcome (Except AuthError String)) : Prop where
  value : call.value = .ok grant.accessToken
  requests : call.requests = [a.config.refreshRequest used]
  clock : call.host.clock = host.clock
  landed : call.unsaved = [] → a.store.recordIn call.host.files = some (r.merge grant.members used host.clock).reread
  missed : call.unsaved ≠ [] → a.store.recordIn call.host.files = some r

/-- **Where nothing else happens, a stale record and a granted answer lead to such a call.** -/
theorem accessToken_granted (answers : TokenRequest → Answer) {grant : Refresh.Grant}
    (hr : a.store.recordIn host.files = some r) (hv : a.validToken? r host.clock = none)
    (ht : r.refreshToken = some stored) (hg : Refresh.grant? (answers (a.config.refreshRequest stored)) = .ok grant) :
    Granted a host r stored grant (a.accessToken (undisturbed answers) host) := by
  -- with the lock the refresh starts from another host, which differs by the lock file only
  obtain ⟨opened, ho, hc, hl⟩ := accessToken_refreshes_in (undisturbed answers).endpoint hr hv ht
  obtain ⟨hvalue, hhost, hq, -, hunsaved⟩ :=
    Refresh.run_apply a.config a.store (undisturbed answers).endpoint stored opened
  obtain ⟨htoken, hsaved, -, -, -⟩ := Refresh.receive_granted a.config a.store stored opened hg
  have hafter : (a.accessToken (undisturbed answers) host).host =
      (Refresh.receive a.config a.store stored (answers (a.config.refreshRequest stored)) opened).host :=
    hl.host.trans hhost
  have hmissing : (a.accessToken (undisturbed answers) host).unsaved =
      (Refresh.receive a.config a.store stored (answers (a.config.refreshRequest stored)) opened).unsaved :=
    hl.unsaved.trans hunsaved
  refine ⟨hl.value.trans (hvalue.trans htoken), hl.requests.trans hq, ?_, fun hn => ?_, fun hn => ?_⟩
  · rw [hafter, ← hc]
    exact (congrArg Host.clock hsaved).trans (Store.save_outcome a.store _ opened).2
  · rw [hafter, ← hc]
    exact Refresh.recordIn_reread a.config stored opened ho hg (hmissing.symm.trans hn)
  · rw [hafter]
    exact Store.recordIn_grows (Refresh.receive_unsaved (hmissing ▸ hn)) ho

theorem recordIn_of_timed (answers : TokenRequest → Answer) (h : Stale a host.files host.clock r stored)
    (ht : Refresh.Timed (answers (a.config.refreshRequest stored)) members token n)
    (hl : (a.accessToken (undisturbed answers) host).unsaved = []) :
    a.store.recordIn (a.accessToken (undisturbed answers) host).host.files =
      some (r.merge members stored host.clock) := by
  rw [(accessToken_granted answers h.record h.validToken? h.stored ht.grant?).landed hl,
    Record.reread_of_storable (h.storable.merge ht.storable stored host.clock)]

structure Served (a : Authenticator) (host : Host) (token used : String) (last : Instant)
    (next : Outcome (Except AuthError String)) : Prop where
  before : host.clock + a.policy.margin ≤ last → next.value = .ok token ∧ next.requests = [] ∧ next.host = host
  after : last < host.clock + a.policy.margin → next.requests = [a.config.refreshRequest used] ∧
    (a.config.refreshRequest used).field? "refresh_token" = some used

theorem served_of_merge (answers : TokenRequest → Answer) (ht : Refresh.Timed answer members token n) {now : Int}
    (hlow : 10000000000 < now) (hd : Calendar.representable now = true)
    (hl : Calendar.representable (host.clock + a.policy.margin) = true) (hs : r.refreshToken = some stored)
    (hr : a.store.recordIn host.files = some (r.merge members stored now)) :
    Served a host token ((Record.usableIn members Record.refreshTokenKey).getD stored) (now + 1000 * n)
      (a.accessToken (undisturbed answers) host) := by
  have hvalid := validToken?_merge (a := a) ht hlow hd hl r stored
  refine ⟨fun hle => ?_, fun hlt => ⟨?_, rfl⟩⟩
  · rw [if_pos hle] at hvalid
    obtain ⟨hv, hh, hq⟩ := accessToken_valid (undisturbed answers) hr hvalid
    exact ⟨hv, hq.requests, hh⟩
  · rw [if_neg (Int.not_le.2 hlt)] at hvalid
    have hrefresh := Record.refreshToken_merge hs (Record.storable_iff.1 ht.storable).1 stored now
    exact accessToken_requests _ hr hvalid hrefresh

def hourReply : TokenReply :=
  ⟨200, "\x7b\"access_token\":\"t\",\"expires_in\":3600,\"refresh_token\":\"r1\"\x7d"⟩

def hourMembers : Members :=
  [("access_token", .string "t"), ("expires_in", .number (.integer 3600)), ("refresh_token", .string "r1")]

theorem hourReply_timed : Refresh.Timed (.ok hourReply) hourMembers "t" 3600 := by
  refine ⟨⟨hourReply, rfl, by decide, rfl, rfl, by decide⟩, .object fun m hm => ?_, by decide, ⟨_, rfl, .number 3600⟩,
    by decide, by decide⟩
  simp only [hourMembers, List.mem_cons, List.not_mem_nil, or_false] at hm
  rcases hm with rfl | rfl | rfl
  · exact .string "t"
  · exact .integer 3600
  · exact .string "r1"

end Authenticator
end TokenCache
