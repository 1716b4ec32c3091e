import TokenCache.Proofs.Serving
/-!
# Resolved pairs

An API base and a token for a request come of two looks at the file: the base is read first, and the call for the token
may then replace the record.  So the base is that of the record which was there before, and the token is in the record
which is there afterwards, if its save landed (`resolved_pair`).  Where the reply leaves the field of the base alone,
this makes no difference; where it does not, the next call gives the same token with another base
(`base_before_token`).
-/
namespace TokenCache

/-! ## Fields that a merge leaves -/

namespace Record

/-- **A merge leaves the usable string of a key** that the reply does not have, but for the expiry date. -/
theorem stringField_merge {r : Record} {reply : Members} {stored key : String} (hr : r.refreshToken = some stored)
    (hk : reply.keys.Nodup) (hx : key ≠ expiryKey) (hn : reply.get? key = none) (used : String) (now : Int) :
    (r.merge reply used now).stringField key = r.stringField key := by
  by_cases hkey : key = refreshTokenKey
  · -- a merge may write this key without the reply, but then writes what is there
    have hu : usableIn reply refreshTokenKey = none := by
      unfold usableIn
      rw [← hkey, hn]
      rfl
    have hm := refreshToken_merge hr hk used now
    rw [hu, Option.getD_none, ← hr] at hm
    rw [hkey]
    exact hm
  · show ((r.merge reply used now).get? key).bind usable? = (r.get? key).bind usable?
    rw [get?_merge hkey hx hk, hn, Option.none_or]

end Record

namespace Config

theorem apiBase_reread (c : Config) (r : Record) : c.apiBase (some r.reread) = c.apiBase (some r) := by
  unfold apiBase
  cases c.apiBaseSource with
  | static => rfl
  | recordField name =>
    dsimp only [Option.bind_some]
    rw [Record.stringField_reread]

/-- The reply has no member that the API base is read from, nor is that the expiry date. -/
def LeavesBase (c : Config) (reply : Members) : Prop :=
  ∀ name, c.apiBaseSource = .recordField name → name ≠ Record.expiryKey ∧ reply.get? name = none

theorem apiBase_merge {c : Config} {r : Record} {reply : Members} {stored : String} (h : c.LeavesBase reply)
    (hr : r.refreshToken = some stored) (hk : reply.keys.Nodup) (used : String) (now : Int) :
    c.apiBase (some (r.merge reply used now)) = c.apiBase (some r) := by
  unfold apiBase
  cases hs : c.apiBaseSource with
  | static => rfl
  | recordField name =>
    obtain ⟨hx, hn⟩ := h name hs
    dsimp only [Option.bind_some]
    rw [Record.stringField_merge hr hk hx hn]

end Config

namespace Authenticator

variable {a : Authenticator} {host : Host}

/-! ## One call -/

theorem apiBase_like {α : Type} (f : String → Run α) (host : Host) :
    ((a.apiBase >>= f) host).Like (f (a.config.apiBase (a.store.recordIn host.files)) host) := by
  have hbase : (a.apiBase host).host = host ∧ (a.apiBase host).Silent := by
    unfold apiBase
    cases a.config.apiBaseSource with
    | static => exact ⟨rfl, rfl, rfl, rfl⟩
    | recordField name =>
      exact ⟨Store.load_host a.store host, (Store.load_silent a.store host).bind ⟨rfl, rfl, rfl⟩⟩
  rw [← apiBase_value]
  refine (Outcome.Like.after hbase.2).trans ?_
  rw [hbase.1]
  exact .rfl

/-- **A call without base and token of the caller's** is a call for a token, with the base that the file gives first. -/
theorem resolveEndpoint_apply (around : Surroundings) {apiBase apiKey : Option String} (hb : given? apiBase = none)
    (hk : given? apiKey = none) (host : Host) :
    let call := a.accessToken around host
    let resolved := a.resolveEndpoint around apiBase apiKey host
    resolved.value = call.value.map (ResolvedEndpoint.mk (a.config.apiBase (a.store.recordIn host.files))) ∧
      resolved.host = call.host ∧ resolved.requests = call.requests ∧ resolved.unsaved = call.unsaved := by
  unfold resolveEndpoint
  rw [hb, hk]
  have hl := fun f => apiBase_like (α := Except AuthError ResolvedEndpoint) (a := a) f host
  refine ⟨(hl _).value.trans ?_, (hl _).host.trans ?_, (hl _).requests.trans ?_, (hl _).unsaved.trans ?_⟩
  · rw [Run.bind_value]
    cases (a.accessToken around host).value <;> rfl
  · rw [Run.bind_host]
    cases (a.accessToken around host).value <;> rfl
  · rw [Outcome.requests_bind]
    cases (a.accessToken around host).value <;> exact List.append_nil _
  · rw [Outcome.unsaved_bind]
    cases (a.accessToken around host).value <;> exact List.append_nil _

/-- A call for a token that sends no request hands out the token of the record. -/
theorem accessToken_without_request (answers : TokenRequest → Answer) {r : Record} {token stored : String}
    (hr : a.store.recordIn host.files = some r) (ha : r.accessToken = some token) (ht : r.refreshToken = some stored)
    (hq : (a.accessToken (undisturbed answers) host).requests = []) :
    (a.accessToken (undisturbed answers) host).value = .ok token := by
  cases hv : a.validToken? r host.clock with
  | none =>
    cases hq.symm.trans (accessToken_requests (undisturbed answers).endpoint hr hv ht)
  | some valid =>
    cases ha.symm.trans (validToken?_eq_some.1 hv).2
    exact (accessToken_valid (undisturbed answers) hr hv).1

section
variable {r : Record} {used : String} {grant : Refresh.Grant} {call : Outcome (Except AuthError String)}

/-- **A save that failed leaves the record as stale as it was**: the next call sends the request again. -/
theorem Granted.again (h : Granted a host r used grant call) (answers : TokenRequest → Answer)
    (hv : a.validToken? r host.clock = none) (ht : r.refreshToken = some used) (hn : call.unsaved ≠ []) :
    (a.accessToken (undisturbed answers) call.host).requests = [a.config.refreshRequest used] :=
  accessToken_requests (undisturbed answers).endpoint (h.missed hn) (h.clock ▸ hv) ht

/-- A next call that sends no request hands out the token of the answer, which is in the merge. -/
theorem Granted.without_request (h : Granted a host r used grant call) (answers : TokenRequest → Answer)
    {answer : Answer} (hg : Refresh.grant? answer = .ok grant) (hv : a.validToken? r host.clock = none)
    (ht : r.refreshToken = some used) (hq : (a.accessToken (undisturbed answers) call.host).requests = []) :
    a.store.recordIn call.host.files = some (r.merge grant.members used host.clock).reread ∧
      (a.accessToken (undisturbed answers) call.host).value = .ok grant.accessToken := by
  have hn : call.unsaved = [] := Classical.byContradiction fun hn => by cases hq.symm.trans (h.again answers hv ht hn)
  have hrecord := h.landed hn
  -- the merge has a refresh token too, so a call that sends no request can only hand out what is stored
  exact ⟨hrecord, accessToken_without_request answers hrecord (Refresh.accessToken_reread used hg r host.clock)
    (Refresh.refreshToken_reread used hg ht host.clock) hq⟩

end

theorem granted_of_ok (answers : TokenRequest → Answer) {r : Record} {token used : String}
    (hr : a.store.recordIn host.files = some r) (hv : a.validToken? r host.clock = none)
    (ht : r.refreshToken = some used) (h : (a.accessToken (undisturbed answers) host).value = .ok token) :
    ∃ members, Refresh.grant? (answers (a.config.refreshRequest used)) = .ok ⟨members, token⟩ := by
  obtain ⟨opened, hl⟩ := accessToken_refreshes (undisturbed answers).endpoint hr hv ht
  have hvalue := hl.value.trans (Refresh.run_apply a.config a.store (undisturbed answers).endpoint used opened).1
  cases hg : Refresh.grant? (answers (a.config.refreshRequest used)) with
  | error refusal =>
    cases (hvalue.trans (Refresh.receive_refused a.config a.store used opened hg).1).symm.trans h
  | ok grant =>
    cases (hvalue.trans (Refresh.receive_granted a.config a.store used opened hg).1).symm.trans h
    exact ⟨grant.members, rfl⟩

/-! ## Two calls in a row -/

/-- **A pair that was in the file**: a call that sends no request leaves the host as it is, and the next one gives the
same pair. -/
structure Stored (host : Host) (r : Record) (pair : ResolvedEndpoint)
    (first next : Outcome (Except AuthError ResolvedEndpoint)) : Prop where
  requests : first.requests = []
  host : first.host = host
  token : r.accessToken = some pair.apiKey
  again : next.value = .ok pair

/-- **A pair whose token came with a reply**: if the save landed, the token is in the merge that the file holds
afterwards, and the next call gives it with the base of the merge, if it sends no request.  If the save failed, the file
holds what it held, and the next call sends a request. -/
structure Joined (a : Authenticator) (host : Host) (r : Record) (used : String) (members : Members)
    (pair : ResolvedEndpoint) (first next : Outcome (Except AuthError ResolvedEndpoint)) : Prop where
  requests : first.requests = [a.config.refreshRequest used]
  clock : first.host.clock = host.clock
  landed : first.unsaved = [] →
    a.store.recordIn first.host.files = some (r.merge members used host.clock).reread
  missed : first.unsaved ≠ [] →
    a.store.recordIn first.host.files = some r ∧ next.requests = [a.config.refreshRequest used]
  token : (r.merge members used host.clock).reread.accessToken = some pair.apiKey
  again : next.requests = [] →
    next.value = .ok ⟨a.config.apiBase (some (r.merge members used host.clock)), pair.apiKey⟩
  same : next.requests = [] → a.config.LeavesBase members → next.value = .ok pair

section
variable {apiBase apiKey : Option String} (answers answers' : TokenRequest → Answer) {r : Record}

theorem resolveEndpoint_stored (hb : given? apiBase = none) (hk : given? apiKey = none) {token : String}
    (hr : a.store.recordIn host.files = some r) (hv : a.validToken? r host.clock = some token) :
    let first := a.resolveEndpoint (undisturbed answers) apiBase apiKey host
    let pair : ResolvedEndpoint := ⟨a.config.apiBase (some r), token⟩
    first.value = .ok pair ∧
      Stored host r pair first (a.resolveEndpoint (undisturbed answers') apiBase apiKey first.host) := by
  intro first pair
  have hresolved : ∀ answers : TokenRequest → Answer,
      (a.resolveEndpoint (undisturbed answers) apiBase apiKey host).value = .ok pair := by
    intro answers
    rw [(resolveEndpoint_apply (undisturbed answers) hb hk host).1, hr,
      (accessToken_valid (undisturbed answers) hr hv).1]
    rfl
  obtain ⟨-, hhost, hrequests, -⟩ := resolveEndpoint_apply (a := a) (undisturbed answers) hb hk host
  obtain ⟨-, hh, hs⟩ := accessToken_valid (undisturbed answers) hr hv
  have hfirst : first.host = host := hhost.trans hh
  refine ⟨hresolved answers, hrequests.trans hs.requests, hfirst, (validToken?_eq_some.1 hv).2, ?_⟩
  rw [hfirst]
  exact hresolved answers'

theorem resolveEndpoint_joined (hb : given? apiBase = none) (hk : given? apiKey = none) {used : String}
    {members : Members} {token : String} (hr : a.store.recordIn host.files = some r)
    (hv : a.validToken? r host.clock = none) (ht : r.refreshToken = some used)
    (hg : Refresh.grant? (answers (a.config.refreshRequest used)) = .ok ⟨members, token⟩) :
    let first := a.resolveEndpoint (undisturbed answers) apiBase apiKey host
    let pair : ResolvedEndpoint := ⟨a.config.apiBase (some r), token⟩
    Joined a host r used members pair first
      (a.resolveEndpoint (undisturbed answers') apiBase apiKey first.host) := by
  intro first pair
  obtain ⟨-, hhost, hrequests, hunsaved⟩ := resolveEndpoint_apply (a := a) (undisturbed answers) hb hk host
  have hcall := accessToken_granted answers hr hv ht hg
  generalize a.accessToken (undisturbed answers) host = call at hhost hrequests hunsaved hcall
  have hsame : first.host = call.host := hhost
  have hmissing : first.unsaved = call.unsaved := hunsaved
  obtain ⟨hvalue', -, hrequests', -⟩ := resolveEndpoint_apply (a := a) (undisturbed answers') hb hk call.host
  have hagain : (a.resolveEndpoint (undisturbed answers') apiBase apiKey call.host).requests = [] →
      (a.resolveEndpoint (undisturbed answers') apiBase apiKey call.host).value =
        .ok ⟨a.config.apiBase (some (r.merge members used host.clock)), token⟩ := by
    intro h
    obtain ⟨hrecord, hnext⟩ := hcall.without_request answers' hg hv ht (hrequests'.symm.trans h)
    rw [hvalue', hnext, hrecord, Config.apiBase_reread]
    rfl
  rw [hsame]
  refine ⟨hrequests.trans hcall.requests, ?_, ?_, fun hn => ⟨?_, ?_⟩, Refresh.accessToken_reread used hg r host.clock,
    hagain, fun h hl => ?_⟩
  · rw [hsame]
    exact hcall.clock
  · rw [hmissing, hsame]
    exact hcall.landed
  · rw [hsame]
    exact hcall.missed (hmissing ▸ hn)
  · exact hrequests'.trans (hcall.again answers' hv ht (hmissing ▸ hn))
  · rw [hagain h, Config.apiBase_merge hl ht (Refresh.nodup_of_grant hg)]

end

/-- **The base of a resolved pair is of the record that was there before the call, its token of the one that is there
afterwards**, if the call's save landed.  These are one record if no request was sent; else the next call gives the same
pair too, if the reply leaves the field of the base. -/
theorem resolved_pair (a : Authenticator) (answers answers' : TokenRequest → Answer) (host : Host)
    {apiBase apiKey : Option String} {pair : ResolvedEndpoint} (hb : given? apiBase = none) (hk : given? apiKey = none)
    (hv : (a.resolveEndpoint (undisturbed answers) apiBase apiKey host).value = .ok pair) :
    let first := a.resolveEndpoint (undisturbed answers) apiBase apiKey host
    let next := a.resolveEndpoint (undisturbed answers') apiBase apiKey first.host
    ∃ r, a.store.recordIn host.files = some r ∧ pair.apiBase = a.config.apiBase (some r) ∧
      (Stored host r pair first next ∨ ∃ used reply members, r.refreshToken = some used ∧
        answers (a.config.refreshRequest used) = .ok reply ∧ Refresh.Accepted reply members pair.apiKey ∧
        Joined a host r used members pair first next) := by
  intro first next
  have hvalue := (resolveEndpoint_apply (a := a) (undisturbed answers) hb hk host).1
  cases hcall : (a.accessToken (undisturbed answers) host).value with
  | error e =>
    rw [hcall] at hvalue
    cases hvalue.symm.trans hv
  | ok token =>
    rw [hcall] at hvalue
    cases hvalue.symm.trans hv
    cases hj : a.judge (a.store.recordIn host.files) host.clock with
    | answered result =>
      cases hcall.symm.trans (accessToken_answered (undisturbed answers) hj).1
      obtain ⟨r, hr, hvalid⟩ := judge_eq_ok hj
      rw [hr]
      exact ⟨r, rfl, rfl, .inl (resolveEndpoint_stored answers answers' hb hk hr hvalid).2⟩
    | refresh used =>
      obtain ⟨r, hr, hvalid, ht⟩ := judge_eq_refresh hj
      obtain ⟨members, hg⟩ := granted_of_ok answers hr hvalid ht hcall
      obtain ⟨reply, hreply, haccepted⟩ := Refresh.grant?_eq_ok.1 hg
      rw [hr]
      exact ⟨r, rfl, rfl, .inr ⟨used, reply, members, ht, hreply, haccepted,
        resolveEndpoint_joined answers answers' hb hk hr hvalid ht hg⟩⟩

/-! ## Examples -/

/-- A file with an expired token and a base of its own. -/
def basedFiles : FileSystem :=
  ⟨[(["f"], .file (Record.bytes ⟨[("access_token", .string "a"), ("refresh_token", .string "r"),
    ("resource_url", .string "old"), ("expiry_date", .number (.integer 1000))]⟩) 0o644)], []⟩

/-- A reply without a base leaves the stored one, and both calls give the same pair. -/
theorem base_left_by_reply :
    let host : Host := ⟨basedFiles, 1700000000000⟩
    let answers := fun _ => .ok hourReply
    let first := Overlap.plainAuthenticator.resolveEndpoint (undisturbed answers) none (some " ") host
    let next := Overlap.plainAuthenticator.resolveEndpoint (undisturbed answers) none (some " ") first.host
    first.value = .ok ⟨"old", "t"⟩ ∧ first.unsaved = [] ∧ next.requests = [] ∧ next.value = .ok ⟨"old", "t"⟩ := by
  intro host answers first next
  have hfirst : first.value = .ok ⟨"old", "t"⟩ := by decide +kernel
  have hsaved : first.unsaved = [] := by decide +kernel
  have hnext : next.requests = [] := by decide +kernel
  obtain ⟨r, -, -, hs | ⟨used, reply, members, -, hreply, haccepted, hjoined⟩⟩ :=
    resolved_pair Overlap.plainAuthenticator answers answers host (by decide) (by decide) hfirst
  · exact ⟨hfirst, hsaved, hnext, hs.again⟩
  · refine ⟨hfirst, hsaved, hnext, hjoined.same hnext fun name hname => ?_⟩
    cases hreply
    cases haccepted.object.symm.trans (rfl : _ = Except.ok (Json.object hourMembers))
    cases hname
    exact ⟨by decide, rfl⟩

def movingReply : TokenReply :=
  ⟨200, "\x7b\"access_token\":\"b\",\"expires_in\":3600,\"resource_url\":\"new\"\x7d"⟩

/-- **A reply that moves the base** parts the pair: the token is handed out with the base that was there before, and the
next call has the new one, though nothing was sent in between. -/
theorem base_before_token :
    let host : Host := ⟨basedFiles, 1700000000000⟩
    let answers := fun _ => .ok movingReply
    let first := Overlap.plainAuthenticator.resolveEndpoint (undisturbed answers) none none host
    let next := Overlap.plainAuthenticator.resolveEndpoint (undisturbed answers) none none first.host
    first.value = .ok ⟨"old", "b"⟩ ∧ first.unsaved = [] ∧ first.reports = [] ∧ next.requests = [] ∧
      next.value = .ok ⟨"new", "b"⟩ ∧ next.value ≠ first.value := by
  intro host answers first next
  have hfirst : first.value = .ok ⟨"old", "b"⟩ := by decide +kernel
  have hnext : next.value = .ok ⟨"new", "b"⟩ := by decide +kernel
  refine ⟨hfirst, by decide +kernel, by decide +kernel, by decide +kernel, hnext, ?_⟩
  rw [hfirst, hnext]
  decide

end Authenticator
end TokenCache
