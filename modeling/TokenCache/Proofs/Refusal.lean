import TokenCache.Proofs.Calls
/-!
# Calls that fail

An answer of use is a success, its body an object, and its access token not blank (`Accepted`).  An answer of no use is
so for one of five reasons, each with its own status, and only a rejection is shown with its exchange (`Unusable`).  A
refresh fails for these reasons and for no other (`refresh_failure`), and a call that fails has written nothing: what is
in its files afterwards was there before, was put there by others, or was made when the lock was opened
(`accessToken_failed`).
-/
namespace TokenCache

open FileSystem (Grows)

/-! ## Answers of use and of none -/

namespace Refresh

/-- **The answers to a request that are of no use**, with the status and the exchange of the failure. -/
inductive Unusable (request : TokenRequest) : Answer → Nat → Option RawExchange → Prop
  | unreachable (e : TransportError) : Unusable request (.error e) 500 none
  | rejected {reply : TokenReply} (h : ¬(200 ≤ reply.status ∧ reply.status ≤ 299)) :
    Unusable request (.ok reply) reply.status (some ⟨request.redacted, reply.shown⟩)
  | malformed {reply : TokenReply} (h : 200 ≤ reply.status ∧ reply.status ≤ 299) {e : Json.SyntaxError}
    (hp : Json.parse (Utf8.encode reply.body) = .error e) : Unusable request (.ok reply) 500 none
  | notObject {reply : TokenReply} (h : 200 ≤ reply.status ∧ reply.status ≤ 299) {v : Json}
    (hp : Json.parse (Utf8.encode reply.body) = .ok v) (hv : ∀ members, v ≠ .object members) :
    Unusable request (.ok reply) 500 none
  | noToken {reply : TokenReply} (h : 200 ≤ reply.status ∧ reply.status ≤ 299) {members : Members}
    (hp : Json.parse (Utf8.encode reply.body) = .ok (.object members))
    (ht : ∀ s, members.get? Record.accessTokenKey = some (.string s) → Text.blank s = true) :
    Unusable request (.ok reply) 401 none

/-- **The replies that are of use**, with their members and the access token among them. -/
structure Accepted (reply : TokenReply) (members : Members) (token : String) : Prop where
  success : 200 ≤ reply.status ∧ reply.status ≤ 299
  object : Json.parse (Utf8.encode reply.body) = .ok (.object members)
  member : members.get? Record.accessTokenKey = some (.string token)
  usable : Text.blank token = false

theorem isSuccess_iff {reply : TokenReply} : reply.isSuccess = true ↔ 200 ≤ reply.status ∧ reply.status ≤ 299 := by
  unfold TokenReply.isSuccess
  simp only [Bool.and_eq_true, decide_eq_true_eq]
  omega

/-- What an answer grants, read off its status and body. -/
theorem grant?_ok {reply : TokenReply} (h : reply.isSuccess = true) : grant? (.ok reply) =
    match Json.parse (Utf8.encode reply.body) with
    | .error e => .error (.malformed e)
    | .ok (.object members) =>
      match Record.usableIn members Record.accessTokenKey with
      | some token => .ok ⟨members, token⟩
      | none => .error .noToken
    | .ok _ => .error .notObject := by
  unfold grant?
  exact if_pos h

theorem grant?_rejected {reply : TokenReply} (h : ¬reply.isSuccess = true) :
    grant? (.ok reply) = .error (.rejected reply) := by
  unfold grant?
  exact if_neg h

/-- **An answer grants a token exactly if it is a reply of use.** -/
theorem grant?_eq_ok {answer : Answer} {grant : Grant} : grant? answer = .ok grant ↔
    ∃ reply : TokenReply, answer = .ok reply ∧ Accepted reply grant.members grant.accessToken := by
  constructor
  · intro h
    cases answer with
    | error e => cases h
    | ok reply =>
      by_cases hs : reply.isSuccess = true
      · rw [grant?_ok hs] at h
        split at h
        · cases h
        · rename_i members hp
          split at h
          · rename_i token ht
            cases h
            obtain ⟨hg, hb⟩ := Record.usableIn_eq_some.1 ht
            exact ⟨reply, rfl, isSuccess_iff.1 hs, hp, hg, hb⟩
          · cases h
        · cases h
      · rw [grant?_rejected hs] at h
        cases h
  · rintro ⟨reply, rfl, ha⟩
    rw [grant?_ok (isSuccess_iff.2 ha.success), ha.object]
    dsimp only
    rw [Record.usableIn_eq_some.2 ⟨ha.member, ha.usable⟩]

/-- **An answer is refused exactly if it is unusable**, with the status and the exchange that go with the reason. -/
theorem grant?_eq_error {request : TokenRequest} {answer : Answer} {refusal : Refusal}
    (h : grant? answer = .error refusal) : Unusable request answer refusal.status (refusal.exchange request) := by
  cases answer with
  | error e =>
    cases h
    exact .unreachable e
  | ok reply =>
    by_cases hs : reply.isSuccess = true
    · have hs' := isSuccess_iff.1 hs
      rw [grant?_ok hs] at h
      split at h
      · rename_i e hp
        cases h
        exact .malformed hs' hp
      · rename_i members hp
        split at h
        · cases h
        · rename_i ht
          cases h
          exact .noToken hs' hp (Record.usableIn_eq_none.1 ht)
      · rename_i v hv hp
        cases h
        exact .notObject hs' hp hv
    · rw [grant?_rejected hs] at h
      cases h
      exact .rejected fun h => hs (isSuccess_iff.2 h)

theorem Unusable.refused {request : TokenRequest} {answer : Answer} {status : Nat} {exchange : Option RawExchange}
    (h : Unusable request answer status exchange) :
    ∃ refusal, grant? answer = .error refusal ∧ refusal.status = status ∧ refusal.exchange request = exchange := by
  cases h with
  | unreachable e => exact ⟨.unreachable e, rfl, rfl, rfl⟩
  | @rejected reply hs => exact ⟨.rejected reply, grant?_rejected fun h => hs (isSuccess_iff.1 h), rfl, rfl⟩
  | @malformed reply hs e hp => exact ⟨.malformed e, by rw [grant?_ok (isSuccess_iff.2 hs), hp], rfl, rfl⟩
  | @notObject reply hs v hp hv =>
    refine ⟨.notObject, ?_, rfl, rfl⟩
    rw [grant?_ok (isSuccess_iff.2 hs), hp]
    cases v with
    | object members => exact absurd rfl (hv members)
    | _ => rfl
  | @noToken reply hs members hp ht =>
    refine ⟨.noToken, ?_, rfl, rfl⟩
    rw [grant?_ok (isSuccess_iff.2 hs), hp]
    dsimp only
    rw [Record.usableIn_eq_none.2 ht]

/-! ## A refresh that fails -/

variable {c : Config} {endpoint : Endpoint} {used : String} {host : Host}

theorem run_refused (store : Store) {refusal : Refusal}
    (h : grant? (endpoint (c.refreshRequest used) host).1 = .error refusal) :
    (run c store endpoint used host).value = .error (refusal.toAuthError c.displayName (c.refreshRequest used)) ∧
      (run c store endpoint used host).host = (endpoint (c.refreshRequest used) host).2 ∧
      (run c store endpoint used host).reports = [] := by
  obtain ⟨hv, hh, -, hr, -⟩ := run_apply c store endpoint used host
  obtain ⟨hv', hh', hq⟩ := receive_refused c store used (endpoint (c.refreshRequest used) host).2 h
  exact ⟨hv.trans hv', hh.trans hh', hr.trans hq.reports⟩

/-- **What a refresh that may fail comes to**: it fails exactly on an unusable answer, and has then changed nothing. -/
structure Failure (request : TokenRequest) (asked : Answer × Host) (o : Outcome (Except AuthError String)) : Prop where
  unusable : ∀ e, o.value = .error e → ∃ status exchange, Unusable request asked.1 status exchange
  refused : ∀ status exchange, Unusable request asked.1 status exchange →
    ∃ message, o.value = .error (.refreshFailed status message exchange)
  host : ∀ e, o.value = .error e → o.host = asked.2
  reports : ∀ e, o.value = .error e → o.reports = []

theorem refresh_failure (c : Config) (store : Store) (endpoint : Endpoint) (used : String) (host : Host) :
    Failure (c.refreshRequest used) (endpoint (c.refreshRequest used) host) (run c store endpoint used host) := by
  cases h : grant? (endpoint (c.refreshRequest used) host).1 with
  | error refusal =>
    obtain ⟨hv, hh, hr⟩ := run_refused store h
    refine ⟨fun _ _ => ⟨_, _, grant?_eq_error h⟩, fun status exchange hu => ?_, fun _ _ => hh, fun _ _ => hr⟩
    obtain ⟨refusal', h', rfl, rfl⟩ := hu.refused
    cases h.symm.trans h'
    exact ⟨_, hv⟩
  | ok grant =>
    have hv : (run c store endpoint used host).value = .ok grant.accessToken :=
      (run_apply c store endpoint used host).1.trans (receive_granted _ _ _ _ h).1
    generalize run c store endpoint used host = o at hv
    have hn : ∀ e, o.value ≠ .error e := by simp [hv]
    refine ⟨fun e he => absurd he (hn e), fun status exchange hu => ?_, fun e he => absurd he (hn e),
      fun e he => absurd he (hn e)⟩
    obtain ⟨refusal, h', -⟩ := hu.refused
    rw [h] at h'
    cases h'

end Refresh

/-! ## A call that fails -/

namespace Authenticator

/-- **What a call without a refresh makes of the host**: nothing, or what opening the lock adds. -/
inductive Opened (a : Authenticator) (host : Host) : Host → Prop
  | not : Opened a host host
  | lock {lock : RefreshLock} {after : Host} (hl : a.lock? = some lock) (hc : after.clock = host.clock)
    (hg : Grows (LockEntry lock after.files) host.files after.files) : Opened a host after

/-- **What others make of a host**, while a call waits for the lock and while it waits for an answer. -/
inductive ByOthers (around : Surroundings) (host : Host) : Host → Prop
  | none : ByOthers around host host
  | waiting : ByOthers around host (around.whileWaiting host)
  | asking (request : TokenRequest) : ByOthers around host (around.endpoint request host).2
  | both (request : TokenRequest) : ByOthers around host (around.endpoint request (around.whileWaiting host)).2

variable {a : Authenticator} {around : Surroundings} {host : Host}

theorem opened_entered (around : Surroundings) (host : Host) {lock : RefreshLock} (hl : a.lock? = some lock) :
    ∃ own, Opened a host own ∧ (lock.entered around.whileWaiting host = own ∨
      lock.entered around.whileWaiting host = around.whileWaiting own) := by
  have ha := RefreshLock.openFile_adds lock host
  refine ⟨(lock.openFile host).host, .lock hl ha.clock ha.grows, ?_⟩
  unfold RefreshLock.entered
  cases (lock.openFile host).value with
  | ok u => exact .inr rfl
  | error e => exact .inl rfl

theorem refresh_failed {used : String} {e : AuthError} (h : (a.refresh around.endpoint used host).value = .error e) :
    (a.refresh around.endpoint used host).host = (around.endpoint (a.config.refreshRequest used) host).2 ∧
      (a.refresh around.endpoint used host).reports = [] :=
  have hf := Refresh.refresh_failure a.config a.store around.endpoint used host
  ⟨hf.host e h, hf.reports e h⟩

theorem refreshUnderLock_failed {token : String} {e : AuthError}
    (h : (a.refreshUnderLock around.endpoint token host).value = .error e) :
    ((a.refreshUnderLock around.endpoint token host).host = host ∨ ∃ request,
      (a.refreshUnderLock around.endpoint token host).host = (around.endpoint request host).2) ∧
      (a.refreshUnderLock around.endpoint token host).reports = [] := by
  cases hj : a.judgeAgain (a.store.recordIn host.files) token host.clock with
  | answered result =>
    obtain ⟨-, hh, hs⟩ := refreshUnderLock_answered around.endpoint hj
    exact ⟨.inl hh, hs.reports⟩
  | refresh used =>
    have hl := refreshUnderLock_refresh around.endpoint hj
    obtain ⟨hh, hr⟩ := refresh_failed (hl.value.symm.trans h)
    exact ⟨.inr ⟨_, hl.host.trans hh⟩, hl.reports.trans hr⟩

/-- **A call that fails writes nothing**: it leaves what others left of the host, with the lock opened or not. -/
theorem accessToken_failed {e : AuthError} (h : (a.accessToken around host).value = .error e) :
    (∃ own, Opened a host own ∧ ByOthers around own (a.accessToken around host).host) ∧
      (a.accessToken around host).reports = [] := by
  cases hj : a.judge (a.store.recordIn host.files) host.clock with
  | answered result =>
    obtain ⟨-, hh, hs⟩ := accessToken_answered around hj
    rw [hh]
    exact ⟨⟨host, .not, .none⟩, hs.reports⟩
  | refresh used =>
    cases hl : a.lock? with
    | none =>
      have hk := accessToken_unlocked around hj hl
      obtain ⟨hh, hr⟩ := refresh_failed (hk.value.symm.trans h)
      exact ⟨⟨host, .not, hk.host.trans hh ▸ .asking _⟩, hk.reports.trans hr⟩
    | some lock =>
      have hk := accessToken_locked around hj hl
      obtain ⟨hh, hr⟩ := refreshUnderLock_failed (hk.value.symm.trans h)
      refine ⟨?_, hk.reports.trans hr⟩
      rw [hk.host]
      obtain ⟨own, ho, he⟩ := opened_entered around host hl
      refine ⟨own, ho, ?_⟩
      rcases hh with hh | ⟨request, hh⟩ <;> rcases he with he | he <;> rw [hh, he]
      · exact .none
      · exact .waiting
      · exact .asking request
      · exact .both request

end Authenticator

/-- **Failures are told apart exactly and change nothing**: a refresh fails on unusable answers only, each with its own
status and exchange, and neither it nor a call for a token has then written or reported anything; at most the lock was
opened. -/
theorem failed_calls_change_nothing (a : Authenticator) (around : Surroundings) (store : Store) (used : String)
    (host : Host) :
    Refresh.Failure (a.config.refreshRequest used) (around.endpoint (a.config.refreshRequest used) host)
        (Refresh.run a.config store around.endpoint used host) ∧
      ∀ e, (a.accessToken around host).value = .error e →
        (∃ own, a.Opened host own ∧ Authenticator.ByOthers around own (a.accessToken around host).host) ∧
          (a.accessToken around host).reports = [] :=
  ⟨Refresh.refresh_failure a.config store around.endpoint used host, fun _ h => Authenticator.accessToken_failed h⟩

end TokenCache
