import TokenCache.Proofs.Calls
import TokenCache.Status
/-!
# The status as a forecast

The status and a call for a token read the file each for themselves.  They agree on what is there: the flags of the
status tell whether a call will be over at once, and how, or will send a request (`status_forecasts`).  With the lock
the file is read a second time, and the record is still the one that was read first (`accessToken_refreshes`), because
opening the lock only adds entries.
-/
namespace TokenCache
namespace Authenticator

variable {a : Authenticator} {host : Host}

theorem status_apply (a : Authenticator) (host : Host) :
    (a.status host).value = a.statusOf (a.store.recordIn host.files) host.clock ∧ (a.status host).host = host := by
  unfold status
  rw [Run.bind_value, Run.bind_host, Store.load_value, Store.load_host]
  exact ⟨rfl, rfl⟩

theorem apiBase_value (a : Authenticator) (host : Host) :
    (a.apiBase host).value = a.config.apiBase (a.store.recordIn host.files) := by
  unfold apiBase
  cases h : a.config.apiBaseSource with
  | static =>
    unfold Config.apiBase
    rw [h]
    rfl
  | recordField name =>
    dsimp only
    rw [Run.bind_value, Store.load_value]
    rfl

/-! ## Valid tokens -/

theorem validToken?_eq_some {r : Record} {token : String} {now : Instant} :
    a.validToken? r now = some token ↔ a.policy.expired r.expiryDate now = false ∧ r.accessToken = some token := by
  unfold validToken?
  cases a.policy.expired r.expiryDate now <;> simp

theorem validToken?_eq_none {r : Record} {now : Instant} :
    a.validToken? r now = none ↔ r.accessToken = none ∨ a.policy.expired r.expiryDate now = true := by
  unfold validToken?
  cases a.policy.expired r.expiryDate now <;> simp

/-- A status that shows an access token and no expiry is that of a record with a valid token. -/
theorem statusOf_valid {r : Record} {now : Instant} :
    ((a.statusOf (some r) now).hasAccessToken = true ∧ (a.statusOf (some r) now).expired = false) ↔
      ∃ token, a.validToken? r now = some token := by
  simp only [validToken?_eq_some]
  unfold statusOf
  dsimp only [Option.bind_some]
  rw [Option.isSome_iff_exists]
  constructor
  · rintro ⟨⟨token, ht⟩, he⟩
    exact ⟨token, he, ht⟩
  · rintro ⟨token, he, ht⟩
    exact ⟨⟨token, ht⟩, he⟩

theorem statusOf_stale {r : Record} {now : Instant}
    (h : ¬((a.statusOf (some r) now).hasAccessToken = true ∧ (a.statusOf (some r) now).expired = false)) :
    a.validToken? r now = none :=
  Option.eq_none_iff_forall_ne_some.2 fun token ht => h (statusOf_valid.2 ⟨token, ht⟩)

/-! ## What a record leads to -/

theorem judge_valid {r : Record} {token : String} {now : Instant} (h : a.validToken? r now = some token) :
    a.judge (some r) now = .answered (.ok token) := by
  unfold judge
  dsimp only
  rw [h]

theorem judge_stale {r : Record} {used : String} {now : Instant} (hv : a.validToken? r now = none)
    (hr : r.refreshToken = some used) : a.judge (some r) now = .refresh used := by
  unfold judge
  dsimp only
  rw [hv, hr]

theorem judge_eq_refresh {record : Option Record} {now : Instant} {used : String}
    (h : a.judge record now = .refresh used) :
    ∃ r, record = some r ∧ a.validToken? r now = none ∧ r.refreshToken = some used := by
  unfold judge at h
  split at h
  · cases h
  · rename_i r
    split at h
    · cases h
    · rename_i hv
      split at h
      · rename_i hr
        cases h
        exact ⟨r, rfl, hv, hr⟩
      · cases h

theorem judge_eq_ok {record : Option Record} {now : Instant} {token : String}
    (h : a.judge record now = .answered (.ok token)) : ∃ r, record = some r ∧ a.validToken? r now = some token := by
  unfold judge at h
  split at h
  · cases h
  · rename_i r
    split at h
    · rename_i hv
      cases h
      exact ⟨r, rfl, hv⟩
    · split at h <;> cases h

theorem judgeAgain_valid {r : Record} {token : String} {now : Instant} (h : a.validToken? r now = some token)
    (before : String) : a.judgeAgain (some r) before now = .answered (.ok token) := by
  unfold judgeAgain
  rw [Option.bind_some, h]

theorem judgeAgain_stale {r : Record} {used : String} {now : Instant} (hv : a.validToken? r now = none)
    (hr : r.refreshToken = some used) (before : String) : a.judgeAgain (some r) before now = .refresh used := by
  unfold judgeAgain
  rw [Option.bind_some, hv, Option.bind_some, hr]
  rfl

/-! ## The call by the record -/

/-- **A record with a valid token leads to no request.** -/
theorem accessToken_valid (around : Surroundings) {r : Record} {token : String}
    (h : a.store.recordIn host.files = some r) (hv : a.validToken? r host.clock = some token) :
    (a.accessToken around host).value = .ok token ∧ (a.accessToken around host).host = host ∧
      (a.accessToken around host).Silent := by
  refine accessToken_answered around ?_
  rw [h]
  exact judge_valid hv

/-- Opening the lock leaves the record and the clock as they were. -/
theorem entered_id (lock : RefreshLock) {r : Record} (h : a.store.recordIn host.files = some r) :
    a.store.recordIn (lock.entered id host).files = some r ∧ (lock.entered id host).clock = host.clock := by
  have ha := RefreshLock.openFile_adds lock host
  rw [RefreshLock.entered_quiet]
  exact ⟨Store.recordIn_grows ha.grows h, ha.clock⟩

/-- **A record with a refresh token and no valid access token leads to one refresh**, with that refresh token, from a
host that holds the record. -/
theorem accessToken_refreshes_in (endpoint : Endpoint) {r : Record} {used : String}
    (h : a.store.recordIn host.files = some r) (hv : a.validToken? r host.clock = none)
    (hr : r.refreshToken = some used) :
    ∃ opened : Host, a.store.recordIn opened.files = some r ∧ opened.clock = host.clock ∧
      (a.accessToken ⟨endpoint, id⟩ host).Like (a.refresh endpoint used opened) := by
  have hj : a.judge (a.store.recordIn host.files) host.clock = .refresh used := by
    rw [h]
    exact judge_stale hv hr
  cases hl : a.lock? with
  | none => exact ⟨host, h, rfl, accessToken_unlocked _ hj hl⟩
  | some lock =>
    obtain ⟨hf, hc⟩ := entered_id lock h
    refine ⟨lock.entered id host, hf, hc, (accessToken_locked _ hj hl).trans (refreshUnderLock_refresh _ ?_)⟩
    rw [hf, hc]
    exact judgeAgain_stale hv hr used

/-- The refresh is the same with the lock and without. -/
theorem accessToken_refreshes (endpoint : Endpoint) {r : Record} {used : String}
    (h : a.store.recordIn host.files = some r) (hv : a.validToken? r host.clock = none)
    (hr : r.refreshToken = some used) :
    ∃ opened : Host, (a.accessToken ⟨endpoint, id⟩ host).Like (a.refresh endpoint used opened) :=
  have ⟨opened, _, _, hl⟩ := accessToken_refreshes_in endpoint h hv hr
  ⟨opened, hl⟩

theorem accessToken_requests (endpoint : Endpoint) {r : Record} {used : String}
    (h : a.store.recordIn host.files = some r) (hv : a.validToken? r host.clock = none)
    (hr : r.refreshToken = some used) :
    (a.accessToken ⟨endpoint, id⟩ host).requests = [a.config.refreshRequest used] := by
  obtain ⟨opened, hl⟩ := accessToken_refreshes endpoint h hv hr
  exact hl.requests.trans (Refresh.run_apply a.config a.store endpoint used opened).2.2.1

end Authenticator

/-! ## The forecast -/

open Authenticator

/-- No refresh fails for want of a credential. -/
theorem Refresh.run_not_missing (c : Config) (store : Store) (endpoint : Endpoint) (used : String) (host : Host)
    (m : String) : (Refresh.run c store endpoint used host).value ≠ .error (.missingCredential m) := by
  rw [(Refresh.run_apply c store endpoint used host).1]
  cases h : Refresh.grant? (endpoint (c.refreshRequest used) host).1 with
  | error refusal =>
    rw [(Refresh.receive_refused _ _ _ _ h).1]
    unfold Refresh.Refusal.toAuthError
    simp
  | ok grant =>
    rw [(Refresh.receive_granted _ _ _ _ h).1]
    simp

theorem Config.field?_refreshRequest (c : Config) (used : String) :
    (c.refreshRequest used).field? "refresh_token" = some used :=
  rfl

/-- **What a status says of a call for a token from the same host.** -/
structure Forecast (a : Authenticator) (host : Host) (s : CredentialStatus) (call : Outcome (Except AuthError String)) :
    Prop where
  absent : s.credentialsFound = false → call.value = .error (notFound a.config) ∧ call.requests = []
  valid : s.credentialsFound = true → s.hasAccessToken = true → s.expired = false →
    ∃ r token, a.store.recordIn host.files = some r ∧ r.accessToken = some token ∧ call.value = .ok token ∧
      call.requests = [] ∧ call.host = host
  stuck : s.credentialsFound = true → ¬(s.hasAccessToken = true ∧ s.expired = false) → s.hasRefreshToken = false →
    call.value = .error (noRefreshToken a.config) ∧ call.requests = []
  refreshed : s.credentialsFound = true → ¬(s.hasAccessToken = true ∧ s.expired = false) → s.hasRefreshToken = true →
    ∃ r token, a.store.recordIn host.files = some r ∧ r.refreshToken = some token ∧
      call.requests = [a.config.refreshRequest token] ∧
      (a.config.refreshRequest token).field? "refresh_token" = some token ∧
      ∀ m, call.value ≠ .error (.missingCredential m)

/-- **The status forecasts the call**, and shows the API base. -/
theorem status_forecasts (a : Authenticator) (endpoint : Endpoint) (host : Host) :
    Forecast a host (a.status host).value (a.accessToken ⟨endpoint, id⟩ host) ∧
      (a.status host).value.apiBase = (a.apiBase host).value ∧ (a.status host).host = host := by
  obtain ⟨hs, hh⟩ := status_apply a host
  rw [hs, apiBase_value]
  refine ⟨?_, rfl, hh⟩
  cases h : a.store.recordIn host.files with
  | none =>
    have hj : a.judge (a.store.recordIn host.files) host.clock = .answered (.error (notFound a.config)) := by
      rw [h]
      rfl
    obtain ⟨hv, -, hq⟩ := accessToken_answered ⟨endpoint, id⟩ hj
    exact ⟨fun _ => ⟨hv, hq.requests⟩, nofun, nofun, nofun⟩
  | some r =>
    refine ⟨nofun, fun _ ha he => ?_, fun _ hn hr => ?_, fun _ hn hr => ?_⟩
    · obtain ⟨token, ht⟩ := statusOf_valid.1 ⟨ha, he⟩
      have hj : a.judge (a.store.recordIn host.files) host.clock = .answered (.ok token) := by
        unfold judge
        rw [h]
        dsimp only
        rw [ht]
      obtain ⟨hv, hhost, hq⟩ := accessToken_answered ⟨endpoint, id⟩ hj
      exact ⟨r, token, h, (validToken?_eq_some.1 ht).2, hv, hq.requests, hhost⟩
    · have hr' : r.refreshToken = none := Option.not_isSome_iff_eq_none.1 (by simpa [statusOf] using hr)
      have hj : a.judge (a.store.recordIn host.files) host.clock = .answered (.error (noRefreshToken a.config)) := by
        unfold judge
        rw [h]
        dsimp only
        rw [statusOf_stale hn, hr']
      obtain ⟨hv, -, hq⟩ := accessToken_answered ⟨endpoint, id⟩ hj
      exact ⟨hv, hq.requests⟩
    · obtain ⟨token, ht⟩ := Option.isSome_iff_exists.1 hr
      obtain ⟨opened, hl⟩ := accessToken_refreshes endpoint h (statusOf_stale hn) ht
      refine ⟨r, token, h, ht, ?_, a.config.field?_refreshRequest token, fun m => ?_⟩
      · rw [hl.requests]
        exact (Refresh.run_apply a.config a.store endpoint token opened).2.2.1
      · rw [hl.value]
        exact Refresh.run_not_missing a.config a.store endpoint token opened m

end TokenCache
