import TokenCache.Authenticator
import TokenCache.Proofs.Saving
/-!
# Calls

What a refresh and a call for a token come to, in terms of what the files hold: the answer to a request is refused and
nothing happens, or the merged record is saved (`receive_refused`, `receive_granted`); a call for a token is over at
once, or it is a refresh, under the lock or not (`accessToken_answered`, `accessToken_unlocked`, `accessToken_locked`).
-/
namespace TokenCache

open FileSystem (Grows)

/-! ## Receiving an answer -/

namespace Refresh

/-- The record that a granted answer leads to: merged over the one that the files hold, or over none. -/
def merged (store : Store) (grant : Grant) (used : String) (host : Host) : Record :=
  ((store.recordIn host.files).getD Record.empty).merge grant.members used host.clock

variable {c : Config} {store : Store} {used : String} {answer : Answer} {host : Host}

/-- **A refused answer changes nothing.** -/
theorem receive_refused (c : Config) (store : Store) (used : String) (host : Host) {refusal : Refusal}
    (h : grant? answer = .error refusal) :
    (receive c store used answer host).value = .error (refusal.toAuthError c.displayName (c.refreshRequest used)) ∧
      (receive c store used answer host).host = host ∧ (receive c store used answer host).Silent := by
  unfold receive
  rw [h]
  cases refusal <;> exact ⟨rfl, rfl, rfl, rfl, rfl⟩

theorem persist_like (store : Store) (grant : Grant) (used : String) (host : Host) :
    (persist store grant used host).Like (store.save (merged store grant used host) host) := by
  unfold persist merged
  refine (Outcome.Like.after (Store.load_silent store host)).trans ?_
  rw [Store.load_value, Store.load_host]
  exact Outcome.Like.after ⟨rfl, rfl, rfl⟩

/-- **A granted answer gives its token**, and the merged record is saved. -/
theorem receive_granted (c : Config) (store : Store) (used : String) (host : Host) {grant : Grant}
    (h : grant? answer = .ok grant) :
    (receive c store used answer host).value = .ok grant.accessToken ∧
      (receive c store used answer host).host = (store.save (merged store grant used host) host).host ∧
      (receive c store used answer host).requests = [] ∧
      (receive c store used answer host).reports = (store.save (merged store grant used host) host).reports ∧
      (receive c store used answer host).unsaved = (store.save (merged store grant used host) host).unsaved := by
  have hp := persist_like store grant used host
  have hs := (Store.save_outcome store (merged store grant used host) host).1
  unfold receive
  rw [h]
  dsimp only
  generalize persist store grant used = persisting at hp ⊢
  generalize store.save (merged store grant used host) host = saved at hp hs ⊢
  refine ⟨rfl, hp.host, ?_, ?_, ?_⟩
  · rw [Outcome.requests_bind, hp.requests, hs.requests]
    rfl
  · rw [Outcome.reports_bind, hp.reports]
    exact List.append_nil _
  · rw [Outcome.unsaved_bind, hp.unsaved]
    exact List.append_nil _

/-- **An answer whose record is not saved** adds directories on the way to the file at most. -/
theorem receive_unsaved (h : (receive c store used answer host).unsaved ≠ []) :
    Grows (DirectoryOn (Path.directory store.path) (receive c store used answer host).host.files) host.files
      (receive c store used answer host).host.files := by
  cases hg : grant? answer with
  | error refusal => exact absurd (receive_refused c store used host hg).2.2.unsaved h
  | ok grant =>
    obtain ⟨-, hh, -, -, hu⟩ := receive_granted c store used host hg
    have hs := (Store.save_outcome store (merged store grant used host) host).1
    rw [hu] at h
    rw [hh]
    exact (hs.failed (Bool.eq_false_iff.2 fun hv => h (hs.unsaved_eq_nil.2 hv))).1

theorem receive_requests : (receive c store used answer host).requests = [] := by
  cases h : grant? answer with
  | error refusal => exact (receive_refused c store used host h).2.2.requests
  | ok grant => exact (receive_granted c store used host h).2.2.1

/-- **A refresh sends one request**, and receives its answer in the host that it comes with. -/
theorem run_apply (c : Config) (store : Store) (endpoint : Endpoint) (used : String) (host : Host) :
    let asked := endpoint (c.refreshRequest used) host
    let received := receive c store used asked.1 asked.2
    (run c store endpoint used host).value = received.value ∧ (run c store endpoint used host).host = received.host ∧
      (run c store endpoint used host).requests = [c.refreshRequest used] ∧
      (run c store endpoint used host).reports = received.reports ∧
      (run c store endpoint used host).unsaved = received.unsaved := by
  have hl : (run c store endpoint used host).Like
      ((Run.ask endpoint (c.refreshRequest used) >>= receive c store used) host) := Outcome.Like.after ⟨rfl, rfl, rfl⟩
  refine ⟨hl.value, hl.host, ?_, ?_, ?_⟩
  · rw [hl.requests, Outcome.requests_bind, receive_requests]
    rfl
  · rw [hl.reports, Outcome.reports_bind]
    rfl
  · rw [hl.unsaved, Outcome.unsaved_bind]
    rfl

end Refresh

/-! ## Working under the lock -/

namespace RefreshLock

/-- The host in which the work starts: others have acted while the call waited, if the lock could be opened. -/
def entered (lock : RefreshLock) (others : Host → Host) (host : Host) : Host :=
  match (lock.openFile host).value with
  | .ok () => others (lock.openFile host).host
  | .error _ => (lock.openFile host).host

theorem entered_quiet (lock : RefreshLock) (host : Host) : lock.entered id host = (lock.openFile host).host := by
  unfold entered
  cases (lock.openFile host).value <;> rfl

/-- **Under the lock the work is done as without it**, from the host that it is entered in. -/
theorem withExclusive_like {α : Type} (lock : RefreshLock) (others : Host → Host) (work : Run α) (host : Host) :
    (lock.withExclusive others work host).Like (work (lock.entered others host)) := by
  have hs := (openFile_adds lock host).silent
  unfold withExclusive entered
  generalize lock.openFile = opening at hs ⊢
  refine (Outcome.Like.after hs).trans ?_
  cases (opening host).value with
  | error e => exact Outcome.Like.after ⟨rfl, rfl, rfl⟩
  | ok u =>
    refine (Outcome.Like.after ⟨rfl, rfl, rfl⟩).trans ?_
    refine (Outcome.Like.after ⟨rfl, rfl, rfl⟩).trans ?_
    refine (Outcome.Like.after ⟨rfl, rfl, rfl⟩).trans ?_
    exact Outcome.Like.before_release

end RefreshLock

/-! ## A call for a token -/

namespace Authenticator

variable {a : Authenticator} {host : Host}

theorem start_apply (a : Authenticator) (host : Host) :
    (a.start host).value = a.judge (a.store.recordIn host.files) host.clock ∧ (a.start host).host = host ∧
      (a.start host).Silent := by
  have hs := Store.load_silent a.store host
  unfold start
  rw [Run.bind_value, Run.bind_host, Store.load_value, Store.load_host]
  refine ⟨rfl, rfl, hs.bind ?_⟩
  exact ⟨rfl, rfl, rfl⟩

theorem recheck_apply (a : Authenticator) (refreshToken : String) (host : Host) :
    (a.recheck refreshToken host).value = a.judgeAgain (a.store.recordIn host.files) refreshToken host.clock ∧
      (a.recheck refreshToken host).host = host ∧ (a.recheck refreshToken host).Silent := by
  have hs := Store.load_silent a.store host
  have hr : ∀ next h, (a.reportReuse next h).host = h ∧ (a.reportReuse next h).Silent := by
    intro next h
    cases next <;> exact ⟨rfl, rfl, rfl, rfl⟩
  unfold recheck
  rw [Run.bind_value, Run.bind_host, Store.load_value, Store.load_host]
  refine ⟨rfl, (hr _ _).1, hs.bind ?_⟩
  rw [Store.load_value, Store.load_host]
  refine Outcome.Silent.bind ⟨rfl, rfl, rfl⟩ ?_
  exact (hr (a.judgeAgain (a.store.recordIn host.files) refreshToken host.clock) host).2.bind (f := fun _ => pure _)
    ⟨rfl, rfl, rfl⟩

/-- Under the lock a call is over at once, if the file holds a valid token by then. -/
theorem refreshUnderLock_answered (endpoint : Endpoint) {token : String} {result : Except AuthError String}
    (h : a.judgeAgain (a.store.recordIn host.files) token host.clock = .answered result) :
    (a.refreshUnderLock endpoint token host).value = result ∧ (a.refreshUnderLock endpoint token host).host = host ∧
      (a.refreshUnderLock endpoint token host).Silent := by
  obtain ⟨hv, hh, hs⟩ := recheck_apply a token host
  rw [h] at hv
  unfold refreshUnderLock
  rw [Run.bind_value, Run.bind_host, hv, hh]
  refine ⟨rfl, rfl, hs.bind ?_⟩
  rw [hv]
  exact ⟨rfl, rfl, rfl⟩

/-- Under the lock a call is else a refresh with the token that the file holds by then. -/
theorem refreshUnderLock_refresh (endpoint : Endpoint) {token used : String}
    (h : a.judgeAgain (a.store.recordIn host.files) token host.clock = .refresh used) :
    (a.refreshUnderLock endpoint token host).Like (a.refresh endpoint used host) := by
  obtain ⟨hv, hh, hs⟩ := recheck_apply a token host
  rw [h] at hv
  unfold refreshUnderLock
  refine (Outcome.Like.after hs).trans ?_
  rw [hv, hh]
  exact Outcome.Like.rfl

/-- **A call is over at once**, and changes nothing, unless the record leads to a refresh. -/
theorem accessToken_answered (around : Surroundings) {result : Except AuthError String}
    (h : a.judge (a.store.recordIn host.files) host.clock = .answered result) :
    (a.accessToken around host).value = result ∧ (a.accessToken around host).host = host ∧
      (a.accessToken around host).Silent := by
  obtain ⟨hv, hh, hs⟩ := start_apply a host
  rw [h] at hv
  unfold accessToken
  rw [Run.bind_value, Run.bind_host, hv, hh]
  refine ⟨rfl, rfl, hs.bind ?_⟩
  rw [hv]
  exact ⟨rfl, rfl, rfl⟩

/-- **Without the lock a call is else a refresh.** -/
theorem accessToken_unlocked (around : Surroundings) {used : String}
    (h : a.judge (a.store.recordIn host.files) host.clock = .refresh used) (hl : a.lock? = none) :
    (a.accessToken around host).Like (a.refresh around.endpoint used host) := by
  obtain ⟨hv, hh, hs⟩ := start_apply a host
  rw [h] at hv
  unfold accessToken
  refine (Outcome.Like.after hs).trans ?_
  rw [hv, hh, hl]
  exact Outcome.Like.rfl

/-- **With the lock it is a second look at the file**, from the host that the lock is entered in. -/
theorem accessToken_locked (around : Surroundings) {used : String} {lock : RefreshLock}
    (h : a.judge (a.store.recordIn host.files) host.clock = .refresh used) (hl : a.lock? = some lock) :
    (a.accessToken around host).Like
      (a.refreshUnderLock around.endpoint used (lock.entered around.whileWaiting host)) := by
  obtain ⟨hv, hh, hs⟩ := start_apply a host
  rw [h] at hv
  unfold accessToken
  refine (Outcome.Like.after hs).trans ?_
  rw [hv, hh, hl]
  exact lock.withExclusive_like _ _ _

end Authenticator
end TokenCache
