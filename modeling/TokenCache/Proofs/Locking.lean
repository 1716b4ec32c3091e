import TokenCache.Edit
import TokenCache.Proofs.Forecast
import TokenCache.Proofs.Landing
import TokenCache.Proofs.Overlap
/-!
# What the lock changes

With the lock a call looks at the file a second time, after it has waited, and goes by what is there then.  Of its first
look only the refresh token is left, for a file that has none any more (`recheck_uses_current`).

Where nobody interferes the second look shows what the first one did, and the call comes to the same as without the
lock, with it or without being able to open it: all that is new is the lock file and directories on the way to it
(`lock_is_transparent`).  Both calls save over a record that could be read, with a temporary file of the same path: so
either each replaces one file, at the same place, or both fail alike (`save_grown`).
-/
namespace TokenCache

open FileSystem (Grows)

namespace Authenticator

/-! ## Looking again -/

/-- The file holds a token that can be handed out. -/
def HoldsToken (a : Authenticator) (host : Host) (token : String) : Prop :=
  ∃ r, a.store.recordIn host.files = some r ∧ r.accessToken = some token ∧
    a.policy.expired r.expiryDate host.clock = false

/-- **What a call comes to, by the host in which it looks again**: it hands out the token that the file holds by then,
or it sends one request, with the refresh token that the file holds by then or else the one read before. -/
structure Rechecked (a : Authenticator) (stored : String) (current : Host) (call : Outcome (Except AuthError String)) :
    Prop where
  reused : ∀ token, a.HoldsToken current token → call.value = .ok token ∧ call.requests = [] ∧ call.host = current
  refreshed : (∀ token, ¬a.HoldsToken current token) →
    let used := ((a.store.recordIn current.files).bind Record.refreshToken).getD stored
    call.requests = [a.config.refreshRequest used] ∧ (a.config.refreshRequest used).field? "refresh_token" = some used

variable {a : Authenticator} {host : Host}

theorem holdsToken_iff {token : String} : a.HoldsToken host token ↔
    ((a.store.recordIn host.files).bind fun r => a.validToken? r host.clock) = some token := by
  unfold HoldsToken
  rw [Option.bind_eq_some_iff]
  simp only [validToken?_eq_some]
  exact exists_congr fun r => and_congr_right fun _ => and_comm

theorem lock?_eq_some (h : a.config.refreshLock = true) :
    a.lock? = some (.forCredentials a.config.credentialPath) :=
  if_pos h

/-- Under the lock only the host counts that the call looks at. -/
theorem refreshUnderLock_rechecked (endpoint : Endpoint) (stored : String) (current : Host) :
    Rechecked a stored current (a.refreshUnderLock endpoint stored current) := by
  refine ⟨fun token h => ?_, fun h => ?_⟩
  · have hj : a.judgeAgain (a.store.recordIn current.files) stored current.clock = .answered (.ok token) := by
      unfold judgeAgain
      rw [holdsToken_iff.1 h]
    obtain ⟨hv, hh, hq⟩ := refreshUnderLock_answered endpoint hj
    exact ⟨hv, hq.requests, hh⟩
  · have hn : ((a.store.recordIn current.files).bind fun r => a.validToken? r current.clock) = none :=
      Option.eq_none_iff_forall_ne_some.2 fun token ht => h token (holdsToken_iff.2 ht)
    have hj : a.judgeAgain (a.store.recordIn current.files) stored current.clock =
        .refresh (((a.store.recordIn current.files).bind Record.refreshToken).getD stored) := by
      unfold judgeAgain
      rw [hn]
    refine ⟨(refreshUnderLock_refresh endpoint hj).requests.trans ?_, rfl⟩
    exact (Refresh.run_apply a.config a.store endpoint _ current).2.2.1

theorem Rechecked.of_like {stored : String} {current : Host} {call call' : Outcome (Except AuthError String)}
    (hl : call.Like call') (h : Rechecked a stored current call') : Rechecked a stored current call :=
  ⟨fun token ht => have ⟨hv, hq, hh⟩ := h.reused token ht
    ⟨hl.value.trans hv, hl.requests.trans hq, hl.host.trans hh⟩,
    fun hn => have ⟨hq, hf⟩ := h.refreshed hn
    ⟨hl.requests.trans hq, hf⟩⟩

/-- **The second look goes by what is on disk after the wait**, whatever others do meanwhile.  Where the lock cannot be
had there is no wait.  The call itself adds what opening the lock adds, before. -/
theorem recheck_uses_current (a : Authenticator) (around : Surroundings) (host : Host) {r : Record} {stored : String}
    (hl : a.config.refreshLock = true) (hr : a.store.recordIn host.files = some r)
    (hv : ∀ token, ¬a.HoldsToken host token) (ht : r.refreshToken = some stored) :
    let lock := RefreshLock.forCredentials a.config.credentialPath
    let opened := (lock.openFile host).host
    let call := a.accessToken around host
    (Grows (LockEntry lock opened.files) host.files opened.files ∧ opened.clock = host.clock) ∧
      ((lock.openFile host).value = .ok () → Rechecked a stored (around.whileWaiting opened) call) ∧
      ∀ e, (lock.openFile host).value = .error e → Rechecked a stored opened call := by
  intro lock opened call
  have hadds := RefreshLock.openFile_adds lock host
  have hn : a.validToken? r host.clock = none := by
    refine Option.eq_none_iff_forall_ne_some.2 fun token h => hv token (holdsToken_iff.2 ?_)
    rw [hr]
    exact h
  have hj : a.judge (a.store.recordIn host.files) host.clock = .refresh stored := by
    rw [hr]
    exact judge_stale hn ht
  have hcall := accessToken_locked around hj (lock?_eq_some hl)
  refine ⟨⟨hadds.grows, hadds.clock⟩, fun ho => ?_, fun e ho => ?_⟩
  · have he : lock.entered around.whileWaiting host = around.whileWaiting opened := by
      unfold RefreshLock.entered
      rw [ho]
    exact .of_like hcall (he ▸ refreshUnderLock_rechecked around.endpoint stored _)
  · have he : lock.entered around.whileWaiting host = opened := by
      unfold RefreshLock.entered
      rw [ho]
    exact .of_like hcall (he ▸ refreshUnderLock_rechecked around.endpoint stored _)

/-! ## An example -/

def lockedAuthenticator : Authenticator :=
  ⟨{ Overlap.plainAuthenticator.config with refreshLock := true }, .standard, true⟩

/-- While the call waits another caller saves a record with a new refresh token, and the clock goes on. -/
def rotating : Surroundings :=
  ⟨fun _ host => (.ok plainReply, host),
    Edit.applyAll [.write "f" (Record.bytes ⟨[("refresh_token", .string "r1")]⟩), .clock 5]⟩

/-- The request goes out with the new refresh token, and not with the one that was read before. -/
theorem rotated_token_is_used :
    lockedAuthenticator.store.recordIn Overlap.looseFiles = some Overlap.looseRecord ∧
      (lockedAuthenticator.accessToken rotating ⟨Overlap.looseFiles, 0⟩).requests =
        [lockedAuthenticator.config.refreshRequest "r1"] := by
  have hr : lockedAuthenticator.store.recordIn Overlap.looseFiles = some Overlap.looseRecord := rfl
  have hv : ∀ token, ¬lockedAuthenticator.HoldsToken ⟨Overlap.looseFiles, 0⟩ token := by
    rintro token ⟨r, h, ht, -⟩
    cases hr.symm.trans h
    cases ht
  obtain ⟨-, hwaited, -⟩ := recheck_uses_current lockedAuthenticator rotating ⟨Overlap.looseFiles, 0⟩ rfl hr hv rfl
  have hrechecked := hwaited (by decide +kernel)
  generalize hcurrent : rotating.whileWaiting _ = current at hrechecked
  have hnone : ((lockedAuthenticator.store.recordIn current.files).bind fun r =>
      lockedAuthenticator.validToken? r current.clock) = none := by
    rw [← hcurrent]
    decide +kernel
  have hused : ((lockedAuthenticator.store.recordIn current.files).bind Record.refreshToken).getD "r0" = "r1" := by
    rw [← hcurrent]
    decide +kernel
  refine ⟨hr, (hrechecked.refreshed fun token ht => ?_).1.trans (by rw [hused])⟩
  cases hnone.symm.trans (holdsToken_iff.1 ht)

end Authenticator

/-! ## Without interference -/

/-- A world in which only time passes: the endpoint answers by what it is asked and when. -/
def quiet (answer : TokenRequest → Instant → Answer × Instant) : Surroundings :=
  ⟨fun request host => ((answer request host.clock).1, ⟨host.files, (answer request host.clock).2⟩), id⟩

/-- **The second outcome is the first one**, but for entries of which `new` holds. -/
structure Outcome.SameBut {α : Type} (new : Location → Entry → Prop) (o o' : Outcome α) : Prop where
  value : o'.value = o.value
  requests : o'.requests = o.requests
  reports : o'.reports = o.reports
  clock : o'.host.clock = o.host.clock
  files : Grows new o.host.files o'.host.files

namespace Outcome.SameBut

variable {α : Type} {new : Location → Entry → Prop} {o₁ o₂ o₁' o₂' : Outcome α}

theorem of_like (h₁ : o₁.Like o₁') (h₂ : o₂.Like o₂') (h : o₁'.SameBut new o₂') : o₁.SameBut new o₂ :=
  ⟨h₂.value.trans (h.value.trans h₁.value.symm), h₂.requests.trans (h.requests.trans h₁.requests.symm),
    h₂.reports.trans (h.reports.trans h₁.reports.symm), by rw [h₁.host, h₂.host]; exact h.clock,
    by rw [h₁.host, h₂.host]; exact h.files⟩

theorem of_silent (hv : o₂.value = o₁.value) (hh : o₂.host = o₁.host) (h₁ : o₁.Silent) (h₂ : o₂.Silent) :
    o₁.SameBut new o₂ :=
  ⟨hv, h₂.requests.trans h₁.requests.symm, h₂.reports.trans h₁.reports.symm, by rw [hh], by rw [hh]; exact .refl _ _⟩

end Outcome.SameBut

namespace Store

variable {s : Store} {new : Location → Entry → Prop} {host host' : Host} {old : Record}

/-- **A save over a record comes to the same in a host with more entries**, whether it lands or not. -/
theorem save_grown (r : Record) (h : s.recordIn host.files = some old) (hg : Grows new host.files host'.files)
    (hc : host'.clock = host.clock) : (s.save r host).SameBut new (s.save r host') := by
  have hover := save_over_record r h
  have hover' := save_over_record r (recordIn_grows hg h)
  have hout := (save_outcome s r host).1
  have hout' := (save_outcome s r host').1
  have hclock : (s.save r host').host.clock = (s.save r host).host.clock := by
    rw [(save_outcome s r host').2, (save_outcome s r host).2, hc]
  -- the temporary file is named by the path and the current directory, which are the same
  have htemporary : host'.files.temporaryPath (Path.directory s.path) =
      host.files.temporaryPath (Path.directory s.path) := by
    unfold FileSystem.temporaryPath FileSystem.currentPath
    rw [hg.current]
  rw [htemporary] at hover'
  cases ht : FileSystem.checked (host.files.temporaryPath (Path.directory s.path)) with
  | error e =>
    have hl := hover.failed e ht
    have hl' := hover'.failed e ht
    refine .of_like hl hl' ⟨rfl, ?_, ?_, hc, hg⟩
    all_goals rw [reportFailure_apply, reportFailure_apply]; rfl
  | ok u =>
    obtain ⟨hv, p, hp⟩ := hover.landed ht
    obtain ⟨hv', p', hp'⟩ := hover'.landed ht
    -- the path names the same place in both, and it is the only one that either save changes
    cases Except.ok.inj ((hg.place hp.place).symm.trans hp'.place)
    refine ⟨hv'.trans hv.symm, hout'.requests.trans hout.requests.symm,
      (hout'.reports_of_landed hv').trans (hout.reports_of_landed hv).symm, hclock,
      hp'.current.trans (hg.current.trans hp.current.symm), fun l e hl => ?_, fun l e hl => ?_⟩
    · rw [hp'.get?]
      rw [hp.get?] at hl
      split at hl
      · rwa [if_pos ‹_›]
      · rw [if_neg ‹_›]
        exact hg.kept l e hl
    · rw [hp.get?]
      rw [hp'.get?] at hl
      split at hl
      · rw [if_pos ‹_›]
        exact .inl hl
      · rw [if_neg ‹_›]
        exact hg.added l e hl

end Store

namespace Refresh

variable {c : Config} {s : Store} {new : Location → Entry → Prop} {host host' : Host} {old : Record}

theorem receive_grown (c : Config) (used : String) (answer : Answer) (h : s.recordIn host.files = some old)
    (hg : Grows new host.files host'.files) (hc : host'.clock = host.clock) :
    (receive c s used answer host).SameBut new (receive c s used answer host') := by
  cases hgrant : grant? answer with
  | error refusal =>
    obtain ⟨hv, hh, hs⟩ := receive_refused c s used host hgrant
    obtain ⟨hv', hh', hs'⟩ := receive_refused c s used host' hgrant
    refine ⟨hv'.trans hv.symm, hs'.requests.trans hs.requests.symm, hs'.reports.trans hs.reports.symm, ?_, ?_⟩
    · rw [hh, hh', hc]
    · rw [hh, hh']
      exact hg
  | ok grant =>
    obtain ⟨hv, hh, hq, hr, -⟩ := receive_granted c s used host hgrant
    obtain ⟨hv', hh', hq', hr', -⟩ := receive_granted c s used host' hgrant
    have hm : merged s grant used host' = merged s grant used host := by
      unfold merged
      rw [Store.recordIn_grows hg h, h, hc]
    rw [hm] at hh' hr'
    have hs := Store.save_grown (merged s grant used host) h hg hc
    refine ⟨hv'.trans hv.symm, hq'.trans hq.symm, by rw [hr, hr', hs.reports], ?_, ?_⟩
    · rw [hh, hh', hs.clock]
    · rw [hh, hh']
      exact hs.files

/-- **A refresh comes to the same in a host with more entries.** -/
theorem run_grown (c : Config) (answer : TokenRequest → Instant → Answer × Instant) (used : String)
    (h : s.recordIn host.files = some old) (hg : Grows new host.files host'.files) (hc : host'.clock = host.clock) :
    (run c s (quiet answer).endpoint used host).SameBut new (run c s (quiet answer).endpoint used host') := by
  obtain ⟨hv, hh, hq, hr, -⟩ := run_apply c s (quiet answer).endpoint used host
  obtain ⟨hv', hh', hq', hr', -⟩ := run_apply c s (quiet answer).endpoint used host'
  have hasked : (quiet answer).endpoint (c.refreshRequest used) host' =
      (((quiet answer).endpoint (c.refreshRequest used) host).1,
        ⟨host'.files, ((quiet answer).endpoint (c.refreshRequest used) host).2.clock⟩) := by
    unfold quiet
    dsimp only
    rw [hc]
  rw [hasked] at hv' hh' hr'
  have hs : (receive c s used ((quiet answer).endpoint (c.refreshRequest used) host).1
      ((quiet answer).endpoint (c.refreshRequest used) host).2).SameBut new
      (receive c s used ((quiet answer).endpoint (c.refreshRequest used) host).1
        ⟨host'.files, ((quiet answer).endpoint (c.refreshRequest used) host).2.clock⟩) :=
    receive_grown c used _ h hg rfl
  refine ⟨by rw [hv, hv', hs.value], by rw [hq, hq'], by rw [hr, hr', hs.reports], ?_, ?_⟩
  · rw [hh, hh', hs.clock]
  · rw [hh, hh']
    exact hs.files

end Refresh

namespace Authenticator

def withLock (a : Authenticator) (lock : Bool) : Authenticator :=
  { a with config := { a.config with refreshLock := lock } }

variable {a : Authenticator} {host : Host}

/-- **The lock is transparent where nobody interferes**: the same result, the same requests and reports, and the same
files but for the lock file and directories on the way to it. -/
theorem lock_is_transparent (a : Authenticator) (answer : TokenRequest → Instant → Answer × Instant) (host : Host) :
    let lock := RefreshLock.forCredentials a.config.credentialPath
    ((a.withLock false).accessToken (quiet answer) host).SameBut (LockEntry lock (lock.openFile host).host.files)
      ((a.withLock true).accessToken (quiet answer) host) := by
  intro lock
  cases hj : a.judge (a.store.recordIn host.files) host.clock with
  | answered result =>
    obtain ⟨hv, hh, hs⟩ := accessToken_answered (a := a.withLock false) (quiet answer) hj
    obtain ⟨hv', hh', hs'⟩ := accessToken_answered (a := a.withLock true) (quiet answer) hj
    exact .of_silent (hv'.trans hv.symm) (hh'.trans hh.symm) hs hs'
  | refresh used =>
    obtain ⟨r, hr, hv, ht⟩ := judge_eq_refresh hj
    -- opening the lock only adds entries, so the second look shows the record of the first
    have hadds := RefreshLock.openFile_adds lock host
    have hr' := Store.recordIn_grows hadds.grows hr
    have hagain : (a.withLock true).judgeAgain ((a.withLock true).store.recordIn (lock.openFile host).host.files) used
        (lock.openFile host).host.clock = .refresh used := by
      show a.judgeAgain (a.store.recordIn (lock.openFile host).host.files) used (lock.openFile host).host.clock = _
      rw [hr', hadds.clock]
      exact judgeAgain_stale hv ht used
    have hunlocked := accessToken_unlocked (a := a.withLock false) (quiet answer) hj rfl
    have hlocked : ((a.withLock true).accessToken (quiet answer) host).Like
        ((a.withLock true).refreshUnderLock (quiet answer).endpoint used (lock.entered id host)) :=
      accessToken_locked (quiet answer) hj rfl
    rw [RefreshLock.entered_quiet] at hlocked
    exact .of_like hunlocked (hlocked.trans (refreshUnderLock_refresh _ hagain))
      (Refresh.run_grown a.config answer used hr hadds.grows hadds.clock)

end Authenticator
end TokenCache
