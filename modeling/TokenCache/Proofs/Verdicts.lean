import TokenCache.Proofs.Configuration
import TokenCache.Proofs.Forecast
import TokenCache.Proofs.Grammar
import TokenCache.Proofs.Verbatim
/-!
# The verdict on the command line

The status command ends its account of a credential file in a verdict, by the expiry date alone; the token command also
asks whether there is a token.  Where the account says that there is one, `valid` means that the token command prints it
at once, and `refresh needed` that it does not without a refresh (`verdict_forecasts`).
-/
namespace TokenCache

/-! ## Lines of a status -/

/-- Labels of one length are read off the front of a line. -/
theorem labelled_inj {l l' x y : String} (h : l.length = l'.length) : l ++ x = l' ++ y ↔ l = l' ∧ x = y := by
  constructor
  · intro he
    rw [← String.toList_inj, String.toList_append, String.toList_append] at he
    obtain ⟨hl, hx⟩ := List.append_inj he (by rwa [String.length_toList, String.length_toList])
    exact ⟨String.toList_inj.1 hl, String.toList_inj.1 hx⟩
  · rintro ⟨rfl, rfl⟩
    rfl

namespace CredentialStatus

variable {s : CredentialStatus}

theorem mem_lines {line : String} : line ∈ s.lines ↔
    line = "Provider:      " ++ s.provider ∨ line = "Credentials:   " ++ s.credentialPath ∨
      (s.credentialsFound = false ∧ line = "State:         not found") ∨
      (s.credentialsFound = true ∧ (line = "Access token:  " ++ yesNo s.hasAccessToken ∨
        line = "Refresh token: " ++ yesNo s.hasRefreshToken ∨
        line = "Expires:       " ++ (s.expiresAt.getD "--" ++ " (" ++ s.keyRemaining ++ ")") ∨
        line = "State:         " ++ (if s.expired then "refresh needed" else "valid") ∨
        line = "API base:      " ++ s.apiBase)) := by
  unfold lines
  cases s.credentialsFound <;> simp [String.append_assoc]

/-- **The verdict of a status**, which is on no other line. -/
theorem verdict_mem_lines {verdict : String} : "State:         " ++ verdict ∈ s.lines ↔
    verdict = if s.credentialsFound then (if s.expired then "refresh needed" else "valid") else "not found" := by
  have hnone : "State:         not found" = "State:         " ++ "not found" := rfl
  rw [mem_lines, hnone]
  simp (disch := decide) only [labelled_inj]
  cases s.credentialsFound <;> simp

/-- Whether there is an access token, which is on no other line. -/
theorem access_mem_lines {word : String} : "Access token:  " ++ word ∈ s.lines ↔
    s.credentialsFound = true ∧ word = yesNo s.hasAccessToken := by
  have hnone : "State:         not found" = "State:         " ++ "not found" := rfl
  rw [mem_lines, hnone]
  simp (disch := decide) only [labelled_inj]
  simp

end CredentialStatus

namespace Authenticator

variable {a : Authenticator} {record : Option Record} {now : Instant}

theorem state_mem_lines {b : Bool} :
    "State:         " ++ (if b then "refresh needed" else "valid") ∈ (a.statusOf record now).lines ↔
      ∃ r, record = some r ∧ a.policy.expired r.expiryDate now = b := by
  rw [CredentialStatus.verdict_mem_lines]
  unfold statusOf
  cases record with
  | none => cases b <;> simp
  | some r => cases b <;> cases h : a.policy.expired r.expiryDate now <;> simp [h]

theorem access_mem_lines {b : Bool} :
    "Access token:  " ++ CredentialStatus.yesNo b ∈ (a.statusOf record now).lines ↔
      ∃ r, record = some r ∧ r.accessToken.isSome = b := by
  rw [CredentialStatus.access_mem_lines]
  unfold statusOf
  cases record with
  | none => simp
  | some r => cases b <;> cases h : r.accessToken <;> simp [h, CredentialStatus.yesNo]

end Authenticator

/-! ## The two commands -/

namespace Command

variable {p : Provider} {word : String} {env : Environment} {around : Surroundings} {host : Host}

theorem run_status (h : Provider.parse? word = some p) (env : Environment) (around : Surroundings) (host : Host) :
    (run [word, "status"] env around host).exitCode = 0 ∧ (run [word, "status"] env around host).host = host ∧
      (run [word, "status"] env around host).output =
        String.intercalate "\n" ((authenticator p env).status host).value.lines ++ "\n" := by
  have hv : (execute env around (.status p false) host).value =
      .ok (String.intercalate "\n" ((authenticator p env).status host).value.lines) := rfl
  obtain ⟨hx, ho, hh⟩ := run_done (.status (Provider.parse?_eq_some.1 h)) hv
  exact ⟨hx, hh.trans ((authenticator p env).status_apply host).2, ho⟩

theorem asks_token (h : Provider.parse? word = some p) : Asks [word, "token"] (.token p) :=
  .token (Provider.parse?_eq_some.1 h)

/-- **A token command that does not print the token of a record**: it asks for a new one with the refresh token of the
record, or prints nothing for want of that. -/
inductive Unserved (a : Authenticator) (r : Record) (call : Outcome (Except AuthError String)) (told : CommandResult) :
    Prop
  | refreshed {used : String} (hr : r.refreshToken = some used) (hq : call.requests = [a.config.refreshRequest used])
  | failed (hr : r.refreshToken = none) (hq : call.requests = []) (hx : told.exitCode = 1) (ho : told.output = "")

theorem unserved_of_stale (h : Provider.parse? word = some p) (endpoint : Endpoint) {r : Record}
    (hr : (authenticator p env).store.recordIn host.files = some r)
    (hv : (authenticator p env).validToken? r host.clock = none) :
    Unserved (authenticator p env) r (execute env ⟨endpoint, id⟩ (.token p) host)
      (run [word, "token"] env ⟨endpoint, id⟩ host) := by
  cases hused : r.refreshToken with
  | some used => exact .refreshed hused ((authenticator p env).accessToken_requests endpoint hr hv hused)
  | none =>
    have hj : (authenticator p env).judge ((authenticator p env).store.recordIn host.files) host.clock =
        .answered (.error (Authenticator.noRefreshToken (authenticator p env).config)) := by
      rw [hr]
      unfold Authenticator.judge
      dsimp only
      rw [hv, hused]
    obtain ⟨hvalue, -, hsilent⟩ := Authenticator.accessToken_answered ⟨endpoint, id⟩ hj
    obtain ⟨hx, ho, -⟩ := run_failed (asks_token h) hvalue
    exact .failed hused hsilent.requests hx ho

/-- **The verdict tells what the token command does** on the same host.  After `valid` it prints the access token of the
record and sends nothing, if the status shows that there is one.  If it shows that there is none, and after `refresh
needed`, the command prints no token that it has not asked for. -/
theorem verdict_forecasts (h : Provider.parse? word = some p) (env : Environment) (endpoint : Endpoint) (host : Host) :
    let a := authenticator p env
    let lines := (a.status host).value.lines
    let shown := run [word, "status"] env ⟨endpoint, id⟩ host
    let call := execute env ⟨endpoint, id⟩ (.token p) host
    let told := run [word, "token"] env ⟨endpoint, id⟩ host
    (shown.exitCode = 0 ∧ shown.output = String.intercalate "\n" lines ++ "\n") ∧
      ("State:         " ++ "valid" ∈ lines → ∃ r, a.store.recordIn host.files = some r ∧
        (∀ token, r.accessToken = some token → "Access token:  " ++ "yes" ∈ lines ∧ call.requests = [] ∧
          told.exitCode = 0 ∧ told.output = token ++ "\n" ∧ told.host = host) ∧
        (r.accessToken = none → "Access token:  " ++ "no" ∈ lines ∧ Unserved a r call told)) ∧
      ("State:         " ++ "refresh needed" ∈ lines →
        ∃ r, a.store.recordIn host.files = some r ∧ Unserved a r call told) := by
  intro a lines shown call told
  obtain ⟨hexit, -, houtput⟩ := run_status h env ⟨endpoint, id⟩ host
  have hlines : lines = (a.statusOf (a.store.recordIn host.files) host.clock).lines :=
    congrArg CredentialStatus.lines (a.status_apply host).1
  rw [hlines]
  refine ⟨⟨hexit, hlines ▸ houtput⟩, fun hv => ?_, fun hn => ?_⟩
  · obtain ⟨r, hr, hfresh⟩ := (Authenticator.state_mem_lines (b := false)).1 hv
    refine ⟨r, hr, fun token ht => ⟨?_, ?_⟩, fun ht => ⟨?_, ?_⟩⟩
    · exact (Authenticator.access_mem_lines (b := true)).2 ⟨r, hr, by rw [ht]; rfl⟩
    · obtain ⟨hvalue, hhost, hsilent⟩ :=
        Authenticator.accessToken_valid ⟨endpoint, id⟩ hr (Authenticator.validToken?_eq_some.2 ⟨hfresh, ht⟩)
      obtain ⟨hx, ho, hh⟩ := run_done (asks_token h) hvalue
      exact ⟨hsilent.requests, hx, ho, hh.trans hhost⟩
    · exact (Authenticator.access_mem_lines (b := false)).2 ⟨r, hr, by rw [ht]; rfl⟩
    · exact unserved_of_stale h endpoint hr (Authenticator.validToken?_eq_none.2 (.inl ht))
  · obtain ⟨r, hr, hexpired⟩ := (Authenticator.state_mem_lines (b := true)).1 hn
    exact ⟨r, hr, unserved_of_stale h endpoint hr (Authenticator.validToken?_eq_none.2 (.inr hexpired))⟩

/-- An endpoint that gives no reply. -/
def closed : Endpoint := fun _ host => (.error ⟨"closed"⟩, host)

/-- A token without an expiry date is printed, by a word in any case with blanks around it. -/
theorem valid_line_prints_token :
    let env := Provider.onlyVariable "QWEN_OAUTH_TOKEN_FILE" "f"
    let host := onlyFile "\x7b\"access_token\":\"a\"\x7d"
    Provider.parse? " Qwen-OAuth " = some .qwen ∧
      "State:         " ++ "valid" ∈ ((authenticator .qwen env).status host).value.lines ∧
      (run [" Qwen-OAuth ", "token"] env ⟨closed, id⟩ host).exitCode = 0 ∧
      (run [" Qwen-OAuth ", "token"] env ⟨closed, id⟩ host).output = "a\n" := by
  intro env host
  have hp : Provider.parse? " Qwen-OAuth " = some .qwen := by decide +kernel
  have hv : "State:         " ++ "valid" ∈ ((authenticator .qwen env).status host).value.lines := by decide +kernel
  obtain ⟨-, hvalid, -⟩ := verdict_forecasts hp env closed host
  obtain ⟨r, hr, hserved, -⟩ := hvalid hv
  have htoken : ((authenticator .qwen env).store.recordIn host.files).bind Record.accessToken = some "a" := by
    decide +kernel
  rw [hr] at htoken
  obtain ⟨-, -, hx, ho, -⟩ := hserved "a" htoken
  exact ⟨hp, hv, hx, ho⟩

/-- **An empty record is called valid**, and the token command fails on it. -/
theorem valid_line_without_token :
    let env := Provider.onlyVariable "QWEN_OAUTH_TOKEN_FILE" "f"
    let host := onlyFile "\x7b\x7d"
    (run ["qwen", "status"] env ⟨closed, id⟩ host).output =
        "Provider:      qwen\nCredentials:   f\nAccess token:  no\nRefresh token: no\nExpires:       -- (--)\n" ++
        "State:         valid\nAPI base:      https://dashscope.aliyuncs.com/compatible-mode/v1\n" ∧
      (run ["qwen", "token"] env ⟨closed, id⟩ host).exitCode = 1 ∧
      (run ["qwen", "token"] env ⟨closed, id⟩ host).output = "" := by
  decide +kernel

end Command
end TokenCache
