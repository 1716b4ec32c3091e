import TokenCache.CommandLine
/-!
# The grammar of command lines

A command line asks for at most one command (`Asks`), and `parse` finds it (`parse_eq_ok`).  The exit code tells three
kinds of runs apart: a line outside the grammar, about which nothing is looked at but the line itself, a call for a
token that fails, and all the others, which alone print an answer (`run_conforms`).
-/
namespace TokenCache

namespace Provider

/-- The words for a provider, in lower case. -/
def words : Provider → List String
  | qwen => ["qwen", "qwen-oauth", "qwen_oauth"]
  | gemini => ["gemini", "gemini-oauth", "gemini_oauth"]

/-- Blanks around the word and the case of its letters do not count. -/
def Named (p : Provider) (word : String) : Prop :=
  Text.lower (Text.trim word) ∈ p.words

theorem parse?_eq_some {word : String} {p : Provider} : parse? word = some p ↔ p.Named word := by
  unfold parse? Named
  generalize Text.lower (Text.trim word) = w
  dsimp only
  constructor
  · intro h
    split at h
    · rename_i hw
      cases h
      simpa [words, or_assoc] using hw
    split at h
    · rename_i hw
      cases h
      simpa [words, or_assoc] using hw
    · cases h
  · intro h
    cases p <;> simp only [words, List.mem_cons, List.not_mem_nil, or_false] at h <;>
      rcases h with rfl | rfl | rfl <;> rfl

end Provider

namespace Command

/-! ## What a line asks for -/

/-- **The command lines there are.**  A request for help goes before everything, and what follows it does not count. -/
inductive Asks : List String → Command → Prop
  | nothing : Asks [] .help
  | help {word : String} (h : word ∈ ["-h", "--help", "help"]) (rest : List String) : Asks (word :: rest) .help
  | token {word : String} {p : Provider} (h : p.Named word) : Asks [word, "token"] (.token p)
  | apiBase {word : String} {p : Provider} (h : p.Named word) : Asks [word, "api-base"] (.apiBase p)
  | status {word : String} {p : Provider} (h : p.Named word) : Asks [word, "status"] (.status p false)
  | statusJson {word : String} {p : Provider} (h : p.Named word) : Asks [word, "status", "--json"] (.status p true)

theorem isHelp_iff {word : String} : isHelp word = true ↔ word ∈ ["-h", "--help", "help"] := by
  simp [isHelp, or_assoc]

theorem parse_named {word : String} {p : Provider} (h : p.Named word) (rest : List String) :
    parse (word :: rest) = ofWords p rest := by
  have hp := Provider.parse?_eq_some.2 h
  have hhelp : ¬isHelp word = true := by
    intro hw
    -- none of the three words for help names a provider
    have hnone : Provider.parse? word = none := by
      rw [isHelp_iff] at hw
      simp only [List.mem_cons, List.not_mem_nil, or_false] at hw
      rcases hw with rfl | rfl | rfl <;> decide +kernel
    rw [hnone] at hp
    cases hp
  unfold parse
  dsimp only
  rw [if_neg hhelp, hp]

theorem asks_of_ofWords {word : String} {p : Provider} (hp : p.Named word) {rest : List String} {c : Command}
    (h : ofWords p rest = .ok c) : Asks (word :: rest) c := by
  unfold ofWords at h
  split at h
  · cases h
  · split at h
    · rename_i hr
      cases h
      rw [List.isEmpty_iff.1 hr]
      exact .token hp
    · cases h
  · split at h
    · rename_i hr
      cases h
      rw [List.isEmpty_iff.1 hr]
      exact .apiBase hp
    · cases h
  · split at h
    · rename_i hr
      cases h
      rw [List.isEmpty_iff.1 hr]
      exact .status hp
    split at h
    · rename_i hr
      cases h
      rw [eq_of_beq hr]
      exact .statusJson hp
    · cases h
  · cases h

/-- **A line is read as the command that it asks for**, and refused if it asks for none. -/
theorem parse_eq_ok {arguments : List String} {c : Command} : parse arguments = .ok c ↔ Asks arguments c := by
  constructor
  · intro h
    unfold parse at h
    split at h
    · cases h
      exact .nothing
    split at h
    · rename_i hw
      cases h
      exact .help (isHelp_iff.1 hw) _
    split at h
    · rename_i hp
      exact asks_of_ofWords (Provider.parse?_eq_some.1 hp) h
    · cases h
  · intro h
    cases h with
    | nothing => rfl
    | help hw rest =>
      unfold parse
      dsimp only
      rw [if_pos (isHelp_iff.2 hw)]
    | token hp => exact parse_named hp _
    | apiBase hp => exact parse_named hp _
    | status hp => exact parse_named hp _
    | statusJson hp => exact parse_named hp _

theorem Asks.unique {arguments : List String} {c c' : Command} (h : Asks arguments c) (h' : Asks arguments c') :
    c = c' :=
  Except.ok.inj ((parse_eq_ok.2 h).symm.trans (parse_eq_ok.2 h'))

theorem not_asks {arguments : List String} {e : UsageError} (h : parse arguments = .error e) (c : Command) :
    ¬Asks arguments c := by
  intro hc
  rw [parse_eq_ok.2 hc] at h
  cases h

/-! ## What comes of a run -/

variable {arguments : List String} {c : Command} {env : Environment} {around : Surroundings} {host : Host}

theorem run_misused {e : UsageError} (h : parse arguments = .error e) (env : Environment) (around : Surroundings)
    (host : Host) : run arguments env around host = ⟨2, "", "oauth-cache: " ++ e.message ++ "\n", host⟩ := by
  unfold run
  rw [h]
  rfl

theorem run_done (h : Asks arguments c) {text : String} (hv : (execute env around c host).value = .ok text) :
    (run arguments env around host).exitCode = 0 ∧ (run arguments env around host).output = text ++ "\n" ∧
      (run arguments env around host).host = (execute env around c host).host := by
  unfold run
  rw [parse_eq_ok.2 h]
  dsimp only
  rw [hv]
  exact ⟨rfl, rfl, rfl⟩

theorem run_failed (h : Asks arguments c) {e : AuthError} (hv : (execute env around c host).value = .error e) :
    (run arguments env around host).exitCode = 1 ∧ (run arguments env around host).output = "" ∧
      ∃ log, (run arguments env around host).errors =
        log ++ ("oauth-cache: " ++ e.message ++ " (status " ++ toString e.status ++ ")\n") := by
  unfold run
  rw [parse_eq_ok.2 h]
  dsimp only
  rw [hv]
  refine ⟨rfl, rfl, eventLines (Verbosity.ofSetting (env "RUST_LOG")) (execute env around c host).trace, ?_⟩
  simp [failureLine, describe, toString, String.append_assoc]

/-- **Only a call for a token can fail.** -/
theorem execute_eq_error {e : AuthError} (h : (execute env around c host).value = .error e) : ∃ p, c = .token p := by
  cases c with
  | token p => exact ⟨p, rfl⟩
  | help => cases h
  | apiBase p => cases h
  | status p json => cases h

/-- **What a run of a line comes to**, by what the line asks for. -/
structure Conforms (arguments : List String) (env : Environment) (around : Surroundings) (host : Host)
    (told : CommandResult) : Prop where
  misused : told.exitCode = 2 ↔ ∀ c, ¬Asks arguments c
  /-- No host is read or changed, and no endpoint has any part in it. -/
  untouched : told.exitCode = 2 → ∃ message, ∀ env around host,
    run arguments env around host = ⟨2, "", "oauth-cache: " ++ message ++ "\n", host⟩
  failed : told.exitCode = 1 ↔
    ∃ p e, Asks arguments (.token p) ∧ ((authenticator p env).accessToken around host).value = .error e
  otherwise : told.exitCode = 0 ∨ told.exitCode = 1 ∨ told.exitCode = 2
  silent : told.exitCode ≠ 0 → told.output = ""
  reason : ∀ p e, Asks arguments (.token p) → ((authenticator p env).accessToken around host).value = .error e →
    ∃ log, told.errors = log ++ ("oauth-cache: " ++ e.message ++ " (status " ++ toString e.status ++ ")\n")
  token : ∀ p token, Asks arguments (.token p) → ((authenticator p env).accessToken around host).value = .ok token →
    told.exitCode = 0 ∧ told.output = token ++ "\n"
  apiBase : ∀ p, Asks arguments (.apiBase p) →
    told.exitCode = 0 ∧ told.output = ((authenticator p env).apiBase host).value ++ "\n"
  status : ∀ p json, Asks arguments (.status p json) →
    told.exitCode = 0 ∧ told.output = statusText ((authenticator p env).status host).value json ++ "\n"
  help : Asks arguments .help → told.exitCode = 0 ∧ told.output = helpText ++ "\n"

theorem conforms_misused {e : UsageError} (h : parse arguments = .error e) (env : Environment) (around : Surroundings)
    (host : Host) : Conforms arguments env around host (run arguments env around host) := by
  have hn := not_asks h
  rw [run_misused h]
  exact {
    misused := ⟨fun _ => hn, fun _ => rfl⟩
    untouched := fun _ => ⟨e.message, run_misused h⟩
    failed := ⟨nofun, fun ⟨_, _, hc, _⟩ => absurd hc (hn _)⟩
    otherwise := .inr (.inr rfl)
    silent := fun _ => rfl
    reason := fun _ _ hc => absurd hc (hn _)
    token := fun _ _ hc => absurd hc (hn _)
    apiBase := fun _ hc => absurd hc (hn _)
    status := fun _ _ hc => absurd hc (hn _)
    help := fun hc => absurd hc (hn _) }

theorem conforms_done (h : Asks arguments c) {text : String} (hv : (execute env around c host).value = .ok text) :
    Conforms arguments env around host (run arguments env around host) := by
  obtain ⟨hx, ho, -⟩ := run_done h hv
  refine ⟨?_, ?_, ?_, .inl hx, fun hn => absurd hx hn, ?_, ?_, ?_, ?_, ?_⟩
  · rw [hx]
    exact ⟨nofun, fun hn => absurd h (hn c)⟩
  · rw [hx]
    exact nofun
  · rw [hx]
    refine ⟨nofun, fun ⟨p, e, hc, he⟩ => ?_⟩
    obtain rfl := h.unique hc
    cases hv.symm.trans he
  · intro p e hc he
    obtain rfl := h.unique hc
    cases hv.symm.trans he
  · intro p token hc ht
    obtain rfl := h.unique hc
    cases hv.symm.trans ht
    exact ⟨hx, ho⟩
  · intro p hc
    obtain rfl := h.unique hc
    cases hv
    exact ⟨hx, ho⟩
  · intro p json hc
    obtain rfl := h.unique hc
    cases hv
    exact ⟨hx, ho⟩
  · intro hc
    obtain rfl := h.unique hc
    cases hv
    exact ⟨hx, ho⟩

theorem conforms_failed (h : Asks arguments c) {e : AuthError} (hv : (execute env around c host).value = .error e) :
    Conforms arguments env around host (run arguments env around host) := by
  obtain ⟨hx, ho, hlog⟩ := run_failed h hv
  obtain ⟨p, rfl⟩ := execute_eq_error hv
  refine ⟨?_, ?_, ?_, .inr (.inl hx), fun _ => ho, ?_, ?_, ?_, ?_, ?_⟩
  · rw [hx]
    exact ⟨nofun, fun hn => absurd h (hn _)⟩
  · rw [hx]
    exact nofun
  · exact ⟨fun _ => ⟨p, e, h, hv⟩, fun _ => hx⟩
  · intro p' e' hc he
    cases h.unique hc
    cases hv.symm.trans he
    exact hlog
  · intro p' token hc ht
    cases h.unique hc
    cases hv.symm.trans ht
  -- it asks for a token, and so for nothing else
  · exact fun p' hc => nomatch h.unique hc
  · exact fun p' json hc => nomatch h.unique hc
  · exact fun hc => nomatch h.unique hc

/-- **The grammar decides what a run comes to**, on every host and with any endpoint. -/
theorem run_conforms (arguments : List String) (env : Environment) (around : Surroundings) (host : Host) :
    Conforms arguments env around host (run arguments env around host) := by
  cases h : parse arguments with
  | error e => exact conforms_misused h env around host
  | ok c =>
    have hc := parse_eq_ok.1 h
    cases hv : (execute env around c host).value with
    | ok text => exact conforms_done hc hv
    | error e => exact conforms_failed hc hv

end Command
end TokenCache
