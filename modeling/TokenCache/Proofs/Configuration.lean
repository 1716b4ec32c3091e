import Mathlib.Logic.Function.Basic
import TokenCache.Proofs.Components
import TokenCache.Provider
/-!
# What a configuration depends on

A configuration is the provider's profile with six variables put into five of its fields.  Of a variable only the
trimmed value counts, and only if it is not blank; other variables do not count at all, and no variable reaches a field
but its own (`config_of_settings`).

A path that opens with `~/` is joined to the home directory, and so lies under it, unless what follows is itself an
absolute path: then the home directory has no say (`tilde_path`).
-/
namespace TokenCache
namespace Provider

/-! ## The variables -/

inductive Variable
  | tokenFile
  | tokenDir
  | apiBase
  | clientId
  | clientSecret
  | refreshLock
  deriving DecidableEq

namespace Variable

def all : List Variable := [tokenFile, tokenDir, apiBase, clientId, clientSecret, refreshLock]

def suffix : Variable → String
  | tokenFile => "TOKEN_FILE"
  | tokenDir => "TOKEN_DIR"
  | apiBase => "API_BASE"
  | clientId => "CLIENT_ID"
  | clientSecret => "CLIENT_SECRET"
  | refreshLock => "REFRESH_LOCK"

/-- A config with a value put into the field of a variable. -/
def override (home value : String) (c : Config) : Variable → Config
  | tokenFile => { c with credentialPath := expandHome home value }
  | tokenDir => { c with credentialPath := Path.join (expandHome home value) credentialFileName }
  | apiBase => { c with defaultApiBase := value }
  | clientId => { c with clientId := value }
  | clientSecret => { c with clientSecret := some value }
  | refreshLock => { c with refreshLock := isSet value }

/-- A config with the field of a variable taken back from another. -/
def restore (original c : Config) : Variable → Config
  | tokenFile | tokenDir => { c with credentialPath := original.credentialPath }
  | apiBase => { c with defaultApiBase := original.defaultApiBase }
  | clientId => { c with clientId := original.clientId }
  | clientSecret => { c with clientSecret := original.clientSecret }
  | refreshLock => { c with refreshLock := original.refreshLock }

theorem forall_iff {P : Variable → Prop} : (∀ v, P v) ↔
    P tokenFile ∧ P tokenDir ∧ P apiBase ∧ P clientId ∧ P clientSecret ∧ P refreshLock :=
  ⟨fun h => ⟨h _, h _, h _, h _, h _, h _⟩, fun h v => by cases v <;> simp [h]⟩

theorem suffix_inj {v w : Variable} : v.suffix = w.suffix ↔ v = w := by
  cases v <;> cases w <;> simp [suffix]

end Variable

def variableName (p : Provider) (v : Variable) : String :=
  p.variablePrefix ++ "_" ++ v.suffix

theorem variableName_inj {p : Provider} {v w : Variable} : p.variableName v = p.variableName w ↔ v = w := by
  unfold variableName
  rw [String.append_right_inj, Variable.suffix_inj]

/-- **No variable belongs to two providers.** -/
theorem variableName_ne {p q : Provider} (h : q ≠ p) (v w : Variable) : q.variableName v ≠ p.variableName w := by
  intro he
  have hhead := congrArg (fun s => s.toList.head?) he
  cases p <;> cases q <;> first | exact h rfl | simp [variableName, variablePrefix] at hhead

/-! ## Settings -/

variable {p : Provider} {home : String} {env env' : Environment}

theorem setting?_suffix (p : Provider) (env : Environment) (v : Variable) :
    p.setting? env v.suffix = (env (p.variableName v)).bind Text.nonBlank? :=
  rfl

/-- **A config is made of the settings of its provider.** -/
theorem config_congr (home : String) (h : ∀ v : Variable, p.setting? env' v.suffix = p.setting? env v.suffix) :
    p.config home env' = p.config home env := by
  obtain ⟨hfile, hdir, hbase, hid, hsecret, hlock⟩ := Variable.forall_iff.1 h
  simp only [Variable.suffix] at hfile hdir hbase hid hsecret hlock
  unfold config credentialPath?
  rw [hfile, hdir, hbase, hid, hsecret, hlock]

theorem nonBlank?_of_blank {s : String} (h : Text.blank s = true) : Text.nonBlank? s = none :=
  if_pos h

theorem setting?_trimmed (v : Variable) :
    p.setting? (fun name => (env name).map Text.trim) v.suffix = p.setting? env v.suffix := by
  rw [setting?_suffix, setting?_suffix]
  cases env (p.variableName v) with
  | none => rfl
  | some s => rw [Option.map_some, Option.bind_some, Option.bind_some, Text.nonBlank?_trim]

theorem setting?_unblanked (v : Variable) :
    p.setting? (fun name => (env name).filter fun s => !Text.blank s) v.suffix = p.setting? env v.suffix := by
  rw [setting?_suffix, setting?_suffix]
  cases env (p.variableName v) with
  | none => rfl
  | some s =>
    by_cases hb : Text.blank s = true
    · rw [Option.filter_some_neg (by simp [hb]), Option.bind_none, Option.bind_some, nonBlank?_of_blank hb]
    · rw [Option.filter_some_pos (by simp [hb])]

theorem setting?_update (v w : Variable) (value : Option String) :
    p.setting? (Function.update env (p.variableName v) value) w.suffix =
      if w = v then value.bind Text.nonBlank? else p.setting? env w.suffix := by
  rw [setting?_suffix, setting?_suffix, Function.update_apply]
  by_cases h : w = v
  · rw [if_pos (variableName_inj.2 h), if_pos h]
  · rw [if_neg (variableName_inj.not.2 h), if_neg h]

/-! ## The fields of a config -/

/-- **A variable reaches its own field only.** -/
theorem restore_update (p : Provider) (home : String) (env : Environment) (v : Variable) (value : Option String) :
    v.restore (p.config home env) (p.config home (Function.update env (p.variableName v) value)) =
      p.config home env := by
  have hother : ∀ w : Variable, w ≠ v →
      p.setting? (Function.update env (p.variableName v) value) w.suffix = p.setting? env w.suffix := fun w hw => by
    rw [setting?_update, if_neg hw]
  -- nothing else of the changed environment counts
  generalize Function.update env (p.variableName v) value = env' at hother ⊢
  cases v <;> simp_all [config, credentialPath?, Variable.restore, Variable.forall_iff, Variable.suffix]

/-- **The file does not count where there is a directory.** -/
theorem config_update_tokenFile {dir : String} (h : p.setting? env "TOKEN_DIR" = some dir) (value : Option String) :
    p.config home (Function.update env (p.variableName .tokenFile) value) = p.config home env := by
  have hdir : p.setting? (Function.update env (p.variableName .tokenFile) value) "TOKEN_DIR" = some dir :=
    (setting?_update .tokenFile .tokenDir value).trans h
  have hpath : (p.config home (Function.update env (p.variableName .tokenFile) value)).credentialPath =
      (p.config home env).credentialPath := by
    simp only [config, credentialPath?, hdir, h]
  -- every other field stays anyway
  have hrest := restore_update p home env .tokenFile value
  rw [← hrest]
  unfold Variable.restore
  rw [← hpath]

/-- **A setting is in its field**, but for that of the file where there is a directory. -/
theorem override_config {v : Variable} {value : String} (h : p.setting? env v.suffix = some value)
    (hfile : v = .tokenFile → p.setting? env "TOKEN_DIR" = none) :
    v.override home value (p.config home env) = p.config home env := by
  cases v <;> simp only [Variable.suffix] at h <;> simp_all [config, credentialPath?, Variable.override]

/-- **A field without a setting is that of the profile.** -/
theorem restore_defaults {v : Variable} (h : p.setting? env v.suffix = none)
    (hfile : v = .tokenFile → p.setting? env "TOKEN_DIR" = none)
    (hdir : v = .tokenDir → p.setting? env "TOKEN_FILE" = none) :
    v.restore (p.defaults home) (p.config home env) = p.config home env := by
  cases v <;> simp only [Variable.suffix] at h <;> simp_all [config, credentialPath?, Variable.restore]

theorem restore_all (p : Provider) (home : String) (env : Environment) :
    Variable.all.foldl (fun c v => v.restore (p.defaults home) c) (p.config home env) = p.defaults home := by
  cases p <;> rfl

/-- **What a config takes from an environment.**  Environments count as the same if they have the same settings: so if
all values are trimmed, if blank ones are unset, and if any variables are changed that are not the provider's own. -/
structure Configured (p : Provider) (home : String) (env : Environment) : Prop where
  settings : ∀ env' : Environment,
    (∀ v : Variable, (env' (p.variableName v)).bind Text.nonBlank? = (env (p.variableName v)).bind Text.nonBlank?) →
      p.config home env' = p.config home env
  trimmed : p.config home (fun name => (env name).map Text.trim) = p.config home env
  unblanked : p.config home (fun name => (env name).filter fun s => !Text.blank s) = p.config home env
  own : ∀ env' : Environment, (∀ v : Variable, env' (p.variableName v) = env (p.variableName v)) →
    p.config home env' = p.config home env
  others : ∀ q : Provider, q ≠ p → ∀ (v : Variable) (value : Option String),
    p.config home (Function.update env (q.variableName v) value) = p.config home env
  directory : (p.setting? env "TOKEN_DIR").isSome = true → ∀ value : Option String,
    p.config home (Function.update env (p.variableName .tokenFile) value) = p.config home env
  field : ∀ (v : Variable) (value : Option String),
    v.restore (p.config home env) (p.config home (Function.update env (p.variableName v) value)) = p.config home env
  set : ∀ (v : Variable) (value : String), p.setting? env v.suffix = some value →
    (v = .tokenFile → p.setting? env "TOKEN_DIR" = none) → v.override home value (p.config home env) = p.config home env
  unset : ∀ v : Variable, p.setting? env v.suffix = none → (v = .tokenFile → p.setting? env "TOKEN_DIR" = none) →
    (v = .tokenDir → p.setting? env "TOKEN_FILE" = none) →
      v.restore (p.defaults home) (p.config home env) = p.config home env
  rest : Variable.all.foldl (fun c v => v.restore (p.defaults home) c) (p.config home env) = p.defaults home

/-- **A config depends on the settings of its provider alone**, each of which is in one field. -/
theorem config_of_settings (p : Provider) (home : String) (env : Environment) : Configured p home env where
  settings _ h := config_congr home h
  trimmed := config_congr home setting?_trimmed
  unblanked := config_congr home setting?_unblanked
  own _ h := config_congr home fun v => by rw [setting?_suffix, setting?_suffix, h v]
  others q hq v value := config_congr home fun w => by
    rw [setting?_suffix, setting?_suffix, Function.update_of_ne (variableName_ne hq v w).symm]
  directory h value := by
    obtain ⟨dir, hdir⟩ := Option.isSome_iff_exists.1 h
    exact config_update_tokenFile hdir value
  field := restore_update p home env
  set _ _ := override_config
  unset _ := restore_defaults
  rest := restore_all p home env

/-! ## Paths under the home directory -/

theorem expandHome_tilde (home rest : String) : expandHome home ("~/" ++ rest) = Path.join home rest := by
  unfold expandHome
  rw [String.toList_append, show "~/".toList = ['~', '/'] from rfl]
  simp

/-- The credential path that `~/` and a rest stand for, as a file or as a directory. -/
inductive Tilde (p : Provider) (env : Environment) (rest : String) : Prop
  | file (hd : p.setting? env "TOKEN_DIR" = none) (hf : p.setting? env "TOKEN_FILE" = some ("~/" ++ rest))
  | directory (hd : p.setting? env "TOKEN_DIR" = some ("~/" ++ rest))

namespace Tilde

variable {rest : String}

theorem credentialPath_under (h : Tilde p env rest) (home : String) :
    (Path.components (Path.join home rest)).steps <+:
      (Path.components (p.config home env).credentialPath).steps := by
  rw [← expandHome_tilde]
  cases h with
  | file hd hf => simp [config, credentialPath?, hd, hf]
  | directory hd =>
    have hpath : (p.config home env).credentialPath =
        Path.join (expandHome home ("~/" ++ rest)) credentialFileName := by
      simp [config, credentialPath?, hd]
    rw [hpath]
    exact Path.steps_join _ rfl

theorem credentialPath_of_absolute (h : Tilde p env rest) (hr : Path.isAbsolute rest = true) (home home' : String) :
    (p.config home' env).credentialPath = (p.config home env).credentialPath := by
  cases h with
  | file hd hf => simp [config, credentialPath?, hd, hf, expandHome_tilde, Path.join_of_absolute _ hr]
  | directory hd => simp [config, credentialPath?, hd, expandHome_tilde, Path.join_of_absolute _ hr]

end Tilde

/-- **A tilde path lies under the home directory**, unless what follows its slash opens with another one: then it lies
under that, wherever the home directory is. -/
theorem tilde_path {rest : String} (home : String) (h : Tilde p env rest) :
    let path := (p.config home env).credentialPath
    (Path.isAbsolute rest = false → (Path.components home).steps <+: (Path.components path).steps) ∧
      (Path.isAbsolute rest = true → (Path.components rest).steps <+: (Path.components path).steps ∧
        ∀ home', (p.config home' env).credentialPath = path) := by
  have hunder := h.credentialPath_under home
  refine ⟨fun hr => (Path.steps_join home hr).trans hunder, fun hr => ⟨?_, h.credentialPath_of_absolute hr home⟩⟩
  rw [Path.join_of_absolute home hr] at hunder
  exact hunder

def onlyVariable (name value : String) : Environment :=
  Function.update (fun _ => none) name (some value)

/-- Blanks around the path, a slash after the home directory and pieces that do not count make no difference. -/
theorem tilde_path_of_directory :
    let env := onlyVariable "GEMINI_OAUTH_TOKEN_DIR" " ~/./x/../y/ "
    Tilde gemini env "./x/../y/" ∧ Path.isAbsolute "./x/../y/" = false ∧
      (Path.components "/home/u/").steps <+: (Path.components (gemini.config "/home/u/" env).credentialPath).steps := by
  intro env
  have h : Tilde gemini env "./x/../y/" := .directory (by decide +kernel)
  exact ⟨h, by decide, (tilde_path "/home/u/" h).1 (by decide)⟩

/-- **A second slash leaves the home directory.** -/
theorem second_slash_leaves_home :
    let env := onlyVariable "QWEN_OAUTH_TOKEN_FILE" "~//x"
    qwen.setting? env "TOKEN_DIR" = none ∧ qwen.setting? env "TOKEN_FILE" = some ("~/" ++ "/x") ∧
      (qwen.config "/home/u" env).credentialPath = "/x" ∧
      ¬(Path.components "/home/u").steps <+: (Path.components (qwen.config "/home/u" env).credentialPath).steps := by
  decide +kernel

end Provider
end TokenCache
