import TokenCache.Proofs.FileSystem.Contents
import TokenCache.Proofs.Refusal
/-!
# What a refresh discloses

A refresh token and a client secret go into the request and into the saved file.  Everything else that a refresh shows,
its events, its reports and its result, has them as fingerprints only: two refreshes with other secrets of the same
fingerprints cannot be told apart by it (`reveals_fingerprints_only`).

The two runs are followed side by side.  Up to the save they work on the same host, and from there on their hosts differ
in what one file holds (`Indistinct`); no file operation of a save asks for that (`replaceFile_indistinct`).
-/
namespace TokenCache

open FileSystem (AlikeBut)

/-! ## Two runs side by side -/

/-- Whether a signal goes to a log or to an observer. -/
def Signal.isDisclosed : Signal → Bool
  | event _ _ => true
  | report _ => true
  | _ => false

namespace Outcome

variable {α β : Type}

/-- **What a run tells**, in order: its events, each with its time, and its reports. -/
def disclosed (o : Outcome α) : List Signal :=
  o.trace.filter Signal.isDisclosed

theorem disclosed_bind (r : Run α) (f : α → Run β) (host : Host) :
    ((r >>= f) host).disclosed = (r host).disclosed ++ (f (r host).value (r host).host).disclosed :=
  List.filter_append _ _

theorem events_of_disclosed (o : Outcome α) : o.events = o.disclosed.filterMap fun
    | .event _ e => some e
    | _ => none := by
  unfold events disclosed
  rw [List.filterMap_filter]
  congr 1
  funext s
  cases s <;> rfl

theorem reports_of_disclosed (o : Outcome α) : o.reports = o.disclosed.filterMap fun
    | .report e => some e
    | _ => none := by
  unfold reports disclosed
  rw [List.filterMap_filter]
  congr 1
  funext s
  cases s <;> rfl

/-- **Two outcomes that nobody tells apart** by their values or by what they tell; the files after them differ at most
in what one file holds. -/
structure Indistinct (o o' : Outcome α) : Prop where
  value : o.value = o'.value
  disclosed : o.disclosed = o'.disclosed
  clock : o.host.clock = o'.host.clock
  files : ∃ l, AlikeBut l o.host.files o'.host.files

namespace Indistinct

variable {r r' : Run α} {f f' : α → Run β} {host host' : Host}

theorem refl (o : Outcome α) : o.Indistinct o :=
  ⟨rfl, rfl, rfl, [], .refl _ _⟩

theorem events {o o' : Outcome α} (h : o.Indistinct o') : o.events = o'.events := by
  rw [events_of_disclosed, events_of_disclosed, h.disclosed]

theorem reports {o o' : Outcome α} (h : o.Indistinct o') : o.reports = o'.reports := by
  rw [reports_of_disclosed, reports_of_disclosed, h.disclosed]

/-- Where two runs lead to one host, what follows starts from there. -/
theorem after (hv : (r host).value = (r' host).value) (hh : (r host).host = (r' host).host)
    (hd : (r host).disclosed = (r' host).disclosed)
    (h : (f (r host).value (r host).host).Indistinct (f' (r host).value (r host).host)) :
    ((r >>= f) host).Indistinct ((r' >>= f') host) := by
  obtain ⟨value, told, clock, files⟩ := h
  refine ⟨?_, ?_, ?_, ?_⟩
  · rw [Run.bind_value, Run.bind_value, ← hv, ← hh, value]
  · rw [disclosed_bind, disclosed_bind, ← hv, ← hh, hd, told]
  · rw [Run.bind_host, Run.bind_host, ← hv, ← hh, clock]
  · rw [Run.bind_host, Run.bind_host, ← hv, ← hh]
    exact files

/-- The same run comes first. -/
theorem same (h : (f (r host).value (r host).host).Indistinct (f' (r host).value (r host).host)) :
    ((r >>= f) host).Indistinct ((r >>= f') host) :=
  after rfl rfl rfl h

/-- **After two runs that nobody tells apart** one can go on with what asks for nothing but the clock. -/
theorem bind (h : (r host).Indistinct (r' host'))
    (hf : ∀ a (after after' : Host), after.clock = after'.clock → (∃ l, AlikeBut l after.files after'.files) →
      (f a after).Indistinct (f a after')) : ((r >>= f) host).Indistinct ((r' >>= f) host') := by
  obtain ⟨value, told, clock, files⟩ := hf (r host).value _ _ h.clock h.files
  refine ⟨?_, ?_, ?_, ?_⟩
  · rw [Run.bind_value, Run.bind_value, ← h.value, value]
  · rw [disclosed_bind, disclosed_bind, ← h.value, h.disclosed, told]
  · rw [Run.bind_host, Run.bind_host, ← h.value, clock]
  · rw [Run.bind_host, Run.bind_host, ← h.value]
    exact files

end Indistinct
end Outcome

open Outcome (Indistinct)

/-! ## Saving one content or another -/

namespace Store

variable {made fs fs' : FileSystem} {temporary : Location} {content content' : List UInt8}

theorem WithFile.alikeBut (h : WithFile made temporary content fs) (h' : WithFile made temporary content' fs') :
    AlikeBut temporary fs fs' := by
  refine ⟨h.current.trans h'.current.symm, fun l hl => ?_, ?_⟩
  · rw [h.get?, h'.get?, if_neg hl, if_neg hl]
  · rw [h.get?, h'.get?, if_pos rfl, if_pos rfl]
    rfl

theorem WithFile.unlink_alikeBut (hl : temporary ≠ []) (h : WithFile made temporary content fs)
    (h' : WithFile made temporary content' fs') : AlikeBut temporary (fs.unlink temporary) (fs'.unlink temporary) := by
  have hg : ∀ l, (fs.unlink temporary).get? l = (fs'.unlink temporary).get? l := by
    intro l
    rw [FileSystem.get?_unlink _ _ _ hl, FileSystem.get?_unlink _ _ _ hl]
    split
    · rfl
    · rename_i hne
      exact (h.alikeBut h').others l hne
  exact ⟨(h.alikeBut h').current, fun l _ => hg l, by rw [hg]⟩

/-- What two changes come to that are done both, or fail both for the same cause. -/
inductive Parallel : Except OsError FileSystem → Except OsError FileSystem → Prop
  | done {fs fs' : FileSystem} {l : Location} (h : AlikeBut l fs fs') : Parallel (.ok fs) (.ok fs')
  | failed (e : OsError) : Parallel (.error e) (.error e)

/-- **A file is moved whatever it holds.** -/
theorem moveTo_parallel (path : String) (hl : temporary ≠ []) (h : WithFile made temporary content fs)
    (h' : WithFile made temporary content' fs') :
    Parallel (FileSystem.moveTo temporary path fs) (FileSystem.moveTo temporary path fs') := by
  have ha := h.alikeBut h'
  have hg : fs.get? temporary = some (.file content 0o600) := by rw [h.get?, if_pos rfl]
  have hg' : fs'.get? temporary = some (.file content' 0o600) := by rw [h'.get?, if_pos rfl]
  unfold FileSystem.moveTo
  split
  · exact .failed _
  rw [ha.place]
  cases hp : fs'.place .busy path with
  | error e => exact .failed e
  | ok p =>
    simp only [bind, Except.bind, hg, hg']
    have hd : fs.get? p.location = some .directory ↔ fs'.get? p.location = some .directory := by
      by_cases he : p.location = temporary
      · rw [he, hg, hg']
        simp
      · rw [ha.others _ he]
    split
    · exact .failed _
    by_cases ht : fs'.get? p.location = some .directory
    · rw [if_pos ht, if_pos (hd.2 ht)]
      exact .failed _
    · rw [if_neg ht, if_neg fun ht' => ht (hd.1 ht')]
      have hr := FileSystem.place_ne_root hp
      refine .done (l := p.location) ⟨ha.current, fun l hne => ?_, ?_⟩
      · rw [FileSystem.get?_put _ _ _ _ hr, FileSystem.get?_put _ _ _ _ hr, if_neg hne, if_neg hne,
          FileSystem.get?_unlink _ _ _ hl, FileSystem.get?_unlink _ _ _ hl]
        split
        · rfl
        · rename_i ht
          exact ha.others l ht
      · rw [FileSystem.get?_put _ _ _ _ hr, FileSystem.get?_put _ _ _ _ hr, if_pos rfl, if_pos rfl]
        rfl

/-- **A file is replaced by one content as by another.** -/
theorem replaceBy_indistinct (directory path : String) (content content' : List UInt8) (host : Host) :
    (replaceBy directory path content host).Indistinct (replaceBy directory path content' host) := by
  unfold replaceBy
  cases ht : host.files.temporaryIn directory with
  | ok temporary =>
    obtain ⟨fs₀, h₀, ho⟩ := openTemporary_ok ht
    have hl := FileSystem.temporaryIn_ne_root ht
    refine .same ?_
    rw [ho]
    obtain ⟨fs₁, fs₂, -, h₂, hf⟩ := fillAndMove_apply path content ⟨fs₀, host.clock⟩ hl h₀
    obtain ⟨fs₁', fs₂', -, h₂', hf'⟩ := fillAndMove_apply path content' ⟨fs₀, host.clock⟩ hl h₀
    dsimp only
    have hm := moveTo_parallel path hl h₂ h₂'
    generalize FileSystem.moveTo temporary path fs₂ = moved at hf hm
    generalize FileSystem.moveTo temporary path fs₂' = moved' at hf' hm
    cases hm with
    | done ha =>
      rw [Run.bind_of_eq hf, Run.bind_of_eq hf']
      exact ⟨rfl, rfl, rfl, _, ha⟩
    | failed e =>
      rw [Run.bind_of_eq hf, Run.bind_of_eq hf']
      exact ⟨rfl, rfl, rfl, _, h₂.unlink_alikeBut hl h₂'⟩
  | error e =>
    refine .same ?_
    rw [openTemporary_error ht]
    exact .refl _

theorem replaceFile_indistinct (path : String) (content content' : List UInt8) (host : Host) :
    (replaceFile path content host).Indistinct (replaceFile path content' host) := by
  unfold replaceFile
  refine .same ?_
  cases (Directory.ensure (Path.directory path) host).value with
  | error e => exact .refl _
  | ok u => exact replaceBy_indistinct _ path content content' _

/-- **A save tells nothing of the record.** -/
theorem save_indistinct (s : Store) (r r' : Record) (host : Host) : (s.save r host).Indistinct (s.save r' host) := by
  have htry : (s.trySave r host).Indistinct (s.trySave r' host) := by
    unfold trySave
    refine (replaceFile_indistinct s.path r.bytes r'.bytes host).bind fun result after after' hc hf => ?_
    cases result <;> exact ⟨rfl, rfl, hc, hf⟩
  unfold save
  refine htry.bind fun result after after' hc hf => ?_
  cases result with
  | ok u => exact ⟨rfl, rfl, hc, hf⟩
  | error e =>
    have hreport : (s.reportFailure e after).Indistinct (s.reportFailure e after') := by
      rw [reportFailure_apply, reportFailure_apply, hc]
      exact ⟨rfl, rfl, hc, hf⟩
    exact hreport.bind fun _ _ _ hc hf => ⟨rfl, rfl, hc, hf⟩

end Store

/-! ## Refreshing with one secret or another -/

/-- **Refresh tokens and client secrets of the same fingerprints**, the tokens as they stand and trimmed. -/
structure SameFingerprints (used used' : String) (secret secret' : Option String) : Prop where
  token : Fingerprint.ofText used = Fingerprint.ofText used'
  trimmed : Fingerprint.ofToken used = Fingerprint.ofToken used'
  secret : secret.map Fingerprint.ofText = secret'.map Fingerprint.ofText

namespace Refresh

variable {c : Config} {used used' : String} {secret' : Option String}

theorem shown_of_fingerprint {key value value' : String} (hk : TokenRequest.isSecret key = true)
    (h : Fingerprint.ofText value = Fingerprint.ofText value') :
    TokenRequest.shown (key, value) = TokenRequest.shown (key, value') := by
  unfold TokenRequest.shown
  rw [if_pos hk, if_pos hk, h]

theorem shown_secret {secret secret' : Option String}
    (h : secret.map Fingerprint.ofText = secret'.map Fingerprint.ofText) :
    (secret.map fun s => ("client_secret", s)).toList.map TokenRequest.shown =
      (secret'.map fun s => ("client_secret", s)).toList.map TokenRequest.shown := by
  match secret, secret' with
  | none, none => rfl
  | none, some s => simp at h
  | some s, none => simp at h
  | some s, some s' =>
    simp only [Option.map_some, Option.some.injEq] at h
    simp only [Option.map_some, Option.toList_some, List.map_cons, List.map_nil]
    rw [shown_of_fingerprint (by decide) h]

/-- **A request is shown by the fingerprints of its secrets.** -/
theorem redacted_refresh (h : SameFingerprints used used' c.clientSecret secret') :
    (c.refreshRequest used).redacted = ({ c with clientSecret := secret' }.refreshRequest used').redacted := by
  unfold Config.refreshRequest TokenRequest.refresh TokenRequest.redacted
  dsimp only
  rw [List.map_append, List.map_append, shown_secret h.secret]
  simp only [List.map_cons, List.map_nil]
  rw [shown_of_fingerprint (by decide) h.token]

theorem announce_host (c : Config) (used : String) (host : Host) : (announce c used host).host = host :=
  rfl

theorem announce_disclosed (c : Config) (used : String) (host : Host) : (announce c used host).disclosed =
    [.event host.clock (.refreshing c.name c.tokenEndpoint (Fingerprint.ofToken used))] :=
  rfl

theorem persist_indistinct (store : Store) (grant : Grant) (used used' : String) (host : Host) :
    (persist store grant used host).Indistinct (persist store grant used' host) := by
  unfold persist
  exact .same (.same (store.save_indistinct _ _ _))

theorem receive_indistinct (store : Store) (h : SameFingerprints used used' c.clientSecret secret') (answer : Answer)
    (host : Host) :
    (receive c store used answer host).Indistinct
      (receive { c with clientSecret := secret' } store used' answer host) := by
  unfold receive
  cases hg : grant? answer with
  | error refusal =>
    have he : refusal.toAuthError c.displayName (c.refreshRequest used) =
        refusal.toAuthError c.displayName ({ c with clientSecret := secret' }.refreshRequest used') := by
      unfold Refusal.toAuthError Refusal.exchange
      rw [redacted_refresh h]
    dsimp only
    rw [he]
    exact .refl _
  | ok grant =>
    refine (persist_indistinct store grant used used' host).bind fun persisted after after' hc hf => ?_
    exact ⟨rfl, by rw [Outcome.disclosed_bind, Outcome.disclosed_bind]; unfold Run.log; rw [hc]; rfl, hc, hf⟩

end Refresh

/-- **What a refresh tells depends on its secrets by their fingerprints only.**  Two refreshes from one host with the
same answer, whose refresh tokens and client secrets have the same fingerprints, report the same events and failures,
give the same result, and leave the same files but for what one of them holds. -/
theorem reveals_fingerprints_only (c : Config) (store : Store) (endpoint endpoint' : Endpoint) (host : Host)
    {used used' : String} {secret' : Option String} (h : SameFingerprints used used' c.clientSecret secret')
    (ha : endpoint (c.refreshRequest used) host =
      endpoint' ({ c with clientSecret := secret' }.refreshRequest used') host) :
    let o := Refresh.run c store endpoint used host
    let o' := Refresh.run { c with clientSecret := secret' } store endpoint' used' host
    o.value = o'.value ∧ o.events = o'.events ∧ o.reports = o'.reports ∧ o.Indistinct o' := by
  intro o o'
  have hrun : o.Indistinct o' := by
    refine .after (Subsingleton.elim _ _) ((Refresh.announce_host _ _ _).trans (Refresh.announce_host _ _ _).symm) ?_ ?_
    · rw [Refresh.announce_disclosed, Refresh.announce_disclosed, h.trimmed]
    · rw [Refresh.announce_host]
      refine .after (congrArg Prod.fst ha) (congrArg Prod.snd ha) rfl ?_
      exact Refresh.receive_indistinct store h _ _
  exact ⟨hrun.value, hrun.events, hrun.reports, hrun⟩

/-! ## An example -/

/-- Two tokens with one fingerprint, f82a5fb3b544cc08. -/
def firstToken : String := "rt-353151a8f7ea5833"

def secondToken : String := "rt-03508de651e8d730"

theorem tokens_sameFingerprints : SameFingerprints firstToken secondToken (some secondToken) (some firstToken) := by
  have h : Fingerprint.ofText firstToken = Fingerprint.ofText secondToken := by decide +kernel
  have htrim : Text.trim firstToken = firstToken ∧ Text.trim secondToken = secondToken := by decide
  refine ⟨h, ?_, congrArg some h.symm⟩
  unfold Fingerprint.ofToken
  rw [htrim.1, htrim.2, h]

/-- The provider of the example with a client secret. -/
def confidential (secret : String) : Config :=
  { Provider.gemini.defaults "home" with clientSecret := some secret }

/-- The requests differ, and the rejection, which shows its request, is the same. -/
theorem tokens_not_told_apart :
    let rejecting : Endpoint := fun _ host => (.ok ⟨400, "\x7b\"error\":\"invalid_grant\"\x7d"⟩, host)
    let o := Refresh.run (confidential secondToken) ⟨"f", true⟩ rejecting firstToken ⟨⟨[], []⟩, 0⟩
    let o' := Refresh.run (confidential firstToken) ⟨"f", true⟩ rejecting secondToken ⟨⟨[], []⟩, 0⟩
    o.requests ≠ o'.requests ∧ o.value = o'.value ∧ o.events = o'.events ∧ o.reports = o'.reports := by
  intro rejecting o o'
  obtain ⟨hv, he, hr, -⟩ := reveals_fingerprints_only (confidential secondToken) ⟨"f", true⟩ rejecting rejecting
    ⟨⟨[], []⟩, 0⟩ tokens_sameFingerprints rfl
  exact ⟨by decide +kernel, hv, he, hr⟩

end TokenCache
