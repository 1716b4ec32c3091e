import TokenCache.Run
/-!
# Effects of runs

What a run shows besides its events: its value, the host after it, the requests it sends, the failures it reports, the
saves that did not land (`unsaved`) and the files between two of its operations (`snapshots`).  A run that sends and
reports nothing and has no save that failed (`Silent`) can be left out of an account of the first five (`Like.after`).
-/
namespace TokenCache

variable {α β : Type}

/-! ## One run after another -/

theorem Run.bind_value (r : Run α) (f : α → Run β) (host : Host) :
    ((r >>= f) host).value = (f (r host).value (r host).host).value :=
  rfl

theorem Run.bind_host (r : Run α) (f : α → Run β) (host : Host) :
    ((r >>= f) host).host = (f (r host).value (r host).host).host :=
  rfl

theorem Run.files_bind (f : FileSystem → Run α) (host : Host) : (Run.files >>= f) host = f host.files host :=
  rfl

theorem Run.bind_of_eq {r : Run α} {f : α → Run β} {host : Host} {o : Outcome α} (h : r host = o) :
    (r >>= f) host = ⟨(f o.value o.host).value, (f o.value o.host).host, o.trace ++ (f o.value o.host).trace⟩ := by
  subst h
  rfl

theorem Run.bind_of_idle {r : Run α} {f : α → Run β} {host : Host} {a : α} (h : r host = ⟨a, host, []⟩) :
    (r >>= f) host = f a host := by
  rw [Run.bind_of_eq h]
  rfl

theorem Run.perform_ok {change : FileSystem.Change} (host : Host) {fs : FileSystem} (h : change host.files = .ok fs) :
    Run.perform change host = ⟨.ok (), { host with files := fs }, [.files fs]⟩ := by
  unfold Run.perform
  rw [h]

theorem Run.perform_error {change : FileSystem.Change} (host : Host) {e : OsError} (h : change host.files = .error e) :
    Run.perform change host = ⟨.error e, host, []⟩ := by
  unfold Run.perform
  rw [h]

namespace Outcome

/-! ## Snapshots -/

/-- The files as each operation of the run left them. -/
def snapshots (o : Outcome α) : List FileSystem :=
  o.trace.filterMap fun
    | .files fs => some fs
    | _ => none

theorem snapshots_bind (r : Run α) (f : α → Run β) (host : Host) :
    ((r >>= f) host).snapshots = (r host).snapshots ++ (f (r host).value (r host).host).snapshots :=
  List.filterMap_append

/-- **Files that a run leaves at every point**, and at its end. -/
structure Throughout (P : FileSystem → Prop) (o : Outcome α) : Prop where
  after : P o.host.files
  between : ∀ fs ∈ o.snapshots, P fs

namespace Throughout

variable {P : FileSystem → Prop}

theorem idle {a : α} {host : Host} (h : P host.files) : (⟨a, host, []⟩ : Outcome α).Throughout P :=
  ⟨h, nofun⟩

theorem one {a : α} {host : Host} (h : P host.files) : (⟨a, host, [.files host.files]⟩ : Outcome α).Throughout P :=
  ⟨h, fun _ hfs => List.mem_singleton.1 hfs ▸ h⟩

theorem mono {Q : FileSystem → Prop} {o : Outcome α} (hq : ∀ fs, P fs → Q fs) (h : o.Throughout P) : o.Throughout Q :=
  ⟨hq _ h.after, fun fs hfs => hq fs (h.between fs hfs)⟩

theorem bind {r : Run α} {f : α → Run β} {host : Host} (h : (r host).Throughout P)
    (h' : (f (r host).value (r host).host).Throughout P) : ((r >>= f) host).Throughout P := by
  refine ⟨h'.after, fun fs hfs => ?_⟩
  rw [snapshots_bind] at hfs
  rcases List.mem_append.1 hfs with hfs | hfs
  · exact h.between fs hfs
  · exact h'.between fs hfs

theorem perform {change : FileSystem.Change} {host : Host} (h : P host.files)
    (h' : ∀ fs, change host.files = .ok fs → P fs) : (Run.perform change host).Throughout P := by
  cases hc : change host.files with
  | ok fs =>
    rw [Run.perform_ok host hc]
    exact one (h' fs hc)
  | error e =>
    rw [Run.perform_error host hc]
    exact idle h

end Throughout

/-! ## Saves that fail -/

/-- **Why saves of the run did not land**, one failure for each; observed or not, it is among the events. -/
def unsaved (o : Outcome α) : List AuthError :=
  o.trace.filterMap fun
    | .event _ (.notPersisted _ e) => some e
    | _ => none

theorem unsaved_bind (r : Run α) (f : α → Run β) (host : Host) :
    ((r >>= f) host).unsaved = (r host).unsaved ++ (f (r host).value (r host).host).unsaved :=
  List.filterMap_append

/-! ## Silence -/

/-- No request was sent, no failure reported, and no save failed. -/
structure Silent (o : Outcome α) : Prop where
  requests : o.requests = []
  reports : o.reports = []
  unsaved : o.unsaved = []

theorem Silent.bind {r : Run α} {f : α → Run β} {host : Host} (h : (r host).Silent)
    (h' : (f (r host).value (r host).host).Silent) : ((r >>= f) host).Silent :=
  ⟨by rw [requests_bind, h.requests, h'.requests]; rfl, by rw [reports_bind, h.reports, h'.reports]; rfl,
    by rw [unsaved_bind, h.unsaved, h'.unsaved]; rfl⟩

/-! ## Likeness -/

/-- Two outcomes that differ at most in what else was logged and in the files on the way. -/
structure Like (o o' : Outcome α) : Prop where
  value : o.value = o'.value
  host : o.host = o'.host
  requests : o.requests = o'.requests
  reports : o.reports = o'.reports
  unsaved : o.unsaved = o'.unsaved

namespace Like

theorem rfl {o : Outcome α} : o.Like o :=
  ⟨Eq.refl _, Eq.refl _, Eq.refl _, Eq.refl _, Eq.refl _⟩

theorem trans {o o' o'' : Outcome α} (h : o.Like o') (h' : o'.Like o'') : o.Like o'' :=
  ⟨h.value.trans h'.value, h.host.trans h'.host, h.requests.trans h'.requests, h.reports.trans h'.reports,
    h.unsaved.trans h'.unsaved⟩

/-- **After a silent run only what follows counts.** -/
theorem after {r : Run α} {f : α → Run β} {host : Host} (h : (r host).Silent) :
    ((r >>= f) host).Like (f (r host).value (r host).host) :=
  ⟨Eq.refl _, Eq.refl _, by rw [requests_bind, h.requests]; exact List.nil_append _,
    by rw [reports_bind, h.reports]; exact List.nil_append _,
    by rw [unsaved_bind, h.unsaved]; exact List.nil_append _⟩

theorem before_release {r : Run α} {lock : String} {host : Host} :
    ((do let a ← r; Run.log (.lockReleased lock); return a : Run α) host).Like (r host) :=
  ⟨Eq.refl _, Eq.refl _, by rw [requests_bind]; exact List.append_nil _, by rw [reports_bind]; exact List.append_nil _,
    by rw [unsaved_bind]; exact List.append_nil _⟩

end Like
end Outcome
end TokenCache
