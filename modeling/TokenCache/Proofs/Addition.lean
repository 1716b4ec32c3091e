import TokenCache.Proofs.Effects
import TokenCache.Proofs.FileSystem.Growth
import TokenCache.RefreshLock
/-!
# Runs that only add

Making directories and opening the lock file change no entry that is there, send nothing and report nothing (`Adds`).
What they add are directories named by the path or by one above it (`ensure_adds`), and the file that the lock path
leads to (`openFile_adds`).
-/
namespace TokenCache

open FileSystem (Grows)

variable {α β : Type}

/-- Entries that stay of a kind while a file system grows. -/
def Lasting (new : FileSystem → Location → Entry → Prop) : Prop :=
  ∀ fs fs' l e, Grows (fun _ _ => True) fs fs' → new fs l e → new fs' l e

/-- **A run that only adds entries of one kind**, read in the files it leaves, at every point. -/
structure Adds (new : FileSystem → Location → Entry → Prop) (r : Run α) (host : Host) : Prop where
  grows : Grows (new (r host).host.files) host.files (r host).host.files
  clock : (r host).host.clock = host.clock
  silent : (r host).Silent
  between : ∀ fs ∈ (r host).snapshots, Grows (new fs) host.files fs

namespace Adds

variable {new : FileSystem → Location → Entry → Prop} {host : Host}

theorem pure (a : α) : Adds new (pure a : Run α) host :=
  ⟨Grows.refl _ _, rfl, ⟨rfl, rfl, rfl⟩, nofun⟩

theorem files : Adds new Run.files host :=
  ⟨Grows.refl _ _, rfl, ⟨rfl, rfl, rfl⟩, nofun⟩

theorem mono {new' : FileSystem → Location → Entry → Prop} {r : Run α} (hn : ∀ fs l e, new fs l e → new' fs l e)
    (h : Adds new r host) : Adds new' r host :=
  ⟨h.grows.mono (hn _), h.clock, h.silent, fun fs hfs => (h.between fs hfs).mono (hn fs)⟩

theorem bind (hl : Lasting new) {r : Run α} {f : α → Run β} (h : Adds new r host)
    (h' : Adds new (f (r host).value) (r host).host) : Adds new (r >>= f) host := by
  have hlater : ∀ fs, Grows (new fs) (r host).host.files fs → Grows (new fs) host.files fs := fun fs hg =>
    (h.grows.mono fun l e => hl _ _ l e (hg.mono fun _ _ _ => trivial)).trans hg
  refine ⟨hlater _ h'.grows, h'.clock.trans h.clock, h.silent.bind h'.silent, fun fs hfs => ?_⟩
  rw [Outcome.snapshots_bind] at hfs
  rcases List.mem_append.1 hfs with hfs | hfs
  · exact h.between fs hfs
  · exact hlater fs (h'.between fs hfs)

theorem perform {change : FileSystem.Change}
    (h : ∀ fs, change host.files = .ok fs → Grows (new fs) host.files fs) : Adds new (Run.perform change) host := by
  cases hc : change host.files with
  | ok fs =>
    have hg := h fs hc
    have ho := Run.perform_ok host hc
    refine ⟨by rw [ho]; exact hg, by rw [ho], by rw [ho]; exact ⟨rfl, rfl, rfl⟩, fun fs' hfs => ?_⟩
    rw [ho] at hfs
    cases List.mem_singleton.1 hfs
    exact hg
  | error e =>
    have ho := Run.perform_error host hc
    refine ⟨by rw [ho]; exact .refl _ _, by rw [ho], by rw [ho]; exact ⟨rfl, rfl, rfl⟩, fun fs' hfs => ?_⟩
    rw [ho] at hfs
    cases hfs

end Adds

/-! ## Directories -/

/-- The paths above a path. -/
inductive Path.Above : String → String → Prop
  | parent {path above : String} (h : Path.parent? path = some above) : Above path above
  | further {path above q : String} (h : Path.parent? path = some above) (h' : Above above q) : Above path q

/-- An entry is at the place that a path names. -/
def Named (path : String) (fs : FileSystem) (l : Location) : Prop :=
  ∃ p, fs.place .busy path = .ok p ∧ p.location = l

/-- A directory that a path names, or one above it. -/
def DirectoryOn (path : String) (fs : FileSystem) (l : Location) (e : Entry) : Prop :=
  e = .directory ∧ ∃ q, (q = path ∨ Path.Above path q) ∧ Named q fs l

theorem directoryOn_lasting (path : String) : Lasting (DirectoryOn path) := by
  rintro fs fs' l e h ⟨he, q, hq, p, hp, hl⟩
  exact ⟨he, q, hq, p, h.place hp, hl⟩

namespace Directory

theorem makeDirectory_adds (path : String) (host : Host) :
    Adds (DirectoryOn path) (Run.perform (FileSystem.makeDirectory path)) host := by
  refine Adds.perform fun fs h => ?_
  obtain ⟨p, hp, hg, rfl⟩ := FileSystem.makeDirectory_eq_ok h
  have hgrow : Grows (fun _ _ => True) host.files (host.files.put p.location .directory) := Grows.put hg trivial
  exact Grows.put hg ⟨rfl, path, .inl rfl, p, FileSystem.place_unnamed _ (hgrow.place hp), rfl⟩

theorem make_adds (path : String) (host : Host) : Adds (DirectoryOn path) (make path) host := by
  refine (makeDirectory_adds path host).bind (directoryOn_lasting path) ?_
  split
  · exact .pure _
  · exact Adds.files.bind (directoryOn_lasting path) (.pure _)

theorem ensureWithin_adds : ∀ (n : Nat) (path : String) (host : Host),
    Adds (DirectoryOn path) (ensureWithin n path) host
  | 0, path, host => .pure _
  | n + 1, path, host => by
    have hl := directoryOn_lasting path
    unfold ensureWithin
    split
    · exact .pure _
    refine (makeDirectory_adds path host).bind hl ?_
    split
    · exact .pure _
    · cases hp : Path.parent? path with
      | none => exact .pure _
      | some parent =>
        -- what is made above the parent is above the path
        have hup : ∀ fs l e, DirectoryOn parent fs l e → DirectoryOn path fs l e := by
          rintro fs l e ⟨he, q, hq, hn⟩
          refine ⟨he, q, .inr ?_, hn⟩
          rcases hq with rfl | hq
          · exact .parent hp
          · exact .further hp hq
        refine ((ensureWithin_adds n parent _).mono hup).bind hl ?_
        split
        · exact make_adds path _
        · exact .pure _
    · exact Adds.files.bind hl (.pure _)

/-- **Making a directory adds directories on the way to it only.** -/
theorem ensure_adds (path : String) (host : Host) : Adds (DirectoryOn path) (ensure path) host :=
  ensureWithin_adds _ path host

end Directory

/-! ## The lock file -/

/-- The file that the lock path leads to, or a directory that a path above it names. -/
def LockEntry (lock : RefreshLock) (fs : FileSystem) (l : Location) (e : Entry) : Prop :=
  (e = .file [] 0o644 ∧ fs.resolve .followed lock.path = .ok (.found l e)) ∨
    (e = .directory ∧ ∃ q, Path.Above lock.path q ∧ Named q fs l)

theorem lockEntry_lasting (lock : RefreshLock) : Lasting (LockEntry lock) := by
  rintro fs fs' l e h (⟨he, hr⟩ | ⟨he, q, hq, p, hp, hl⟩)
  · exact .inl ⟨he, h.resolve hr⟩
  · exact .inr ⟨he, q, hq, p, h.place hp, hl⟩

namespace RefreshLock

theorem perform_openFile_adds (lock : RefreshLock) (host : Host) :
    Adds (LockEntry lock) (Run.perform (FileSystem.openFile lock.path)) host := by
  refine Adds.perform fun fs h => ?_
  rcases FileSystem.openFile_eq_ok h with rfl | ⟨dir, name, hv, rfl⟩
  · exact .refl _ _
  obtain ⟨hc, hl⟩ := FileSystem.resolve_eq_ok.1 hv
  have hg : Grows (fun _ _ => True) host.files (host.files.put (name :: dir) (.file [] 0o644)) :=
    Grows.put hl.get?_vacant trivial
  refine Grows.put hl.get?_vacant (.inl ⟨rfl, FileSystem.resolve_eq_ok.2 ⟨hc, ?_⟩⟩)
  rw [hg.current]
  exact (hl.fill hg.ways (by rw [FileSystem.get?_put _ _ _ _ (by simp), if_pos rfl])).followed

/-- **Opening the lock file adds it and directories on the way to it only.** -/
theorem openFile_adds (lock : RefreshLock) (host : Host) : Adds (LockEntry lock) lock.openFile host := by
  refine Adds.bind (lockEntry_lasting lock) ?_ ?_
  · cases hp : Path.parent? lock.path with
    | none => exact .pure _
    | some parent =>
      refine (Directory.ensure_adds parent host).mono ?_
      rintro fs l e ⟨he, q, hq, hn⟩
      refine .inr ⟨he, q, ?_, hn⟩
      rcases hq with rfl | hq
      · exact .parent hp
      · exact .further hp hq
  · split
    · exact .pure _
    · exact perform_openFile_adds lock _

end RefreshLock
end TokenCache
