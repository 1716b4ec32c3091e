import TokenCache.Proofs.FileSystem.Making
import TokenCache.Proofs.Landing
/-!
# Saving is all or nothing

A save that is done has put the whole file at the place of the path, and one that is not has added directories at most
(`trySave_all_or_nothing`).  The same holds at every point between two of its operations: until the file is moved, all
that was there is still there, and what is new are directories on the way and a temporary file (`Pending`).

So the path names what it named before, or nothing as before.  There are two exceptions (`path_names_otherwise`): a path
that leads through a directory which has to be made, and back by `..`, begins to name something when the directory is
made; and one that leads through the link that it names ceases to when the link is replaced.
-/
namespace TokenCache
namespace Store

open FileSystem (Grows Temporary Rooted Descending Reached)

variable {host : Host} {path : String} {content : List UInt8}

/-! ## Between two operations -/

def Scratch (l : Location) (e : Entry) : Prop :=
  (∃ name dir, l = name :: dir ∧ Temporary name) ∧ ∃ content, e = .file content 0o600

/-- The path does not end in a name for temporary files. -/
def Foreign (path : String) : Prop :=
  ∀ name, FileSystem.lastName? path = some name → ¬Temporary name

/-- **The files before the save is done.**  What the path named and what could be read through it is unchanged.  What is
at its place, if it named one, is unchanged too, or there is nothing as before; and in files where every entry is in a
directory the path names nothing, if it named nothing before and does not go up after its first missing name. -/
structure Pending (path : String) (before fs : FileSystem) : Prop where
  grows : Grows (fun l e => DirectoryOn (Path.directory path) fs l e ∨ Scratch l e) before fs
  named : ∀ e, before.status? path = some e → fs.status? path = some e
  read : ∀ content, before.readFile path = .ok content → fs.readFile path = .ok content
  held : Foreign path → ∀ p, before.place .busy path = .ok p →
    fs.place .busy path = .ok p ∧ fs.get? p.location = before.get? p.location
  absent : Foreign path → Rooted before → Descending before path → before.status? path = none → fs.status? path = none

theorem replaceBy_snapshots (directory path : String) (content : List UInt8) (host : Host) :
    ∀ fs ∈ (replaceBy directory path content host).snapshots, Grows Scratch host.files fs ∨
      ((replaceBy directory path content host).value = .ok () ∧
        fs = (replaceBy directory path content host).host.files) := by
  cases ht : host.files.temporaryIn directory with
  | ok temporary =>
    obtain ⟨fs₀, fs₁, fs₂, h₀, h₁, h₂, hr⟩ := replaceBy_apply path content ht
    obtain ⟨hname, hn⟩ := FileSystem.temporaryIn_fresh ht
    have hl := FileSystem.temporaryIn_ne_root ht
    have hscratch : ∀ {content fs}, WithFile host.files temporary content fs → Grows Scratch host.files fs :=
      fun h => (h.grows hn).mono fun l e ⟨hle, he⟩ => ⟨hle ▸ hname, _, he⟩
    rw [hr]
    cases hm : FileSystem.moveTo temporary path fs₂ with
    | ok fs₃ =>
      intro fs hfs
      simp only [Outcome.snapshots, List.filterMap_cons, List.filterMap_nil, List.mem_cons, List.not_mem_nil,
        or_false] at hfs
      rcases hfs with rfl | rfl | rfl | rfl
      · exact .inl (hscratch h₀)
      · exact .inl (hscratch h₁)
      · exact .inl (hscratch h₂)
      · exact .inr ⟨rfl, rfl⟩
    | error e =>
      intro fs hfs
      simp only [Outcome.snapshots, List.filterMap_cons, List.filterMap_nil, List.mem_cons, List.not_mem_nil,
        or_false] at hfs
      rcases hfs with rfl | rfl | rfl | rfl
      · exact .inl (hscratch h₀)
      · exact .inl (hscratch h₁)
      · exact .inl (hscratch h₂)
      · exact .inl (grows_of_get?_eq h₂.current (h₂.unlink hn hl))
  | error e =>
    rw [replaceBy_error path content ht]
    exact nofun

/-- The files while directories are made on the way to the path. -/
structure Making (path : String) (before made : FileSystem) : Prop where
  grows : Grows (DirectoryOn (Path.directory path) made) before made
  reached : Rooted before → Descending before path → Reached before (Path.directory path) made
  placed : ∀ p, before.place .busy path = .ok p → made = before

theorem ensure_making (path : String) (host : Host) :
    (Directory.ensure (Path.directory path) host).Throughout (Making path host.files) := by
  have ha := Directory.ensure_adds (Path.directory path) host
  have hr := fun h hu => Directory.ensure_reached (Path.directory path) host h (FileSystem.descending_directory hu)
  have hp : ∀ p, host.files.place .busy path = .ok p →
      Directory.ensure (Path.directory path) host = ⟨.ok (), host, []⟩ :=
    fun p hp => Directory.ensure_of_directory (FileSystem.resolve_directory hp)
  refine ⟨⟨ha.grows, fun h hu => (hr h hu).after, fun p h => by rw [hp p h]⟩, fun fs hfs => ?_⟩
  refine ⟨ha.between fs hfs, fun h hu => (hr h hu).between fs hfs, fun p h => ?_⟩
  rw [hp p h] at hfs
  cases hfs

theorem replaceFile_snapshots (path : String) (content : List UInt8) (host : Host) :
    ∀ fs ∈ (replaceFile path content host).snapshots, (∃ made, Making path host.files made ∧ Grows Scratch made fs) ∨
      ((replaceFile path content host).value = .ok () ∧ fs = (replaceFile path content host).host.files) := by
  have hm := ensure_making path host
  unfold replaceFile
  generalize Directory.ensure (Path.directory path) = making at hm ⊢
  rw [Run.bind_value, Run.bind_host, Outcome.snapshots_bind]
  intro fs hfs
  rcases List.mem_append.1 hfs with hfs | hfs
  · exact .inl ⟨fs, hm.between fs hfs, .refl _ _⟩
  · cases hv : (making host).value with
    | error e =>
      rw [hv] at hfs
      cases hfs
    | ok u =>
      rw [hv] at hfs
      exact (replaceBy_snapshots _ _ _ _ fs hfs).imp (fun hs => ⟨_, hm.after, hs⟩) id

theorem pending_of_making {path : String} {before made fs : FileSystem} (hm : Making path before made)
    (hs : Grows Scratch made fs) : Pending path before fs := by
  have hmade := hm.grows.mono fun l e => directoryOn_lasting _ _ _ l e (hs.mono fun _ _ _ => trivial)
  have hg := (hmade.mono fun _ _ => Or.inl).trans (hs.mono fun _ _ => Or.inr)
  refine ⟨hg, fun e => hg.status?, fun c => hg.readFile, fun hf p hp => ⟨hg.place hp, ?_⟩, fun hf hr hu => ?_⟩
  · rw [hm.placed p hp] at hs
    cases hb : before.get? p.location with
    | some e => exact hs.kept _ _ hb
    | none =>
      refine Option.eq_none_iff_forall_ne_some.2 fun e he => ?_
      rcases hs.added _ _ he with he' | ⟨⟨name, dir, hl, ht⟩, -⟩
      · rw [hb] at he'
        cases he'
      · obtain ⟨name', dir', hl', hn⟩ := FileSystem.lastName?_of_place hp
        rw [hl] at hl'
        exact hf name' hn ((List.cons.inj hl').1 ▸ ht)
  · refine FileSystem.status?_of_reached hr hu (hm.reached hr hu) (hs.mono ?_)
    rintro l e ⟨⟨name, dir, hl, ht⟩, content, he⟩
    exact ⟨⟨name, dir, hl, fun hn => hf name hn ht⟩, content, _, he⟩

/-! ## The whole save -/

/-- **What a save that is done has changed**: the entry at the place of the path is the record's file.  If it was a
link, what it led to is as it was, as every other entry; new besides are directories on the way. -/
structure Saved (s : Store) (r : Record) (before after : FileSystem) (made : FileSystem) (p : FileSystem.Place) :
    Prop where
  landed : Landed s r before after made p
  file : after.get? p.location = some (.file r.bytes 0o600)
  kept : ∀ l e, l ≠ p.location → before.get? l = some e → after.get? l = some e
  added : ∀ l e, l ≠ p.location → after.get? l = some e →
    before.get? l = some e ∨ DirectoryOn (Path.directory s.path) made l e
  target : ∀ t l content mode, before.get? p.location = some (.link t) →
    before.resolve .followed s.path = .ok (.found l (.file content mode)) → after.get? l = some (.file content mode)

theorem saved_of_landed {s : Store} {r : Record} {before after made : FileSystem} {p : FileSystem.Place}
    (h : Landed s r before after made p) : Saved s r before after made p := by
  have hkept : ∀ l e, l ≠ p.location → before.get? l = some e → after.get? l = some e := by
    intro l e hl he
    rw [h.replaced.get?, if_neg hl]
    exact h.grows.kept l e he
  refine ⟨h, h.replaced.get?_self, hkept, fun l e hl he => ?_, fun t l content mode ht hr => ?_⟩
  · rw [h.replaced.get?, if_neg hl] at he
    exact h.grows.added l e he
  · have hf := (FileSystem.resolve_eq_ok.1 hr).2.get?_found
    refine hkept l _ ?_ hf
    rintro rfl
    rw [ht] at hf
    cases hf

/-- **A save, from the files before it, and at every point until it is over.** -/
structure AllOrNothing (s : Store) (r : Record) (before : FileSystem) (o : Outcome (Except AuthError Unit)) : Prop where
  saved : o.value = .ok () → ∃ made p, Saved s r before o.host.files made p
  failed : ∀ e, o.value = .error e → (∃ detail, e = .persistFailed s.path detail) ∧ Missed s before o.host.files
  between : ∀ fs ∈ o.snapshots, Pending s.path before fs ∨ (o.value = .ok () ∧ fs = o.host.files)

theorem trySave_snapshots (s : Store) (r : Record) (host : Host) :
    (s.trySave r host).snapshots = (replaceFile s.path r.bytes host).snapshots := by
  unfold trySave
  rw [Outcome.snapshots_bind]
  cases (replaceFile s.path r.bytes host).value <;> exact List.append_nil _

/-- **Saving is all or nothing**, at every point. -/
theorem trySave_all_or_nothing (s : Store) (r : Record) (host : Host) :
    AllOrNothing s r host.files (s.trySave r host) := by
  obtain ⟨hh, hv, -⟩ := trySave_apply s r host
  have ho := (replaceFile_outcome s.path r.bytes host).1
  have hb := replaceFile_snapshots s.path r.bytes host
  have hs := trySave_snapshots s r host
  generalize s.trySave r host = o at hh hv hs ⊢
  generalize replaceFile s.path r.bytes host = replaced at hh hv ho hb hs
  rw [← hh] at ho hb
  cases hw : replaced.value with
  | ok u =>
    rw [hw] at hv ho hb
    refine ⟨fun _ => ?_, fun e he => ?_, fun fs hfs => ?_⟩
    · obtain ⟨made, p, hg, hrep⟩ := ho
      exact ⟨made, p, saved_of_landed (landed_of_replaced hg hrep)⟩
    · rw [hv] at he
      cases he
    · exact (hb fs (hs ▸ hfs)).imp (fun ⟨_, hm, hg⟩ => pending_of_making hm hg) fun h => ⟨hv, h.2⟩
  | error e =>
    rw [hw] at hv ho hb
    refine ⟨fun h => ?_, fun e' he => ?_, fun fs hfs => ?_⟩
    · rw [hv] at h
      cases h
    · rw [hv] at he
      cases he
      exact ⟨⟨_, rfl⟩, ho, fun e he => Grows.status? ho he⟩
    · rcases hb fs (hs ▸ hfs) with ⟨_, hm, hg⟩ | ⟨h, -⟩
      · exact .inl (pending_of_making hm hg)
      · cases h

/-- **A path can name something else on the way**: after a save through the link that it led through it names nothing,
and while a directory is made that it leads through, and back, it names that directory. -/
theorem path_names_otherwise :
    (trySave ⟨"x/../x", true⟩ nestedRecord ⟨linked, 0⟩).value = .ok () ∧
      (trySave ⟨"x/../x", true⟩ nestedRecord ⟨linked, 0⟩).host.files.status? "x/../x" = none ∧
      FileSystem.status? ⟨[], []⟩ "a/../a" = none ∧
      ((trySave ⟨"a/../a", true⟩ nestedRecord ⟨⟨[], []⟩, 0⟩).snapshots.any
        fun fs => fs.status? "a/../a" == some .directory) = true := by
  refine ⟨?_, by decide +kernel, by decide +kernel, by decide +kernel⟩
  have h : (trySave ⟨"x/../x", true⟩ nestedRecord ⟨linked, 0⟩).value.isOk = true := by decide +kernel
  generalize (trySave ⟨"x/../x", true⟩ nestedRecord ⟨linked, 0⟩).value = v at h
  cases v with
  | ok u => rfl
  | error e => cases h

end Store
end TokenCache
