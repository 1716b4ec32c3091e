import TokenCache.Proofs.Addition
import TokenCache.Proofs.FileSystem.Parents
import TokenCache.Store
/-!
# Loading and saving

Loading reads the record that the files hold at the path (`load_value`), and leaves everything as it was.  Saving makes
the directories on the way, and then either puts the whole content at the place of the path and changes no other entry,
or adds nothing else (`replaceFile_outcome`).  A save that fails is logged, and reported if there is an observer
(`save_outcome`).
-/
namespace TokenCache

open FileSystem (Grows)

namespace Store

/-! ## Loading -/

/-- The record that the files hold at the path, if there is one. -/
def recordIn (s : Store) (fs : FileSystem) : Option Record :=
  match fs.readFile s.path with
  | .ok content => (Record.parse content).toOption
  | .error _ => none

theorem load_apply (s : Store) (host : Host) :
    (s.load host).value = s.recordIn host.files ∧ (s.load host).host = host ∧ (s.load host).Silent := by
  unfold load recordIn
  rw [Run.bind_apply]
  cases hf : host.files.readFile s.path with
  | error e =>
    simp only [Run.files, hf]
    exact ⟨rfl, rfl, rfl, rfl, rfl⟩
  | ok content =>
    simp only [Run.files, hf]
    cases Record.parse content with
    | error e => exact ⟨rfl, rfl, rfl, rfl, rfl⟩
    | ok r => exact ⟨rfl, rfl, rfl, rfl, rfl⟩

theorem load_value (s : Store) (host : Host) : (s.load host).value = s.recordIn host.files :=
  (load_apply s host).1

theorem load_host (s : Store) (host : Host) : (s.load host).host = host :=
  (load_apply s host).2.1

theorem load_silent (s : Store) (host : Host) : (s.load host).Silent :=
  (load_apply s host).2.2

/-- **A record that is there is still there after growth.** -/
theorem recordIn_grows {s : Store} {new : Location → Entry → Prop} {fs fs' : FileSystem} {r : Record}
    (h : Grows new fs fs') (hr : s.recordIn fs = some r) : s.recordIn fs' = some r := by
  unfold recordIn at hr ⊢
  split at hr
  · rename_i content hf
    rw [h.readFile hf]
    exact hr
  · cases hr

/-! ## The temporary file -/

/-- The files with one more, at a place where there is nothing else. -/
structure WithFile (made : FileSystem) (l : Location) (content : List UInt8) (fs : FileSystem) : Prop where
  current : fs.current = made.current
  get? : ∀ l', fs.get? l' = if l' = l then some (.file content 0o600) else made.get? l'

theorem WithFile.put {made fs : FileSystem} {l : Location} {before content : List UInt8} (hl : l ≠ [])
    (h : WithFile made l before fs) : WithFile made l content (fs.put l (.file content 0o600)) := by
  refine ⟨h.current, fun l' => ?_⟩
  rw [FileSystem.get?_put _ _ _ _ hl, h.get?]
  split <;> rfl

/-- The temporary file is all that is new. -/
theorem WithFile.grows {made fs : FileSystem} {l : Location} {content : List UInt8} (hn : made.get? l = none)
    (h : WithFile made l content fs) : Grows (fun l' e => l' = l ∧ e = .file content 0o600) made fs := by
  refine ⟨h.current, fun l' e hl => ?_, fun l' e hl => ?_⟩
  · rw [h.get?, if_neg, hl]
    rintro rfl
    rw [hn] at hl
    cases hl
  · rw [h.get?] at hl
    split at hl
    · rename_i he
      cases hl
      exact .inr ⟨he, rfl⟩
    · exact .inl hl

/-- Without the temporary file everything is as before. -/
theorem WithFile.unlink {made fs : FileSystem} {l : Location} {content : List UInt8} (hn : made.get? l = none)
    (hl : l ≠ []) (h : WithFile made l content fs) (l' : Location) : (fs.unlink l).get? l' = made.get? l' := by
  rw [FileSystem.get?_unlink _ _ _ hl, h.get?]
  split
  · rename_i he
    rw [he, hn]
  · rfl

variable {directory : String} {host : Host} {temporary : Location}

theorem openTemporary_error {e : OsError} (h : host.files.temporaryIn directory = .error e) :
    openTemporary directory host = ⟨.error e, host, []⟩ := by
  unfold openTemporary
  rw [Run.files_bind, h]
  rfl

theorem openTemporary_ok (h : host.files.temporaryIn directory = .ok temporary) :
    ∃ fs, WithFile host.files temporary [] fs ∧
      openTemporary directory host = ⟨.ok temporary, { host with files := fs }, [.files fs]⟩ := by
  obtain ⟨⟨name, dir, rfl, -⟩, hg⟩ := FileSystem.temporaryIn_fresh h
  have hc : FileSystem.createAt (name :: dir) host.files = .ok (host.files.put (name :: dir) (.file [] 0o600)) := by
    unfold FileSystem.createAt
    rw [hg]
  refine ⟨host.files.put (name :: dir) (.file [] 0o600),
    ⟨rfl, fun l => FileSystem.get?_put _ _ _ _ (List.cons_ne_nil name dir)⟩, ?_⟩
  unfold openTemporary
  rw [Run.files_bind, h]
  dsimp only
  rw [Run.bind_of_eq (Run.perform_ok host hc)]
  rfl

/-- **Filling the temporary file and moving it**: after two changes of that file alone, the move. -/
theorem fillAndMove_apply {made : FileSystem} (path : String) (content : List UInt8) (host : Host)
    (hl : temporary ≠ []) (h : WithFile made temporary [] host.files) :
    ∃ fs₁ fs₂, WithFile made temporary content fs₁ ∧ WithFile made temporary content fs₂ ∧
      fillAndMove temporary path content host = match FileSystem.moveTo temporary path fs₂ with
        | .ok fs₃ => ⟨.ok (), { host with files := fs₃ }, [.files fs₁, .files fs₂, .files fs₃]⟩
        | .error e => ⟨.error (.replacing path e), { host with files := fs₂ }, [.files fs₁, .files fs₂]⟩ := by
  have hw : FileSystem.writeAt temporary content host.files = .ok (host.files.put temporary (.file content 0o600)) := by
    unfold FileSystem.writeAt
    rw [h.get?, if_pos rfl]
  have h₁ : WithFile made temporary content (host.files.put temporary (.file content 0o600)) := h.put hl
  generalize host.files.put temporary (.file content 0o600) = fs₁ at hw h₁
  have hm : FileSystem.setModeAt temporary 0o600 fs₁ = .ok (fs₁.put temporary (.file content 0o600)) := by
    unfold FileSystem.setModeAt
    rw [h₁.get?, if_pos rfl]
  have h₂ : WithFile made temporary content (fs₁.put temporary (.file content 0o600)) := h₁.put hl
  generalize fs₁.put temporary (.file content 0o600) = fs₂ at hm h₂
  refine ⟨fs₁, fs₂, h₁, h₂, ?_⟩
  unfold fillAndMove
  rw [Run.bind_of_eq (Run.perform_ok host hw)]
  dsimp only
  rw [Run.bind_of_eq (Run.perform_ok ⟨fs₁, host.clock⟩ hm)]
  dsimp only
  cases hv : FileSystem.moveTo temporary path fs₂ with
  | ok fs₃ =>
    rw [Run.bind_of_eq (Run.perform_ok ⟨fs₂, host.clock⟩ hv)]
    rfl
  | error e =>
    rw [Run.bind_of_eq (Run.perform_error ⟨fs₂, host.clock⟩ hv)]
    rfl

/-! ## Saving -/

/-- **One file replaced**: `fs` is `made` with the content at the place of the path, and nothing else changed. -/
structure Replaced (made : FileSystem) (path : String) (content : List UInt8) (p : FileSystem.Place) (fs : FileSystem) :
    Prop where
  place : made.place .busy path = .ok p
  slash : p.slash = false
  target : made.get? p.location ≠ some .directory
  current : fs.current = made.current
  get? : ∀ l, fs.get? l = if l = p.location then some (.file content 0o600) else made.get? l

namespace Replaced

variable {made fs : FileSystem} {path : String} {content : List UInt8} {p : FileSystem.Place}

theorem get?_self (h : Replaced made path content p fs) : fs.get? p.location = some (.file content 0o600) := by
  rw [h.get?, if_pos rfl]

theorem place_of_clear (h : Replaced made path content p fs) (hc : FileSystem.Clear made path p) :
    fs.place .busy path = .ok p :=
  hc.place (FileSystem.place_ne_root h.place) h.current fun l hl => by rw [h.get?, if_neg hl]

/-- **The content is read through the path**, if the way to its place is clear. -/
theorem readFile (h : Replaced made path content p fs) (hc : FileSystem.Clear made path p) :
    fs.readFile path = .ok content :=
  FileSystem.readFile_of_place (h.place_of_clear hc) h.slash h.get?_self

/-- A way that leads to a place now was there before, and is clear. -/
theorem clear (h : Replaced made path content p fs) {p' : FileSystem.Place} (hp : fs.place .busy path = .ok p') :
    FileSystem.Clear made path p := by
  -- directories and links of the new files were there before, so the old way is the new one
  have hw : FileSystem.Ways fs made := by
    intro l x hx hl
    rw [h.get?] at hl
    split at hl
    · cases hl
      exact absurd rfl (hx content 0o600)
    · exact hl
  have hpl : fs.place .busy path = .ok p := by
    have := FileSystem.place_of_ways h.current.symm hw hp
    rw [h.place] at this
    rw [hp, this]
  exact FileSystem.clear_of_place (FileSystem.place_ne_root h.place) h.current (fun l hl => by rw [h.get?, if_neg hl])
    h.get?_self hpl

/-- **The path names the new file exactly if the way to its place is clear**, and nothing else in any case. -/
theorem status?_eq_some (h : Replaced made path content p fs) {e : Entry} :
    fs.status? path = some e ↔ FileSystem.Clear made path p ∧ e = .file content 0o600 := by
  have hstatus : ∀ hc : FileSystem.Clear made path p, fs.status? path = some (.file content 0o600) := fun hc =>
    FileSystem.status?_of_place (h.place_of_clear hc) h.slash h.get?_self
  refine ⟨fun he => ?_, fun ⟨hc, he⟩ => he ▸ hstatus hc⟩
  have hs : FileSystem.endsInSlash path = false := by rw [← FileSystem.endsInSlash_of_place h.place, h.slash]
  obtain ⟨hk, before, name, d, hb, ho, hd, hp⟩ := FileSystem.place_eq_ok.1 h.place
  obtain ⟨d', hd'⟩ := FileSystem.place_of_status? he hs hb ho
  have hc := h.clear hd'
  exact ⟨hc, Option.some.inj (he.symm.trans (hstatus hc))⟩

/-- **The path is read exactly if the way to its place is clear**, and gives the new content. -/
theorem readFile_eq_ok (h : Replaced made path content p fs) {c : List UInt8} :
    fs.readFile path = .ok c ↔ FileSystem.Clear made path p ∧ c = content := by
  refine ⟨fun hr => ?_, fun ⟨hc, he⟩ => he ▸ h.readFile hc⟩
  obtain ⟨p', hp', -, -⟩ := FileSystem.place_of_readFile hr
  have hc := h.clear hp'
  exact ⟨hc, Except.ok.inj (hr.symm.trans (h.readFile hc))⟩

end Replaced

theorem WithFile.moved {made fs fs' : FileSystem} {l : Location} {path : String} {content : List UInt8}
    (hn : made.get? l = none) (hl : l ≠ []) (h : WithFile made l content fs)
    (hm : FileSystem.moveTo l path fs = .ok fs') : ∃ p, Replaced made path content p fs' := by
  obtain ⟨p, e, hp, hs, hg, hd, rfl⟩ := FileSystem.moveTo_eq_ok hm
  rw [h.get?, if_pos rfl] at hg
  cases hg
  have hr := FileSystem.place_ne_root hp
  refine ⟨p, FileSystem.place_of_ways h.current.symm (fun l' e he hl' => ?_) hp, hs, fun ht => hd ?_, h.current,
    fun l' => ?_⟩
  · rw [h.get?] at hl'
    split at hl'
    · cases hl'
      exact absurd rfl (he content 0o600)
    · exact hl'
  · rw [h.get?, if_neg, ht]
    intro he
    rw [he, hn] at ht
    cases ht
  · rw [FileSystem.get?_put _ _ _ _ hr, h.unlink hn hl]

/-- The files differ in no entry. -/
theorem grows_of_get?_eq {new : Location → Entry → Prop} {fs fs' : FileSystem} (hc : fs'.current = fs.current)
    (h : ∀ l, fs'.get? l = fs.get? l) : Grows new fs fs' :=
  ⟨hc, fun l e hl => by rw [h, hl], fun l e hl => .inl (by rw [← h, hl])⟩

/-- **Replacing a file by way of a temporary one**: made, filled and given its mode, it is moved or, if it cannot be,
removed. -/
theorem replaceBy_apply (path : String) (content : List UInt8) (h : host.files.temporaryIn directory = .ok temporary) :
    ∃ fs₀ fs₁ fs₂, WithFile host.files temporary [] fs₀ ∧ WithFile host.files temporary content fs₁ ∧
      WithFile host.files temporary content fs₂ ∧
      replaceBy directory path content host = match FileSystem.moveTo temporary path fs₂ with
        | .ok fs₃ => ⟨.ok (), { host with files := fs₃ }, [.files fs₀, .files fs₁, .files fs₂, .files fs₃]⟩
        | .error e => ⟨.error (.replacing path e), { host with files := fs₂.unlink temporary },
            [.files fs₀, .files fs₁, .files fs₂, .files (fs₂.unlink temporary)]⟩ := by
  obtain ⟨fs₀, h₀, ho⟩ := openTemporary_ok h
  obtain ⟨fs₁, fs₂, h₁, h₂, hf⟩ :=
    fillAndMove_apply path content ⟨fs₀, host.clock⟩ (FileSystem.temporaryIn_ne_root h) h₀
  refine ⟨fs₀, fs₁, fs₂, h₀, h₁, h₂, ?_⟩
  unfold replaceBy
  rw [Run.bind_of_eq ho]
  dsimp only
  cases hm : FileSystem.moveTo temporary path fs₂ with
  | ok fs₃ =>
    rw [hm] at hf
    rw [Run.bind_of_eq hf]
    rfl
  | error e =>
    rw [hm] at hf
    rw [Run.bind_of_eq hf]
    rfl

theorem replaceBy_error (path : String) (content : List UInt8) {e : OsError}
    (h : host.files.temporaryIn directory = .error e) :
    replaceBy directory path content host = ⟨.error (.temporary e), host, []⟩ := by
  unfold replaceBy
  rw [Run.bind_of_eq (openTemporary_error h)]
  rfl

/-- **Filling a temporary file and moving it to the path** replaces the file there or changes nothing. -/
theorem replaceBy_outcome (directory path : String) (content : List UInt8) (host : Host) :
    let o := replaceBy directory path content host
    (o.value = .ok () → ∃ p, Replaced host.files path content p o.host.files) ∧
      (∀ e, o.value = .error e → Grows (fun _ _ => False) host.files o.host.files) ∧ o.host.clock = host.clock ∧
      o.Silent := by
  intro o
  cases ht : host.files.temporaryIn directory with
  | ok temporary =>
    obtain ⟨fs₀, fs₁, fs₂, -, -, h₂, hr⟩ := replaceBy_apply path content ht
    have hl := FileSystem.temporaryIn_ne_root ht
    have hn := (FileSystem.temporaryIn_fresh ht).2
    cases hm : FileSystem.moveTo temporary path fs₂ with
    | ok fs₃ =>
      rw [hm] at hr
      rw [show o = _ from hr]
      exact ⟨fun _ => h₂.moved hn hl hm, nofun, rfl, rfl, rfl, rfl⟩
    | error e =>
      rw [hm] at hr
      rw [show o = _ from hr]
      exact ⟨nofun, fun _ _ => grows_of_get?_eq h₂.current (h₂.unlink hn hl), rfl, rfl, rfl, rfl⟩
  | error e =>
    rw [show o = _ from replaceBy_error path content ht]
    exact ⟨nofun, fun _ _ => .refl _ _, rfl, rfl, rfl, rfl⟩

/-- What comes of replacing a file, from the files before and after. -/
def ReplaceOutcome (before : FileSystem) (path : String) (content : List UInt8) (after : FileSystem) :
    Except SaveError Unit → Prop
  | .ok () => ∃ made p, Grows (DirectoryOn (Path.directory path) made) before made ∧
      Replaced made path content p after
  | .error _ => Grows (DirectoryOn (Path.directory path) after) before after

/-- **Replacing a file is all or nothing**, apart from directories on the way. -/
theorem replaceFile_outcome (path : String) (content : List UInt8) (host : Host) :
    ReplaceOutcome host.files path content (replaceFile path content host).host.files
        (replaceFile path content host).value ∧
      (replaceFile path content host).host.clock = host.clock ∧ (replaceFile path content host).Silent := by
  have hd := Directory.ensure_adds (Path.directory path) host
  unfold replaceFile
  generalize Directory.ensure (Path.directory path) = making at hd ⊢
  rw [Run.bind_value, Run.bind_host]
  cases hv : (making host).value with
  | error e => exact ⟨hd.grows, hd.clock, hd.silent.bind (by rw [hv]; exact ⟨rfl, rfl, rfl⟩)⟩
  | ok u =>
    obtain ⟨hdone, hfailed, hc, hs⟩ := replaceBy_outcome (Path.directory path) path content (making host).host
    refine ⟨?_, hc.trans hd.clock, hd.silent.bind (by rw [hv]; exact hs)⟩
    dsimp only
    generalize replaceBy (Path.directory path) path content (making host).host = o at hdone hfailed
    cases hr : o.value with
    | ok u =>
      obtain ⟨p, hp⟩ := hdone hr
      exact ⟨_, p, hd.grows, hp⟩
    | error e =>
      have hg := hfailed e hr
      have hm := hd.grows.mono fun l e => directoryOn_lasting _ _ _ l e (hg.mono fun _ _ _ => trivial)
      exact hm.trans (hg.mono fun _ _ => False.elim)

theorem trySave_apply (s : Store) (r : Record) (host : Host) :
    (s.trySave r host).host = (replaceFile s.path r.bytes host).host ∧
      (s.trySave r host).value = (match (replaceFile s.path r.bytes host).value with
        | .ok () => .ok ()
        | .error e => .error (.persistFailed s.path e.message)) ∧ (s.trySave r host).Silent := by
  have hs := (replaceFile_outcome s.path r.bytes host).2.2
  unfold trySave
  generalize ho : replaceFile s.path r.bytes host = o at hs ⊢
  rw [Run.bind_of_eq ho]
  obtain ⟨value, after, trace⟩ := o
  have hs' : (⟨(), after, trace ++ []⟩ : Outcome Unit).Silent := by
    rw [List.append_nil]
    exact ⟨hs.requests, hs.reports, hs.unsaved⟩
  cases value with
  | ok u => exact ⟨rfl, rfl, hs'.requests, hs'.reports, hs'.unsaved⟩
  | error e => exact ⟨rfl, rfl, hs'.requests, hs'.reports, hs'.unsaved⟩

/-- A save that lands replaces the file at the path; one that does not adds directories on the way.  Its failure is
logged, and goes to the observer if there is one. -/
structure SaveOutcome (s : Store) (r : Record) (before : FileSystem) (o : Outcome Bool) : Prop where
  landed : o.value = true → o.unsaved = [] ∧ ∃ made p, Grows (DirectoryOn (Path.directory s.path) made) before made ∧
    Replaced made s.path r.bytes p o.host.files
  failed : o.value = false → Grows (DirectoryOn (Path.directory s.path) o.host.files) before o.host.files ∧
    ∃ detail, o.unsaved = [.persistFailed s.path detail]
  reports : o.reports = if s.observed then o.unsaved else []
  requests : o.requests = []

namespace SaveOutcome

variable {s : Store} {r : Record} {before : FileSystem} {o : Outcome Bool}

/-- **A save has landed exactly if no failure of it was logged.** -/
theorem unsaved_eq_nil (h : SaveOutcome s r before o) : o.unsaved = [] ↔ o.value = true := by
  refine ⟨fun hn => ?_, fun hv => (h.landed hv).1⟩
  cases hv : o.value with
  | true => rfl
  | false =>
    obtain ⟨-, detail, hd⟩ := h.failed hv
    cases hn.symm.trans hd

theorem reports_of_landed (h : SaveOutcome s r before o) (hv : o.value = true) : o.reports = [] := by
  rw [h.reports, (h.landed hv).1]
  exact ite_self _

end SaveOutcome

theorem reportFailure_apply (s : Store) (e : AuthError) (host : Host) : (s.reportFailure e host) =
    ⟨(), host, .event host.clock (.notPersisted s.path e) :: if s.observed then [.report e] else []⟩ := by
  unfold reportFailure
  cases s.observed <;> rfl

/-- What is left of a save, once it is known what came of replacing the file. -/
theorem save_like (s : Store) (r : Record) (host : Host) :
    let replaced := replaceFile s.path r.bytes host
    (replaced.value = .ok () → (s.save r host).Like ⟨true, replaced.host, []⟩) ∧
      ∀ e, replaced.value = .error e → (s.save r host).Like
        ⟨false, replaced.host, (s.reportFailure (.persistFailed s.path e.message) replaced.host).trace⟩ := by
  obtain ⟨hh, hv, hs⟩ := trySave_apply s r host
  generalize replaceFile s.path r.bytes host = replaced at hh hv
  unfold save
  generalize s.trySave r = saving at hh hv hs ⊢
  refine ⟨fun hw => ?_, fun e hw => ?_⟩
  · rw [hw] at hv
    refine (Outcome.Like.after hs).trans ?_
    rw [hv, hh]
    exact .rfl
  · rw [hw] at hv
    refine (Outcome.Like.after hs).trans ?_
    rw [hv, hh]
    dsimp only
    rw [Run.bind_of_eq (reportFailure_apply s _ replaced.host), reportFailure_apply]
    show Outcome.Like ⟨false, replaced.host, _ ++ []⟩ _
    rw [List.append_nil]
    exact .rfl

/-- **What comes of a save.** -/
theorem save_outcome (s : Store) (r : Record) (host : Host) :
    SaveOutcome s r host.files (s.save r host) ∧ (s.save r host).host.clock = host.clock := by
  obtain ⟨hr, hc, -⟩ := replaceFile_outcome s.path r.bytes host
  obtain ⟨hdone, hfailed⟩ := save_like s r host
  generalize replaceFile s.path r.bytes host = replaced at hr hc hdone hfailed
  cases hw : replaced.value with
  | ok u =>
    rw [hw] at hr
    obtain ⟨hv, hh, hq, hp, hu⟩ := hdone hw
    rw [← hh] at hr hc
    refine ⟨⟨fun _ => ⟨hu, hr⟩, fun h => ?_, ?_, hq⟩, hc⟩
    · cases hv.symm.trans h
    · rw [hp, hu]
      exact (ite_self _).symm
  | error e =>
    rw [hw] at hr
    have hl := hfailed e hw
    rw [reportFailure_apply] at hl
    obtain ⟨hv, hh, hq, hp, hu⟩ := hl
    have hu' : (s.save r host).unsaved = [.persistFailed s.path e.message] := by
      rw [hu]
      cases s.observed <;> rfl
    rw [← hh] at hr hc
    refine ⟨⟨fun h => ?_, fun _ => ⟨hr, _, hu'⟩, ?_, ?_⟩, hc⟩
    · cases hv.symm.trans h
    · rw [hp, hu']
      cases s.observed <;> rfl
    · rw [hq]
      cases s.observed <;> rfl

end Store
end TokenCache
