import TokenCache.Proofs.Merging
import TokenCache.Proofs.Persistence
/-!
# Saves that land

A save lands where the path names a place that is no directory, so in particular where a record can be read, unless the
path of the temporary file is too long (`save_over_record`).  What it wrote is read back as it was, with its keys in
order (`save_then_load`), by the same path: unless the path led through the link that it names, and the link is gone.
-/
namespace TokenCache
namespace Store

variable {s : Store} {host : Host}

/-! ## When a save lands -/

theorem moveTo_temporary {made fs : FileSystem} {l : Location} {path : String} {content : List UInt8}
    {p : FileSystem.Place} (hn : made.get? l = none) (h : WithFile made l content fs)
    (hp : made.place .busy path = .ok p) (hs : p.slash = false) (hd : made.get? p.location ≠ some .directory) :
    ∃ fs', FileSystem.moveTo l path fs = .ok fs' := by
  have hnull : FileSystem.hasNull path = false := FileSystem.hasNull_of_checked (FileSystem.place_eq_ok.1 hp).1
  have hg : fs.get? l = some (.file content 0o600) := by rw [h.get?, if_pos rfl]
  have ht : fs.get? p.location ≠ some .directory := by
    rw [h.get?]
    split
    · simp
    · exact hd
  unfold FileSystem.moveTo
  rw [hnull, if_neg Bool.false_ne_true, (h.grows hn).place hp]
  simp only [bind, Except.bind, hg, hs]
  rw [if_neg Bool.false_ne_true, if_neg ht]
  exact ⟨_, rfl⟩

/-- Where the path names a place there is no directory to make. -/
theorem replaceFile_of_place {path : String} (content : List UInt8) {p : FileSystem.Place}
    (hp : host.files.place .busy path = .ok p) :
    replaceFile path content host = replaceBy (Path.directory path) path content host := by
  unfold replaceFile
  rw [Run.bind_of_idle (Directory.ensure_of_directory (FileSystem.resolve_directory hp))]

/-- **A file is replaced wherever its path names a place** that is no directory, if a temporary file can be named. -/
theorem replaceFile_landed {path : String} (content : List UInt8) {p : FileSystem.Place}
    (hp : host.files.place .busy path = .ok p) (hs : p.slash = false)
    (hd : host.files.get? p.location ≠ some .directory)
    (ht : FileSystem.checked (host.files.temporaryPath (Path.directory path)) = .ok ()) :
    (replaceFile path content host).value = .ok () ∧
      ∃ p, Replaced host.files path content p (replaceFile path content host).host.files := by
  have htemporary := FileSystem.temporaryIn_eq_ok.2 ⟨ht, _, FileSystem.resolve_directory hp, rfl⟩
  obtain ⟨fs₀, fs₁, fs₂, -, -, h₂, hr⟩ := replaceBy_apply path content htemporary
  obtain ⟨fs₃, hm⟩ := moveTo_temporary (FileSystem.temporaryIn_fresh htemporary).2 h₂ hp hs hd
  obtain ⟨hreplaced, -⟩ := replaceBy_outcome (Path.directory path) path content host
  rw [hm] at hr
  rw [hr] at hreplaced
  rw [replaceFile_of_place content hp, hr]
  exact ⟨rfl, hreplaced rfl⟩

theorem replaceFile_failed {path : String} (content : List UInt8) {p : FileSystem.Place} {e : OsError}
    (hp : host.files.place .busy path = .ok p)
    (ht : FileSystem.checked (host.files.temporaryPath (Path.directory path)) = .error e) :
    replaceFile path content host = ⟨.error (.temporary e), host, []⟩ := by
  rw [replaceFile_of_place content hp, replaceBy_error path content (FileSystem.temporaryIn_error ht)]

/-- The path of a record that can be read names a place. -/
theorem place_of_record {fs : FileSystem} {old : Record} (h : s.recordIn fs = some old) :
    ∃ p, fs.place .busy s.path = .ok p ∧ p.slash = false ∧ fs.get? p.location ≠ some .directory := by
  unfold recordIn at h
  split at h
  · rename_i content hf
    exact FileSystem.place_of_readFile hf
  · cases h

/-- What comes of a save over a record that can be read, from what is said of the temporary file's path. -/
structure OverRecord (s : Store) (r : Record) (host : Host) (temporary : Except OsError Unit) (o : Outcome Bool) :
    Prop where
  landed : temporary = .ok () → o.value = true ∧ ∃ p, Replaced host.files s.path r.bytes p o.host.files
  failed : ∀ e, temporary = .error e →
    o.Like ⟨false, host, (s.reportFailure (.persistFailed s.path (SaveError.temporary e).message) host).trace⟩

/-- **A save over a record that can be read replaces one file**, and makes no directory.  Where nobody lacks rights or
space, as in these files, it fails only if the path of the temporary file is refused, and then changes nothing. -/
theorem save_over_record {old : Record} (r : Record) (h : s.recordIn host.files = some old) :
    OverRecord s r host (FileSystem.checked (host.files.temporaryPath (Path.directory s.path))) (s.save r host) := by
  obtain ⟨p, hp, hs, hd⟩ := place_of_record h
  obtain ⟨hlanding, hfailing⟩ := save_like s r host
  refine ⟨fun ht => ?_, fun e ht => ?_⟩
  · obtain ⟨hv, hreplaced⟩ := replaceFile_landed r.bytes hp hs hd ht
    have hl := hlanding hv
    rw [hl.host]
    exact ⟨hl.value, hreplaced⟩
  · rw [replaceFile_failed r.bytes hp ht] at hfailing
    exact hfailing _ rfl

/-! ## What is read back -/

/-- **A saved record is read back**, with its keys in order at every depth.  Only where the path led through the link
that it names, which is replaced, it leads to nothing then. -/
theorem save_then_load (s : Store) {r : Record} (hr : Record.Storable r.members) (host : Host)
    (h : (s.save r host).value = true) :
    let after := (s.save r host).host
    Record.parse r.bytes = .ok r ∧ ∃ made p, Landed s r host.files after.files made p ∧
      ((FileSystem.Clear made s.path p ∧ (s.load after).value = some r) ∨
        (¬FileSystem.Clear made s.path p ∧ (s.load after).value = none ∧
          ∃ target, host.files.get? p.location = some (.link target))) := by
  obtain ⟨-, made, p, hg, hrep⟩ := (save_outcome s r host).1.landed h
  have hl := landed_of_replaced hg hrep
  have hparse := Record.parse_bytes hr
  refine ⟨hparse, made, p, hl, ?_⟩
  rw [load_value]
  unfold recordIn
  rcases hl.named with ⟨hc, -⟩ | ⟨hc, -, ht⟩
  · rw [hrep.readFile hc]
    dsimp only
    rw [hparse]
    exact .inl ⟨hc, rfl⟩
  · refine .inr ⟨hc, ?_, ht⟩
    split
    · rename_i content hf
      exact absurd (hrep.readFile_eq_ok.1 hf).1 hc
    · rfl

/-! ## Examples -/

def nestedRecord : Record :=
  ⟨[("z", .object [("list", .array [.null, .bool true, .object []]), ("a", .number (.integer (-9223372036854775808)))]),
    ("access_token", .string "quote \" backslash \\ line\n end")]⟩

theorem nestedRecord_storable : Record.Storable nestedRecord.members := by
  refine ⟨.object (by decide) ?_, .object ?_⟩
  all_goals
    intro m hm
    simp only [nestedRecord, List.mem_cons, List.not_mem_nil, or_false] at hm
    rcases hm with rfl | rfl
  · refine .object (by decide) fun m hm => ?_
    simp only [List.mem_cons, List.not_mem_nil, or_false] at hm
    rcases hm with rfl | rfl
    · refine .array fun v hv => ?_
      simp only [List.mem_cons, List.not_mem_nil, or_false] at hv
      rcases hv with rfl | rfl | rfl
      · exact .null
      · exact .bool true
      · exact .object List.nodup_nil nofun
    · exact .number ⟨by decide, by decide⟩
  · exact .string _
  · refine .object fun m hm => ?_
    simp only [List.mem_cons, List.not_mem_nil, or_false] at hm
    rcases hm with rfl | rfl
    · refine .array fun v hv => ?_
      simp only [List.mem_cons, List.not_mem_nil, or_false] at hv
      rcases hv with rfl | rfl | rfl
      · exact .null
      · exact .bool true
      · exact .object nofun
    · exact .integer _
  · exact .string _

/-- Into a directory that is not there yet. -/
theorem nestedRecord_loads :
    Record.Storable nestedRecord.members ∧ (save ⟨"d/f", true⟩ nestedRecord ⟨⟨[], []⟩, 0⟩).value = true ∧
      (load ⟨"d/f", true⟩ (save ⟨"d/f", true⟩ nestedRecord ⟨⟨[], []⟩, 0⟩).host).value = some nestedRecord := by
  have h : (save ⟨"d/f", true⟩ nestedRecord ⟨⟨[], []⟩, 0⟩).value = true := by decide +kernel
  refine ⟨nestedRecord_storable, h, ?_⟩
  obtain ⟨-, made, p, -, ⟨-, hl⟩ | ⟨-, -, target, ht⟩⟩ :=
    save_then_load ⟨"d/f", true⟩ nestedRecord_storable ⟨⟨[], []⟩, 0⟩ h
  · exact hl
  · unfold FileSystem.get? at ht
    split at ht <;> cases ht

/-- **A record saved through a link that the path leads through** is not found by the path. -/
theorem replaced_link_hides_record :
    Record.Storable nestedRecord.members ∧ (save ⟨"x/../x", true⟩ nestedRecord ⟨linked, 0⟩).value = true ∧
      (load ⟨"x/../x", true⟩ (save ⟨"x/../x", true⟩ nestedRecord ⟨linked, 0⟩).host).value.isNone = true :=
  ⟨nestedRecord_storable, by decide +kernel, by decide +kernel⟩

end Store
end TokenCache
