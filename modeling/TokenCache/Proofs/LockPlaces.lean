import Mathlib.Data.String.Basic
import TokenCache.Proofs.Components
import TokenCache.RefreshLock
/-!
# Where lock files are

The two halves of a lock path come from a credential path in two ways: the directory from its components, the name from
a digest of its text.  Spellings of one path have the same components, so their lock files are in one directory; they
are one file only if the digests agree in the digits that the name takes (`lock_of_spelling`).
-/
namespace TokenCache

/-! ## Ways to a directory -/

namespace FileSystem

open TokenCache.Path (moves)

variable {fs : FileSystem} {n : Nat} {here d : Location} {names names' : List String}

theorem moves_eq_false {name : String} : moves name = false ↔ name = "" ∨ name = "." := by
  unfold moves
  rw [Bool.and_eq_false_iff, bne_eq_false_iff_eq, bne_eq_false_iff_eq]

theorem Ordinary.moves {name : String} (h : Ordinary name) : moves name = true := by
  simp [Path.moves, h.ne_empty, h.ne_here]

theorem leads_skips_append {t : Target} {more : List String} : ∀ {skips : List String},
    (∀ name ∈ skips, ¬moves name = true) →
      (Leads fs .followed n here (skips ++ more) t ↔ Leads fs .followed n here more t)
  | [], _ => Iff.rfl
  | name :: _, h =>
    (leads_skip (moves_eq_false.1 (Bool.eq_false_iff.2 (h name List.mem_cons_self)))).trans
      (leads_skips_append fun x hx => h x (List.mem_cons_of_mem name hx))

/-- Where a name that moves is next on one way, it is next on the other, after names that do not. -/
theorem next_of_filter {name : String} {rest : List String} (hm : moves name = true)
    (h : (name :: rest).filter moves = names'.filter moves) :
    ∃ skips rest', names' = skips ++ name :: rest' ∧ (∀ x ∈ skips, ¬moves x = true) ∧
      rest.filter moves = rest'.filter moves := by
  rw [List.filter_cons_of_pos hm] at h
  obtain ⟨skips, rest', hs, hskips, -, hrest⟩ := List.filter_eq_cons_iff.1 h.symm
  exact ⟨skips, rest', hs, hskips, hrest.symm⟩

/-- **Names that agree but for those that do not move lead to the same directory.** -/
theorem Leads.of_moves (h : Leads fs .followed n here names (.found d .directory))
    (hn : names.filter moves = names'.filter moves) : Leads fs .followed n here names' (.found d .directory) := by
  generalize ht : Target.found d .directory = t at h ⊢
  -- before each step of the first way, the second skips the names that do not move
  induction h generalizing names' with
  | vacant | file | link => cases ht
  | done =>
    have hskips : ∀ name ∈ names', ¬moves name = true := List.filter_eq_nil_iff.1 hn.symm
    simpa using (leads_skips_append hskips).2 .done
  | skip hs _ ih =>
    refine ih ?_ ht
    rw [← hn, List.filter_cons_of_neg (Bool.eq_false_iff.1 (moves_eq_false.2 hs))]
  | up _ ih =>
    obtain ⟨skips, rest', rfl, hskips, hrest⟩ := next_of_filter (by decide) hn
    exact (leads_skips_append hskips).2 (.up (ih hrest ht))
  | enter ho _ hg _ ih =>
    obtain ⟨skips, rest', rfl, hskips, hrest⟩ := next_of_filter ho.moves hn
    exact (leads_skips_append hskips).2 (.enter ho (by simp) hg (ih hrest ht))
  | @follow n here name target rest t ho _ _ hg _ ih =>
    obtain ⟨skips, rest', rfl, hskips, hrest⟩ := next_of_filter ho.moves hn
    have hjump : (route target ++ rest).filter moves = (route target ++ rest').filter moves := by
      rw [List.filter_append, List.filter_append, hrest]
    exact (leads_skips_append hskips).2 (.follow ho (by simp) (by simp) hg (ih hjump ht))

end FileSystem

/-! ## The name of a lock file -/

namespace Hex

theorem slash_not_mem_digits : ∀ width n : Nat, '/' ∉ digits width n
  | 0, _ => List.not_mem_nil
  | width + 1, n => by
    have hdigit : ∀ m < 16, '/' ≠ digit m := by decide
    rw [digits, List.mem_append, List.mem_singleton, not_or]
    exact ⟨slash_not_mem_digits width _, hdigit _ (Nat.mod_lt n (by decide))⟩

end Hex

namespace Fingerprint

theorem slash_not_mem_digits (n : Nat) (s : String) : '/' ∉ (digits n s).toList := by
  unfold digits Hex.ofBytes
  rw [String.toList_ofList, String.toList_ofList]
  intro h
  obtain ⟨b, -, hb⟩ := List.mem_flatMap.1 (List.mem_of_mem_take h)
  exact Hex.slash_not_mem_digits 2 _ hb

theorem utf8ByteSize_digits_le (n : Nat) (s : String) : (digits n s).utf8ByteSize ≤ 4 * n := by
  have hsize : ∀ cs : List Char, String.utf8Len cs ≤ 4 * cs.length := by
    intro cs
    induction cs with
    | nil => exact Nat.le_refl 0
    | cons c cs ih =>
      have := c.utf8Size_le_four
      rw [String.utf8Len_cons, List.length_cons]
      omega
  unfold digits
  rw [String.utf8ByteSize_ofList]
  have := List.length_take_le n (Hex.ofBytes (Sha256.hash (Utf8.encode s))).toList
  exact Nat.le_trans (hsize _) (Nat.mul_le_mul_left 4 this)

end Fingerprint

namespace RefreshLock

open FileSystem (names)

theorem slash_not_mem_fileName (path : String) : '/' ∉ (fileName path).toList := by
  unfold fileName
  rw [String.toList_append, String.toList_append]
  have := Fingerprint.slash_not_mem_digits 24 path
  simp [this]

theorem ordinary_fileName (path : String) : FileSystem.Ordinary (fileName path) := by
  have hlong : ∀ short : String, short.length ≤ 13 → fileName path ≠ short := by
    rintro short hs rfl
    unfold fileName at hs
    rw [String.length_append, String.length_append] at hs
    have : ".refresh-".length = 9 := rfl
    have : ".lock".length = 5 := rfl
    omega
  refine ⟨hlong _ (by decide), hlong _ (by decide), hlong _ (by decide), ?_⟩
  unfold fileName FileSystem.nameLimit
  have := Fingerprint.utf8ByteSize_digits_le 24 path
  rw [String.utf8ByteSize_append, String.utf8ByteSize_append]
  have : ".refresh-".utf8ByteSize = 9 := rfl
  have : ".lock".utf8ByteSize = 5 := rfl
  omega

theorem fileName_inj {p q : String} :
    fileName p = fileName q ↔ Fingerprint.digits 24 p = Fingerprint.digits 24 q := by
  unfold fileName
  rw [String.append_left_inj, String.append_right_inj]

theorem fileName_ne_nil (path : String) : (fileName path).toList ≠ [] := fun h =>
  (ordinary_fileName path).ne_empty (String.toList_eq_nil_iff.1 h)

theorem names_fileName (path : String) : names (fileName path) = [fileName path] := by
  unfold names
  rw [Path.split_of_not_mem (slash_not_mem_fileName path),
    List.filter_cons_of_pos (by simpa using fileName_ne_nil path)]
  simp

theorem isAbsolute_fileName (path : String) : Path.isAbsolute (fileName path) = false := by
  unfold Path.isAbsolute
  rw [beq_eq_false_iff_ne]
  exact fun h => slash_not_mem_fileName path (List.mem_of_head? h)

/-! ## The place of a lock file -/

theorem directory_ne_nil (path : String) : (Path.directory path).toList ≠ [] := by
  unfold Path.directory
  split
  · split
    · decide
    · rename_i hp
      exact fun h => hp (by rw [String.toList_eq_nil_iff.1 h]; rfl)
  · decide

theorem path_forCredentials (path : String) :
    (forCredentials path).path = Path.join (Path.directory path) (fileName path) := by
  rw [forCredentials]

theorem components_path (path : String) : Path.components (forCredentials path).path =
    ⟨(Path.components path).directory.absolute, (Path.components path).directory.names ++ [fileName path]⟩ := by
  rw [path_forCredentials, Path.components_join (directory_ne_nil path) (isAbsolute_fileName path), names_fileName,
    Path.components_directory, List.filter_cons_of_pos (ordinary_fileName path).moves, List.filter_nil]

theorem endsInSlash_path (path : String) : FileSystem.endsInSlash (forCredentials path).path = false := by
  obtain ⟨text, ht, -⟩ := Path.join_text (directory_ne_nil path) (isAbsolute_fileName path)
  unfold FileSystem.endsInSlash
  rw [path_forCredentials, ht, beq_eq_false_iff_ne]
  intro h
  rw [List.append_cons, List.getLast?_append_of_ne_nil _ (fileName_ne_nil path)] at h
  exact slash_not_mem_fileName path (List.mem_of_getLast? h)

/-- **The place of a lock file**: its name in the directory of the credential path. -/
theorem place_path {fs : FileSystem} {unnamed : OsError} {path : String} {p : FileSystem.Place} :
    fs.place unnamed (forCredentials path).path = .ok p ↔ FileSystem.checked (forCredentials path).path = .ok () ∧
      ∃ d, FileSystem.Leads fs .followed FileSystem.linkLimit (FileSystem.origin fs.current (Path.directory path))
        (names (Path.directory path)) (.found d .directory) ∧ p = ⟨fileName path :: d, false⟩ := by
  have hn : names (forCredentials path).path = names (Path.directory path) ++ [fileName path] := by
    rw [path_forCredentials, Path.names_join (directory_ne_nil path) (isAbsolute_fileName path), names_fileName]
  have ho : FileSystem.origin fs.current (forCredentials path).path =
      FileSystem.origin fs.current (Path.directory path) := by
    unfold FileSystem.origin
    rw [path_forCredentials, Path.isAbsolute_join (directory_ne_nil path) (isAbsolute_fileName path)]
  rw [FileSystem.place_eq_ok, endsInSlash_path, hn, ho]
  refine and_congr_right fun _ => ⟨?_, ?_⟩
  · rintro ⟨before, name, d, hb, -, hd, rfl⟩
    obtain ⟨rfl, hname⟩ := List.append_inj' hb rfl
    exact ⟨d, hd, by rw [List.singleton_inj.1 hname]⟩
  · rintro ⟨d, hd, rfl⟩
    exact ⟨_, _, d, rfl, ordinary_fileName path, hd, rfl⟩

/-- **Spellings of one path have their lock files in one directory.**  They share a lock if the names agree, which are
the first digits of the digests of the texts, and else they have one each. -/
theorem lock_of_spelling {p q : String} (h : Path.components p = Path.components q) :
    Path.components (Path.directory p) = Path.components (Path.directory q) ∧
      (Path.components (forCredentials p).path = Path.components (forCredentials q).path ↔
        Fingerprint.digits 24 p = Fingerprint.digits 24 q) ∧
      ∀ (fs : FileSystem) (place : FileSystem.Place), fs.place .busy (forCredentials p).path = .ok place →
        FileSystem.checked (forCredentials q).path = .ok () →
        ∃ place', fs.place .busy (forCredentials q).path = .ok place' ∧
          place'.location.tail = place.location.tail ∧
          (place' = place ↔ Fingerprint.digits 24 p = Fingerprint.digits 24 q) := by
  have hdir : Path.components (Path.directory p) = Path.components (Path.directory q) := by
    rw [Path.components_directory, Path.components_directory, h]
  refine ⟨hdir, ?_, fun fs place hp hc => ?_⟩
  · rw [components_path, components_path, h, ← fileName_inj, Path.Components.mk.injEq]
    simp
  · obtain ⟨-, d, hd, rfl⟩ := place_path.1 hp
    rw [Path.components_eq, Path.components_eq (Path.directory q), Path.Components.mk.injEq] at hdir
    have hmoves : (names (Path.directory p)).filter Path.moves = (names (Path.directory q)).filter Path.moves := by
      rw [← Path.filter_counted (Path.isAbsolute (Path.directory p)), hdir.2, Path.filter_counted]
    have hstart : FileSystem.origin fs.current (Path.directory p) =
        FileSystem.origin fs.current (Path.directory q) := by
      unfold FileSystem.origin
      rw [hdir.1]
    rw [hstart] at hd
    refine ⟨⟨fileName q :: d, false⟩, place_path.2 ⟨hc, d, hd.of_moves hmoves, rfl⟩, by simp only [List.tail_cons], ?_⟩
    rw [← fileName_inj, FileSystem.Place.mk.injEq, List.cons.injEq, eq_comm]
    simp only [and_true]

theorem digests_differ : Fingerprint.digits 24 "a/b" ≠ Fingerprint.digits 24 "a//b" := by
  decide +kernel

/-- A doubled slash leaves the lock file in its directory, at another place. -/
theorem doubled_slash_in_one_directory :
    let fs := (FileSystem.emptyAt ["here"]).put ["a", "here"] .directory
    Path.components "a/b" = Path.components "a//b" ∧
      ∃ place place', fs.place .busy (forCredentials "a/b").path = .ok place ∧
        fs.place .busy (forCredentials "a//b").path = .ok place' ∧
        place'.location.tail = place.location.tail ∧ place' ≠ place := by
  intro fs
  have hc : Path.components "a/b" = Path.components "a//b" := by decide
  have hp : fs.place .busy (forCredentials "a/b").path = .ok ⟨fileName "a/b" :: ["a", "here"], false⟩ := by
    refine place_path.2 ⟨?_, ["a", "here"], ?_, rfl⟩
    · decide +kernel
    · exact .enter ⟨by decide, by decide, by decide, by decide⟩ (by simp) (by decide) .done
  obtain ⟨place', hp', htail, hsame⟩ := (lock_of_spelling hc).2.2 fs _ hp (by decide +kernel)
  exact ⟨hc, _, place', hp, hp', htail, fun he => digests_differ (hsame.1 he)⟩

/-- **A doubled slash makes another lock**: two callers that share a credential file, one of them with two slashes in
its path, lock two files. -/
theorem doubled_slash_makes_another_lock :
    let first := ((forCredentials "a/b").openFile ⟨FileSystem.emptyAt ["here"], 0⟩).host
    let second := ((forCredentials "a//b").openFile first).host
    Path.components "a/b" = Path.components "a//b" ∧
      first.files.get? [".refresh-c14cddc033f64b9dea80ea67.lock", "a", "here"] = some (.file [] 0o644) ∧
      first.files.get? [".refresh-7a9acf331a5dc1e020c17901.lock", "a", "here"] = none ∧
      second.files.get? [".refresh-7a9acf331a5dc1e020c17901.lock", "a", "here"] = some (.file [] 0o644) := by
  decide +kernel

end RefreshLock
end TokenCache
