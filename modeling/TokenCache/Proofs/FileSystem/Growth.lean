import TokenCache.Proofs.FileSystem.Walk
/-!
# Places and growth

A place is named by the last name of a path, in the directory that the names before it lead to (`place_eq_ok`).  A file
system that grows keeps every entry and gets new ones (`Grows`): what was found is found there too, and every place is
named as before.
-/
namespace TokenCache
namespace FileSystem

variable {fs fs' fs'' : FileSystem} {new : Location → Entry → Prop}

/-! ## The names of a path -/

/-- The names along a path, without the empty one that a slash at its end adds. -/
def names (path : String) : List String :=
  ((Path.split path.toList).filter (· != [])).map String.ofList

def endsInSlash (path : String) : Bool :=
  path.toList.getLast? == some '/'

theorem getLast?_split : ∀ cs : List Char, cs ≠ [] → ((Path.split cs).getLast? = some [] ↔ cs.getLast? = some '/')
  | [], h => absurd rfl h
  | [c], _ => by
    unfold Path.split
    by_cases hc : c = '/' <;> simp [Path.split, hc]
  | c :: c' :: cs, _ => by
    have ih := getLast?_split (c' :: cs) (by simp)
    have hu := Path.unsplit_split (c' :: cs)
    rw [List.getLast?_cons_cons, ← ih, Path.split]
    generalize Path.split (c' :: cs) = pieces at hu ⊢
    cases pieces with
    | nil => cases hu
    | cons p rest =>
      cases rest with
      | nil =>
        have hp : p ≠ [] := fun h => by rw [h] at hu; cases hu
        by_cases hc : c = '/' <;> simp [hc, hp]
      | cons q ps => by_cases hc : c = '/' <;> simp [hc, List.getLast?_cons_cons]

theorem route_eq {path : String} (h : path.toList ≠ []) :
    route path = names path ++ if endsInSlash path then [""] else [] := by
  have hl := getLast?_split path.toList h
  unfold route names endsInSlash
  dsimp only
  rw [List.map_append]
  congr 1
  by_cases hs : path.toList.getLast? = some '/'
  · simp [hl.2 hs, hs]
  · simp [hs, hl]

theorem ne_empty_of_mem_names {path name : String} (h : name ∈ names path) : name ≠ "" := by
  obtain ⟨piece, hp, rfl⟩ := List.mem_map.1 h
  have := (List.mem_filter.1 hp).2
  intro he
  have : piece = [] := by simpa using congrArg String.toList he
  simp_all

theorem toList_ne_nil_of_checked {path : String} (h : checked path = .ok ()) : path.toList ≠ [] := by
  intro hp
  have : path = "" := String.toList_inj.1 (by rw [hp]; rfl)
  subst this
  cases h

theorem hasNull_of_checked {path : String} (h : checked path = .ok ()) : hasNull path = false := by
  unfold checked at h
  split at h
  · cases h
  · exact Bool.eq_false_iff.2 ‹_›

/-! ## Places -/

theorem resolve_eq_ok {ending : Ending} {path : String} {t : Target} : fs.resolve ending path = .ok t ↔
    checked path = .ok () ∧ Leads fs ending linkLimit (origin fs.current path) (route path) t := by
  unfold resolve
  rw [← walk_eq_ok]
  cases checked path <;> simp [bind, Except.bind]

theorem directoryAt_eq_ok {start d : Location} {ns : List String} :
    fs.directoryAt start ns = .ok d ↔ Leads fs .followed linkLimit start ns (.found d .directory) := by
  unfold directoryAt
  rw [← walk_eq_ok]
  cases h : walk fs .followed linkLimit start ns with
  | error e => simp [bind, Except.bind]
  | ok t =>
    match t with
    | .found here .directory => simp [bind, Except.bind, pure, Except.pure]
    | .found here (.file _ _) => simp [bind, Except.bind, throw, throwThe, MonadExceptOf.throw]
    | .found here (.link _) => simp [bind, Except.bind, throw, throwThe, MonadExceptOf.throw]
    | .vacant dir name => simp [bind, Except.bind, throw, throwThe, MonadExceptOf.throw]

/-- **The place a path names**: its last name in the directory that the names before it lead to. -/
theorem place_eq_ok {unnamed : OsError} {path : String} {p : Place} : fs.place unnamed path = .ok p ↔
    checked path = .ok () ∧ ∃ before name d, names path = before ++ [name] ∧ Ordinary name ∧
      Leads fs .followed linkLimit (origin fs.current path) before (.found d .directory) ∧
      p = ⟨name :: d, endsInSlash path⟩ := by
  unfold place
  cases hc : checked path with
  | error e => simp [bind, Except.bind]
  | ok u =>
    have hr := route_eq (toList_ne_nil_of_checked hc)
    have hn : (if endsInSlash path then (route path).dropLast else route path) = names path := by
      rw [hr]
      cases endsInSlash path <;> simp
    have hs : (path.toList.getLast? == some '/') = endsInSlash path := rfl
    simp only [bind, Except.bind, hs, hn, true_and]
    constructor
    · intro h
      split at h
      · cases h
      rename_i d hd
      split at h
      · cases h
      rename_i name hl
      split at h
      · cases h
      rename_i hd'
      split at h
      · cases h
      rename_i hs'
      cases h
      obtain ⟨before, hb⟩ := List.getLast?_eq_some_iff.1 hl
      rw [hb, List.dropLast_concat] at hd
      simp only [Bool.or_eq_true, decide_eq_true_eq, not_or] at hd'
      have hname : name ∈ names path := List.mem_of_getLast? hl
      refine ⟨before, name, d, hb, ?_, directoryAt_eq_ok.1 hd, rfl⟩
      exact ⟨ne_empty_of_mem_names hname, hd'.1, hd'.2, by omega⟩
    · rintro ⟨before, name, d, hb, ho, hd, rfl⟩
      have hs' : ¬ nameLimit < name.utf8ByteSize := by have := ho.short; omega
      rw [hb, List.dropLast_concat, directoryAt_eq_ok.2 hd, List.getLast?_concat]
      dsimp only
      rw [if_neg (by simpa using ⟨ho.ne_here, ho.ne_up⟩), if_neg hs']
      rfl

theorem place_ne_root {unnamed : OsError} {path : String} {p : Place} (h : fs.place unnamed path = .ok p) :
    p.location ≠ [] := by
  obtain ⟨-, before, name, d, -, -, -, rfl⟩ := place_eq_ok.1 h
  simp

theorem endsInSlash_of_place {unnamed : OsError} {path : String} {p : Place} (h : fs.place unnamed path = .ok p) :
    p.slash = endsInSlash path := by
  obtain ⟨-, before, name, d, -, -, -, rfl⟩ := place_eq_ok.1 h
  rfl

/-- **The entry at the place of a path is what the path names**, if there is no slash at its end. -/
theorem status?_of_place {unnamed : OsError} {path : String} {p : Place} {e : Entry} (h : fs.place unnamed path = .ok p)
    (hs : p.slash = false) (hg : fs.get? p.location = some e) : fs.status? path = some e := by
  rw [endsInSlash_of_place h] at hs
  obtain ⟨hc, before, name, d, hb, ho, hd, rfl⟩ := place_eq_ok.1 h
  have hr : route path = before ++ [name] := by
    rw [route_eq (toList_ne_nil_of_checked hc), hs, hb]
    simp
  unfold status?
  rw [resolve_eq_ok.2 ⟨hc, hr ▸ hd.asIs ho hg⟩]

/-- What a path names is in a directory that the names before the last one lead to. -/
theorem place_of_status? {path : String} {e : Entry} {before : List String} {name : String}
    (h : fs.status? path = some e)
    (hs : endsInSlash path = false) (hb : names path = before ++ [name]) (ho : Ordinary name) :
    ∃ d, fs.place .busy path = .ok ⟨name :: d, false⟩ := by
  unfold status? at h
  split at h
  · rename_i l e' hr
    obtain ⟨hc, hl⟩ := resolve_eq_ok.1 hr
    rw [route_eq (toList_ne_nil_of_checked hc), hs] at hl
    obtain ⟨d, hd⟩ := hl.init before name (by simpa using hb)
    exact ⟨d, place_eq_ok.2 ⟨hc, before, name, d, hb, ho, hd, by rw [hs]⟩⟩
  · cases h

/-- A file at the place of a path is read through the path. -/
theorem readFile_of_place {unnamed : OsError} {path : String} {p : Place} {content : List UInt8} {mode : Nat}
    (h : fs.place unnamed path = .ok p) (hs : p.slash = false) (hg : fs.get? p.location = some (.file content mode)) :
    fs.readFile path = .ok content := by
  rw [endsInSlash_of_place h] at hs
  obtain ⟨hc, before, name, d, hb, ho, hd, rfl⟩ := place_eq_ok.1 h
  have hr : route path = before ++ [name] := by
    rw [route_eq (toList_ne_nil_of_checked hc), hs, hb]
    simp
  obtain ⟨k, hk⟩ := hd.append
  have hl : Leads fs .followed linkLimit (origin fs.current path) (route path)
      (.found (name :: d) (.file content mode)) := by
    rw [hr, hk]
    exact .file ho hg
  unfold readFile
  rw [resolve_eq_ok.2 ⟨hc, hl⟩]
  rfl

theorem readFile_eq_ok {path : String} {content : List UInt8} : fs.readFile path = .ok content ↔
    ∃ l mode, fs.resolve .followed path = .ok (.found l (.file content mode)) := by
  unfold readFile
  cases fs.resolve .followed path with
  | error e => simp [bind, Except.bind]
  | ok t =>
    match t with
    | .found here (.file c m) => simp [bind, Except.bind, pure, Except.pure]
    | .found here .directory => simp [bind, Except.bind, throw, throwThe, MonadExceptOf.throw]
    | .found here (.link _) => simp [bind, Except.bind, throw, throwThe, MonadExceptOf.throw]
    | .vacant dir name => simp [bind, Except.bind, throw, throwThe, MonadExceptOf.throw]

/-- **A path that a file can be read through names a place**, at which there is a file or a link. -/
theorem place_of_readFile {path : String} {content : List UInt8} (h : fs.readFile path = .ok content) :
    ∃ p, fs.place .busy path = .ok p ∧ p.slash = false ∧ fs.get? p.location ≠ some .directory := by
  obtain ⟨l, mode, hl⟩ := readFile_eq_ok.1 h
  obtain ⟨hc, hl⟩ := resolve_eq_ok.1 hl
  rcases List.eq_nil_or_concat (route path) with hr | ⟨before, name, hr⟩
  · rw [hr] at hl
    cases hl
  rw [List.concat_eq_append] at hr
  rw [hr] at hl
  obtain ⟨d, hd⟩ := hl.init before name rfl
  obtain ⟨k, hk⟩ := hd.append
  have hlast : Ordinary name ∧ fs.get? (name :: d) ≠ some .directory := by
    cases (hk [name] _).1 hl with
    | skip _ h | up h | enter _ _ _ h => cases h
    | file hn hg => exact ⟨hn, by rw [hg]; simp⟩
    | follow hn _ _ hg _ => exact ⟨hn, by rw [hg]; simp⟩
  rw [route_eq (toList_ne_nil_of_checked hc)] at hr
  cases hs : endsInSlash path with
  | true =>
    rw [hs, if_pos rfl] at hr
    exact absurd (List.singleton_inj.1 (List.append_inj' hr rfl).2).symm hlast.1.ne_empty
  | false =>
    rw [hs, if_neg Bool.false_ne_true, List.append_nil] at hr
    exact ⟨⟨name :: d, false⟩, place_eq_ok.2 ⟨hc, before, name, d, hr, hlast.1, hd, by rw [hs]⟩, rfl, hlast.2⟩

/-- The place does not depend on the failure for a path that ends in no name. -/
theorem place_unnamed {unnamed : OsError} (unnamed' : OsError) {path : String} {p : Place}
    (h : fs.place unnamed path = .ok p) : fs.place unnamed' path = .ok p :=
  place_eq_ok.2 (place_eq_ok.1 h)

theorem place_of_ways {unnamed : OsError} {path : String} {p : Place} (hc : fs'.current = fs.current) (hw : Ways fs fs')
    (h : fs.place unnamed path = .ok p) : fs'.place unnamed path = .ok p := by
  obtain ⟨hk, before, name, d, hb, ho, hd, hp⟩ := place_eq_ok.1 h
  exact place_eq_ok.2 ⟨hk, before, name, d, hb, ho, by rw [hc]; exact hd.ways hw, hp⟩

/-! ## Growth -/

/-- `fs'` has what `fs` has, and besides only entries of which `new` holds. -/
structure Grows (new : Location → Entry → Prop) (fs fs' : FileSystem) : Prop where
  current : fs'.current = fs.current
  kept : ∀ l e, fs.get? l = some e → fs'.get? l = some e
  added : ∀ l e, fs'.get? l = some e → fs.get? l = some e ∨ new l e

namespace Grows

theorem refl (new : Location → Entry → Prop) (fs : FileSystem) : Grows new fs fs :=
  ⟨rfl, fun _ _ h => h, fun _ _ h => .inl h⟩

theorem trans (h : Grows new fs fs') (h' : Grows new fs' fs'') : Grows new fs fs'' := by
  refine ⟨h'.current.trans h.current, fun l e hl => h'.kept l e (h.kept l e hl), fun l e hl => ?_⟩
  rcases h'.added l e hl with hl | hl
  · exact h.added l e hl
  · exact .inr hl

theorem mono {new' : Location → Entry → Prop} (hn : ∀ l e, new l e → new' l e) (h : Grows new fs fs') :
    Grows new' fs fs' :=
  ⟨h.current, h.kept, fun l e hl => (h.added l e hl).imp id (hn l e)⟩

/-- A new entry where there was none. -/
theorem put {l : Location} {e : Entry} (hl : fs.get? l = none) (hn : new l e) : Grows new fs (fs.put l e) := by
  have hr : l ≠ [] := fun h => by rw [h, get?_root] at hl; cases hl
  refine ⟨rfl, fun l' e' h => ?_, fun l' e' h => ?_⟩
  · rw [get?_put _ _ _ _ hr, if_neg, h]
    rintro rfl
    rw [hl] at h
    cases h
  · rw [get?_put _ _ _ _ hr] at h
    split at h
    · rename_i he
      cases h
      exact .inr (he ▸ hn)
    · exact .inl h

theorem ways (h : Grows new fs fs') : Ways fs fs' :=
  fun l e _ hl => h.kept l e hl

theorem place {unnamed : OsError} {path : String} {p : Place} (h : Grows new fs fs')
    (hp : fs.place unnamed path = .ok p) : fs'.place unnamed path = .ok p :=
  place_of_ways h.current h.ways hp

/-- **What is found is found after growth.** -/
theorem resolve {ending : Ending} {path : String} {l : Location} {e : Entry} (h : Grows new fs fs')
    (hf : fs.resolve ending path = .ok (.found l e)) : fs'.resolve ending path = .ok (.found l e) := by
  obtain ⟨hc, hl⟩ := resolve_eq_ok.1 hf
  refine resolve_eq_ok.2 ⟨hc, ?_⟩
  rw [h.current]
  refine hl.transfer h.ways (fun l' content mode he => ?_) (fun _ _ he => by cases he)
  cases he
  exact h.kept _ _ hl.get?_found

theorem readFile {path : String} {content : List UInt8} (h : Grows new fs fs') (hr : fs.readFile path = .ok content) :
    fs'.readFile path = .ok content := by
  obtain ⟨l, mode, hl⟩ := readFile_eq_ok.1 hr
  exact readFile_eq_ok.2 ⟨l, mode, h.resolve hl⟩

end Grows

/-! ## Changes -/

theorem makeDirectory_eq_ok {path : String} (h : makeDirectory path fs = .ok fs') :
    ∃ p, fs.place .alreadyExists path = .ok p ∧ fs.get? p.location = none ∧ fs' = fs.put p.location .directory := by
  unfold makeDirectory at h
  cases hp : fs.place .alreadyExists path with
  | error e => rw [hp] at h; cases h
  | ok p =>
    rw [hp] at h
    simp only [bind, Except.bind] at h
    split at h
    · cases h
    · rename_i hg
      cases h
      exact ⟨p, rfl, hg, rfl⟩

theorem openFile_eq_ok {path : String} (h : openFile path fs = .ok fs') :
    fs' = fs ∨ ∃ dir name, fs.resolve .opened path = .ok (.vacant dir name) ∧
      fs' = fs.put (name :: dir) (.file [] 0o644) := by
  unfold openFile at h
  cases hr : fs.resolve .opened path with
  | error e => rw [hr] at h; cases h
  | ok t =>
    rw [hr] at h
    simp only [bind, Except.bind] at h
    split at h
    · cases h
      exact .inl rfl
    · cases h
    · cases h
      exact .inr ⟨_, _, rfl, rfl⟩

theorem moveTo_eq_ok {l : Location} {path : String} (h : moveTo l path fs = .ok fs') :
    ∃ p e, fs.place .busy path = .ok p ∧ p.slash = false ∧ fs.get? l = some e ∧ fs.get? p.location ≠ some .directory ∧
      fs' = (fs.unlink l).put p.location e := by
  unfold moveTo at h
  split at h
  · cases h
  cases hp : fs.place .busy path with
  | error e => rw [hp] at h; cases h
  | ok p =>
    rw [hp] at h
    simp only [bind, Except.bind] at h
    split at h
    · cases h
    rename_i e hg
    split at h
    · cases h
    rename_i hs
    split at h
    · cases h
    rename_i hd
    cases h
    exact ⟨p, e, rfl, by simpa using hs, hg, hd, rfl⟩

/-! ## The way to a place -/

/-- **The way to the place of a path does not lead through what is there**: with nothing at the place the path still
names it. -/
def Clear (fs : FileSystem) (path : String) (p : Place) : Prop :=
  (fs.unlink p.location).place .busy path = .ok p

theorem Clear.place {path : String} {p : Place} (h : Clear fs path p) (hr : p.location ≠ [])
    (hc : fs'.current = fs.current) (hs : ∀ l, l ≠ p.location → fs'.get? l = fs.get? l) :
    fs'.place .busy path = .ok p := by
  have hc : fs'.current = (fs.unlink p.location).current := hc
  refine place_of_ways hc (fun l e _ hl => ?_) h
  rw [get?_unlink _ _ _ hr] at hl
  split at hl
  · cases hl
  · rename_i hne
    rw [hs l hne, hl]

/-- With a file at the place of a path, what the path still names is named by a way that is clear. -/
theorem clear_of_place {path : String} {p : Place} {content : List UInt8} {mode : Nat} (hr : p.location ≠ [])
    (hc : fs'.current = fs.current) (hs : ∀ l, l ≠ p.location → fs'.get? l = fs.get? l)
    (hg : fs'.get? p.location = some (.file content mode)) (h : fs'.place .busy path = .ok p) : Clear fs path p := by
  refine place_of_ways hc.symm (fun l e he hl => ?_) h
  rw [get?_unlink _ _ _ hr, if_neg, ← hs l, hl]
  all_goals
    rintro rfl
    rw [hg] at hl
    cases hl
    exact he content mode rfl

/-- A place that leads to a file is not on the way to a directory. -/
theorem Leads.around {n : Nat} {here d : Location} {ns : List String} {T : Location} (hr : T ≠ [])
    (hf : ∀ e, fs.get? T = some e → e ≠ .directory ∧ ∀ target, e = .link target →
      ∃ k l content mode, Leads fs .followed k (origin T.tail target) (route target) (.found l (.file content mode)))
    (h : Leads fs .followed n here ns (.found d .directory)) :
    Leads (fs.unlink T) .followed n here ns (.found d .directory) := by
  generalize ht : Target.found d .directory = t at h
  induction h with
  | vacant | file | link => cases ht
  | done => exact .done
  | skip hn _ ih => exact .skip hn (ih ht)
  | up _ ih => exact .up (ih ht)
  | @enter n here name rest t hn ho hg h ih =>
    refine .enter hn ho ?_ (ih ht)
    rw [get?_unlink _ _ _ hr, if_neg, hg]
    rintro rfl
    exact (hf _ hg).1 rfl
  | @follow n here name target rest t hn ho hl hg h ih =>
    refine .follow hn ho hl ?_ (ih ht)
    rw [get?_unlink _ _ _ hr, if_neg, hg]
    rintro rfl
    obtain ⟨k, l, content, mode, hk⟩ := (hf _ hg).2 target rfl
    exact hk.not_beyond (ht ▸ h)

/-- Only a link can be on the way to its own place. -/
theorem clear_unless_link {path : String} {p : Place} (hp : fs.place .busy path = .ok p)
    (hd : fs.get? p.location ≠ some .directory) (hl : ∀ target, fs.get? p.location ≠ some (.link target)) :
    Clear fs path p := by
  obtain ⟨hc, before, name, d, hb, ho, hw, rfl⟩ := place_eq_ok.1 hp
  refine place_eq_ok.2 ⟨hc, before, name, d, hb, ho, hw.around (by simp) fun e he => ⟨?_, fun target ht => ?_⟩, rfl⟩
  · rintro rfl
    exact hd he
  · exact absurd (ht ▸ he) (hl target)

/-- **A path that a file can be read through has a clear way to its place.** -/
theorem clear_of_readFile {path : String} {p : Place} {content : List UInt8} (h : fs.readFile path = .ok content)
    (hp : fs.place .busy path = .ok p) (hs : p.slash = false) : Clear fs path p := by
  obtain ⟨l, mode, hl⟩ := readFile_eq_ok.1 h
  rw [endsInSlash_of_place hp] at hs
  obtain ⟨hc, before, name, d, hb, ho, hd, rfl⟩ := place_eq_ok.1 hp
  obtain ⟨-, hl⟩ := resolve_eq_ok.1 hl
  rw [route_eq (toList_ne_nil_of_checked hc), hs, hb] at hl
  obtain ⟨k, hk⟩ := hd.append
  have hT := (hk [name] _).1 (by simpa using hl)
  refine place_eq_ok.2 ⟨hc, before, name, d, hb, ho, hd.around (by simp) (fun e he => ?_), rfl⟩
  cases e with
  | file c m => exact ⟨by simp, by simp⟩
  | directory =>
    cases (leads_enter ho he).1 hT
  | link target =>
    obtain ⟨j, -, hj⟩ := (leads_follow ho he).1 hT
    refine ⟨by simp, fun target' ht => ?_⟩
    cases ht
    exact ⟨j, l, content, mode, by simpa using hj⟩

end FileSystem
end TokenCache
