import TokenCache.Proofs.FileSystem.Parents
/-!
# The directories that are made

Where a path does not go up after its first missing name, the directories made on the way to it lie one in the other,
the outermost at the place of that name (`ensure_reached`).  So the path itself names nothing sooner than an entry is
put there (`status?_of_reached`): all that is new is short of it, or is a file beside it.
-/
namespace TokenCache
namespace FileSystem

variable {fs fs' fs'' : FileSystem} {ending : Ending}

/-- Every entry is in a directory. -/
def Rooted (fs : FileSystem) : Prop :=
  ∀ name dir e, fs.get? (name :: dir) = some e → fs.get? dir = some .directory

theorem Rooted.below (h : Rooted fs) {top : Location} (ht : fs.get? top = none) : ∀ xs : List String,
    fs.get? (xs ++ top) = none
  | [] => ht
  | x :: xs => by
    refine Option.eq_none_iff_forall_ne_some.2 fun e he => ?_
    have := h x (xs ++ top) e he
    rw [h.below ht xs] at this
    cases this

/-! ## Walks that go down -/

def entered (ns : List String) : List String :=
  ns.filter fun name => name != "" && name != "."

theorem entered_append (ns more : List String) : entered (ns ++ more) = entered ns ++ entered more :=
  List.filter_append _ _

theorem entered_cons {name : String} (h : Ordinary name) (ns : List String) :
    entered (name :: ns) = name :: entered ns :=
  List.filter_cons_of_pos (by simpa using ⟨h.ne_empty, h.ne_here⟩)

theorem entered_skip {name : String} (h : name = "" ∨ name = ".") (ns : List String) :
    entered (name :: ns) = entered ns :=
  List.filter_cons_of_neg (by rcases h with rfl | rfl <;> decide)

/-- **Below a place without links** names that do not go up lead straight down. -/
theorem leads_below {top : Location} (hl : ∀ xs target, fs.get? (xs ++ top) ≠ some (.link target)) {n : Nat}
    {here l : Location} {ns : List String} {e : Entry} (h : Leads fs ending n here ns (.found l e)) :
    (∃ xs, here = xs ++ top) → (∀ name ∈ ns, name ≠ "..") → fs.get? here = some .directory →
      l = (entered ns).reverse ++ here ∧ fs.get? l = some e := by
  generalize ht : Target.found l e = t at h
  induction h with
  | done =>
    cases ht
    exact fun _ _ hg => ⟨rfl, hg⟩
  | vacant => cases ht
  | skip hn _ ih =>
    intro hx hu hg
    rw [entered_skip hn]
    exact ih ht hx (fun name hm => hu name (List.mem_cons_of_mem _ hm)) hg
  | up => exact fun _ hu => absurd rfl (hu ".." List.mem_cons_self)
  | @enter n here name rest t hn ho he _ ih =>
    rintro ⟨xs, rfl⟩ hu -
    rw [entered_cons hn, List.reverse_cons, List.append_assoc]
    exact ih ht ⟨name :: xs, rfl⟩ (fun name hm => hu name (List.mem_cons_of_mem _ hm)) he
  | file hn he =>
    cases ht
    intro _ _ _
    rw [entered_cons hn]
    exact ⟨rfl, he⟩
  | link hn _ he =>
    cases ht
    intro _ _ _
    rw [entered_cons hn]
    exact ⟨rfl, he⟩
  | @follow n here name target rest t hn ho hk he _ ih =>
    rintro ⟨xs, rfl⟩ - -
    exact absurd he (hl (name :: xs) target)

/-- After names that lead to a directory a walk goes on from there, whatever is to be done at its end. -/
theorem Leads.rest {m n : Nat} {here d : Location} {ns more : List String} {t : Target} (hm : more ≠ [])
    (hd : Leads fs .followed m here ns (.found d .directory)) (h : Leads fs ending n here (ns ++ more) t) :
    ∃ k, Leads fs ending k d more t := by
  generalize ht : Target.found d .directory = t' at hd
  induction hd generalizing n with
  | vacant | file | link => cases ht
  | done =>
    cases ht
    exact ⟨n, h⟩
  | @skip _ _ _ rest _ hn _ ih =>
    rw [List.cons_append] at h
    generalize hr : rest ++ more = after at h
    cases h with
    | skip _ h => exact ih (hr ▸ h) ht
    | up h => simp at hn
    | vacant ho | enter ho | file ho | link ho | follow ho => exact absurd hn (by simp [ho.ne_empty, ho.ne_here])
  | @up _ _ rest _ _ ih =>
    rw [List.cons_append] at h
    generalize hr : rest ++ more = after at h
    cases h with
    | skip hn _ => simp at hn
    | up h => exact ih (hr ▸ h) ht
    | vacant ho | enter ho | file ho | link ho | follow ho => exact absurd rfl ho.ne_up
  | @enter _ _ _ rest _ hn _ hg _ ih =>
    rw [List.cons_append] at h
    generalize hr : rest ++ more = after at h
    cases h with
    | skip ho _ => exact absurd ho (by simp [hn.ne_empty, hn.ne_here])
    | up _ => exact absurd rfl hn.ne_up
    | enter _ _ _ h => exact ih (hr ▸ h) ht
    | vacant _ hg' | file _ hg' | link _ _ hg' | follow _ _ _ hg' => rw [hg] at hg'; cases hg'
  | @follow _ _ _ target rest _ hn _ _ hg _ ih =>
    rw [List.cons_append] at h
    generalize hr : rest ++ more = after at h
    cases h with
    | skip ho _ => exact absurd ho (by simp [hn.ne_empty, hn.ne_here])
    | up _ => exact absurd rfl hn.ne_up
    | link => simp [hm] at hr
    | vacant _ hg' | file _ hg' | enter _ _ hg' => rw [hg] at hg'; cases hg'
    | follow _ _ _ hg' h =>
      rw [hg] at hg'
      cases hg'
      exact ih (by rw [List.append_assoc, hr]; exact h) ht

theorem leads_on {name : String} {d l : Location} (ho : Ordinary name) {n : Nat} {rest : List String} {e : Entry}
    (hl : ∀ xs target, fs.get? (xs ++ name :: d) ≠ some (.link target)) (hrest : rest ≠ [] ∨ e = .directory)
    (hu : ∀ name ∈ rest, name ≠ "..") (hd : Leads fs ending n d (name :: rest) (.found l e)) :
    l = (entered rest).reverse ++ name :: d ∧ fs.get? l = some e := by
  cases hd with
  | skip hs _ => exact absurd hs (by simp [ho.ne_empty, ho.ne_here])
  | up _ => exact absurd rfl ho.ne_up
  | enter _ _ hg hd => exact leads_below hl hd ⟨[], rfl⟩ hu hg
  | file => simp at hrest
  | link => simp at hrest
  | follow _ _ _ hg _ => exact absurd hg (hl [] _)

/-! ## Directories one in the other -/

/-- **The first missing name on a path**: those before it lead to the directory that it is missing in. -/
structure Gap (fs : FileSystem) (path : String) (before : List String) (name : String) (after : List String)
    (d : Location) : Prop where
  names : names path = before ++ name :: after
  ordinary : Ordinary name
  leads : Leads fs .followed linkLimit (origin fs.current path) before (.found d .directory)
  missing : fs.get? (name :: d) = none

/-- A directory at a place or below it, at most `room` names deep. -/
def Sunk (top : Location) (room : Nat) (l : Location) (e : Entry) : Prop :=
  e = .directory ∧ ∃ xs : List String, l = xs ++ top ∧ xs.length ≤ room

/-- **The files while the directory at a path is made**: as before, or with directories from the first missing name of
the path on. -/
inductive Reached (fs : FileSystem) (path : String) (fs' : FileSystem) : Prop
  | same (h : fs' = fs)
  | opened {before : List String} {name : String} {after : List String} {d : Location}
    (g : Gap fs path before name after d) (h : Grows (Sunk (name :: d) (entered after).length) fs fs')

/-- After its first missing name the path does not go up. -/
def Descending (fs : FileSystem) (path : String) : Prop :=
  ∀ before name after d, Gap fs path before name after d → ∀ x ∈ after, x ≠ ".."

theorem Rooted.sunk {top : Location} {room : Nat} (hr : Rooted fs) (hm : fs.get? top = none)
    (h : Grows (Sunk top room) fs fs') {xs : List String} {e : Entry} (he : fs'.get? (xs ++ top) = some e) :
    e = .directory ∧ xs.length ≤ room := by
  rcases h.added _ _ he with he | ⟨hd, ys, hx, hy⟩
  · rw [hr.below hm xs] at he
    cases he
  · rw [List.append_cancel_right hx]
    exact ⟨hd, hy⟩

theorem Rooted.no_link {top : Location} {room : Nat} (hr : Rooted fs) (hm : fs.get? top = none)
    (h : Grows (Sunk top room) fs fs') (xs : List String) (target : String) :
    fs'.get? (xs ++ top) ≠ some (.link target) := by
  intro he
  cases (hr.sunk hm h he).1

/-- **One more directory** on the way. -/
theorem Reached.make {path : String} (hr : Rooted fs) (hu : Descending fs path) (h : Reached fs path fs')
    (hm : makeDirectory path fs' = .ok fs'') : Reached fs path fs'' := by
  obtain ⟨p, hp, hg, rfl⟩ := makeDirectory_eq_ok hm
  obtain ⟨-, before', name', d', hb', ho', hd', rfl⟩ := place_eq_ok.1 hp
  cases h with
  | same h =>
    subst h
    exact .opened ⟨hb', ho', hd', hg⟩ (Grows.put hg ⟨rfl, [], rfl, Nat.zero_le _⟩)
  | @opened before name after d g hgrow =>
    refine .opened g (hgrow.trans (Grows.put hg ⟨rfl, ?_⟩))
    rw [hgrow.current] at hd'
    have hd := g.leads.ways hgrow.ways
    have hn := g.names
    rcases List.eq_nil_or_concat after with rfl | ⟨inner, last, rfl⟩
    · obtain ⟨rfl, hname⟩ := List.append_inj' (hb'.symm.trans hn) rfl
      cases hname
      cases (walk_eq_ok.2 hd').symm.trans (walk_eq_ok.2 hd)
      exact ⟨[], rfl, Nat.zero_le _⟩
    · have hin : ∀ x ∈ inner, x ≠ ".." := fun x hx => hu _ _ _ _ g x (by rw [List.concat_eq_append]; simp [hx])
      rw [List.concat_eq_append] at hn ⊢
      rw [← List.cons_append, ← List.append_assoc] at hn
      obtain ⟨rfl, hlast⟩ := List.append_inj' (hb'.symm.trans hn) rfl
      cases hlast
      obtain ⟨k, hk⟩ := hd.append
      obtain ⟨rfl, -⟩ := leads_on g.ordinary (hr.no_link g.missing hgrow) (.inr rfl) hin ((hk _ _).1 hd')
      refine ⟨name' :: (entered inner).reverse, rfl, ?_⟩
      rw [entered_append, entered_cons ho']
      simp [entered]

/-! ## From a directory to the one around it -/

theorem names_part {path parent : String} {rest : List (List Char)}
    (h : Path.solid (Path.split path.toList) = Path.solid (Path.split parent.toList) ++ rest) :
    names path = names parent ++ rest.map String.ofList := by
  unfold names
  rw [show (Path.split path.toList).filter (· != []) = _ from h, List.map_append]
  rfl

theorem Gap.longer {path longer : String} {before after rest : List String} {name : String} {d : Location}
    (g : Gap fs path before name after d) (ha : Path.isAbsolute path = Path.isAbsolute longer)
    (h : FileSystem.names longer = FileSystem.names path ++ rest) : Gap fs longer before name (after ++ rest) d := by
  refine ⟨?_, g.ordinary, ?_, g.missing⟩
  · rw [h, g.names, List.append_assoc, List.cons_append]
  · have := g.leads
    unfold origin at this ⊢
    rwa [← ha]

theorem not_gap_empty {before after : List String} {name : String} {d : Location} : ¬Gap fs "" before name after d := by
  intro g
  have := g.names
  simp [FileSystem.names, Path.split] at this

theorem not_gap_here {before after : List String} {name : String} {d : Location} : ¬Gap fs "." before name after d := by
  intro g
  have hn := g.names
  rw [show FileSystem.names "." = [] ++ ["."] by decide] at hn
  cases before with
  | nil => exact g.ordinary.ne_here (List.cons.inj hn).1.symm
  | cons x xs => simp at hn

theorem Gap.of_parent {path parent : String} (hp : Path.parent? path = some parent) {before after : List String}
    {name : String} {d : Location} (g : Gap fs parent before name after d) :
    ∃ rest, Gap fs path before name (after ++ rest) d := by
  have hempty : Path.parent? path = none ∨ Path.parent? path = some "" → False := by
    rintro (h' | h') <;> rw [hp] at h' <;> cases h'
    exact not_gap_empty g
  cases Path.parentText path with
  | dots hp' => exact (hempty hp').elim
  | name hp' => exact (hempty (.inr hp')).elim
  | part hp' _ _ ha _ _ _ hs =>
    cases hp.symm.trans hp'
    rw [List.append_assoc] at hs
    exact ⟨_, g.longer ha (names_part hs)⟩

theorem reached_parent {path parent : String} (hp : Path.parent? path = some parent) (h : Reached fs parent fs') :
    Reached fs path fs' := by
  cases h with
  | same h => exact .same h
  | opened g hgrow =>
    obtain ⟨rest, g'⟩ := g.of_parent hp
    refine .opened g' (hgrow.mono ?_)
    rintro l e ⟨he, xs, hl, hx⟩
    refine ⟨he, xs, hl, Nat.le_trans hx ?_⟩
    rw [entered_append, List.length_append]
    exact Nat.le_add_right _ _

theorem descending_parent {path parent : String} (hp : Path.parent? path = some parent) (h : Descending fs path) :
    Descending fs parent := by
  intro before name after d g x hx
  obtain ⟨rest, g'⟩ := g.of_parent hp
  exact h _ _ _ _ g' x (List.mem_append_left rest hx)

theorem descending_directory {path : String} (h : Descending fs path) : Descending fs (Path.directory path) := by
  cases hp : Path.parent? path with
  | none =>
    rw [Path.directory_of_none (.inl hp)]
    exact fun _ _ _ _ g => (not_gap_here g).elim
  | some parent =>
    by_cases hne : parent.toList = []
    · rw [Path.directory_of_none (.inr (by rw [hp, String.toList_eq_nil_iff.1 hne]))]
      exact fun _ _ _ _ g => (not_gap_here g).elim
    · rw [Path.directory_of_parent? hp hne]
      exact descending_parent hp h

end FileSystem

/-! ## Making the directories -/

namespace Directory

open FileSystem (Reached Rooted Descending)

theorem make_reached {before : FileSystem} {path : String} {host : Host} (hr : Rooted before)
    (hu : Descending before path) (h : Reached before path host.files) :
    (make path host).Throughout (Reached before path) := by
  have hp := Outcome.Throughout.perform h fun fs hm => h.make hr hu hm
  refine hp.bind ?_
  cases (Run.perform (FileSystem.makeDirectory path) host).value with
  | ok u => exact .idle hp.after
  | error e => exact .idle hp.after

/-- **While directories are made** at every point only those from the first missing name on are new. -/
theorem ensureWithin_reached : ∀ (n : Nat) (path : String) (host : Host), Rooted host.files →
    Descending host.files path →
    (ensureWithin n path host).Throughout (Reached host.files path)
  | 0, _, _, _, _ => .idle (.same rfl)
  | n + 1, path, host, hr, hu => by
    unfold ensureWithin
    split
    · exact .idle (.same rfl)
    cases hm : FileSystem.makeDirectory path host.files with
    | ok fs =>
      have hreached := Reached.make hr hu (.same rfl) hm
      rw [Run.bind_of_eq (Run.perform_ok host hm)]
      exact .one hreached
    | error e =>
      rw [Run.bind_of_idle (Run.perform_error host hm)]
      cases e with
      | notFound =>
        dsimp only
        cases hp : Path.parent? path with
        | none => exact .idle (.same rfl)
        | some parent =>
          have ih := (ensureWithin_reached n parent host hr (FileSystem.descending_parent hp hu)).mono
            fun fs h => FileSystem.reached_parent hp h
          refine ih.bind ?_
          cases (ensureWithin n parent host).value with
          | ok u => exact make_reached hr hu ih.after
          | error e => exact .idle ih.after
      | _ => exact .idle (.same rfl)

theorem ensure_reached (path : String) (host : Host) (hr : Rooted host.files) (hu : Descending host.files path) :
    (ensure path host).Throughout (Reached host.files path) :=
  ensureWithin_reached _ path host hr hu

end Directory

/-! ## What the path names meanwhile -/

namespace FileSystem

variable {fs fs' fs'' : FileSystem}

/-- The last name of a path that is no `.`. -/
def lastName? (path : String) : Option String :=
  (entered (names path)).getLast?

theorem lastName?_of_place {unnamed : OsError} {path : String} {p : Place} (h : fs.place unnamed path = .ok p) :
    ∃ name dir, p.location = name :: dir ∧ lastName? path = some name := by
  obtain ⟨-, before, name, d, hb, ho, -, rfl⟩ := place_eq_ok.1 h
  refine ⟨name, d, rfl, ?_⟩
  unfold lastName?
  rw [hb, entered_append, entered_cons ho]
  simp [entered]

/-- A file with another name than the path's last one. -/
def Beside (path : String) (l : Location) (e : Entry) : Prop :=
  (∃ name dir, l = name :: dir ∧ lastName? path ≠ some name) ∧ ∃ content mode, e = .file content mode

theorem entered_slash (path : String) (h : path.toList ≠ []) : entered (route path) = entered (names path) := by
  rw [route_eq h, entered_append]
  split <;> simp [entered]

theorem lastName?_of_leads {path : String} (hne : path.toList ≠ []) {n : Nat} {here l : Location}
    {content : List UInt8} {mode : Nat}
    (h : Leads fs .asIs n here (route path) (.found l (.file content mode))) :
    ∃ name dir, l = name :: dir ∧ lastName? path = some name := by
  rcases List.eq_nil_or_concat (route path) with hr | ⟨before, name, hr⟩
  · rw [hr] at h
    cases h
  rw [List.concat_eq_append] at hr
  rw [hr] at h
  obtain ⟨d, hd⟩ := h.init before name rfl
  obtain ⟨k, hk⟩ := hd.rest (List.cons_ne_nil name []) h
  cases hk with
  | skip _ h | up h | enter _ _ _ h => cases h
  | follow _ _ hl => exact absurd ⟨rfl, rfl⟩ hl
  | file hn _ =>
    refine ⟨name, d, rfl, ?_⟩
    unfold lastName?
    rw [← entered_slash path hne, hr, entered_append, entered_cons hn]
    simp [entered]

theorem status?_of_beside {path : String} (hb : Grows (Beside path) fs fs') (hs : fs.status? path = none) :
    fs'.status? path = none := by
  refine Option.eq_none_iff_forall_ne_some.2 fun e he => ?_
  unfold status? at he
  split at he
  case h_2 => cases he
  rename_i l e' hres
  obtain ⟨hc, hl⟩ := resolve_eq_ok.1 hres
  have hw : Ways fs' fs := by
    intro l e hf hg
    rcases hb.added l e hg with hg | ⟨-, content, mode, rfl⟩
    · exact hg
    · exact absurd rfl (hf content mode)
  have hback : Leads fs .asIs linkLimit (origin fs.current path) (route path) (.found l e') := by
    rw [← hb.current]
    refine hl.transfer hw (fun l' content mode ht => ?_) (fun _ _ ht => by cases ht)
    cases ht
    obtain ⟨name, dir, rfl, hn⟩ := lastName?_of_leads (toList_ne_nil_of_checked hc) hl
    rcases hb.added _ _ hl.get?_found with hg | ⟨⟨name', dir', hd, hn'⟩, -⟩
    · exact hg
    · cases hd
      exact absurd hn hn'
  unfold status? at hs
  rw [resolve_eq_ok.2 ⟨hc, hback⟩] at hs
  cases hs

theorem names_directory {path : String} {before after : List String} {name : String} {d : Location}
    (g : Gap fs (Path.directory path) before name after d) :
    ∃ more, Gap fs path before name (after ++ more) d ∧ entered more ≠ [] := by
  have hempty : Path.parent? path = none ∨ Path.parent? path = some "" → False := fun hp =>
    not_gap_here (Path.directory_of_none hp ▸ g)
  cases Path.parentText path with
  | dots hp => exact (hempty hp).elim
  | name hp => exact (hempty (.inr hp)).elim
  | @part parent hp _ hne ha last dots tail hl _ _ hs =>
    rw [Path.directory_of_parent? hp hne] at g
    have hlast : last ≠ [] := by
      have : last ∈ Path.solid (Path.split path.toList) := by rw [hs]; simp
      simpa using (List.mem_filter.1 this).2
    rw [List.append_assoc] at hs
    refine ⟨_, g.longer ha (names_part hs), ?_⟩
    refine List.ne_nil_of_mem (a := String.ofList last) (List.mem_filter.2 ⟨by simp, ?_⟩)
    have hdot : String.ofList last ≠ "." := fun he => hl (by rw [← String.toList_ofList (l := last), he]; rfl)
    have hnil : String.ofList last ≠ "" := fun he => hlast (by rw [← String.toList_ofList (l := last), he]; rfl)
    simp [hdot, hnil]

theorem Gap.lastName?_eq {path name : String} {before rest : List String} {d : Location}
    (g : Gap fs path before name rest d) (h : entered rest ≠ []) : lastName? path = (entered rest).getLast? := by
  unfold lastName?
  rw [g.names, ← List.singleton_append, ← List.append_assoc, entered_append, List.getLast?_append_of_ne_nil _ h]

theorem route_names {path : String} (h : path.toList ≠ []) :
    ∃ slash, route path = names path ++ slash ∧ entered slash = [] ∧ ∀ x ∈ slash, x ≠ ".." := by
  refine ⟨_, route_eq h, ?_⟩
  split
  · exact ⟨rfl, by decide⟩
  · exact ⟨rfl, nofun⟩

/-- **On from the first missing name** the walk has met new directories only, each in the other. -/
theorem Gap.resolve {path name : String} {before rest : List String} {d l : Location} {room : Nat} {e : Entry}
    (g : Gap fs path before name rest d) (hr : Rooted fs) (hu : Descending fs path)
    (hgrow : Grows (Sunk (name :: d) room) fs fs') (hb : Grows (Beside path) fs' fs'') (hrest : entered rest ≠ [])
    (h : fs''.resolve .asIs path = .ok (.found l e)) :
    l = (entered rest).reverse ++ name :: d ∧ fs''.get? l = some e := by
  obtain ⟨hc, hl⟩ := resolve_eq_ok.1 h
  obtain ⟨slash, hroute, hslash, hup⟩ := route_names (toList_ne_nil_of_checked hc)
  rw [hb.current, hgrow.current, hroute, g.names, List.append_assoc, List.cons_append] at hl
  obtain ⟨k, hk⟩ := ((g.leads.ways hgrow.ways).ways hb.ways).rest (List.cons_ne_nil _ _) hl
  have hlink : ∀ xs target, fs''.get? (xs ++ name :: d) ≠ some (.link target) := by
    intro xs target hg
    rcases hb.added _ _ hg with hg | ⟨-, content, mode, hg⟩
    · exact hr.no_link g.missing hgrow xs target hg
    · cases hg
  have hin : ∀ x ∈ rest ++ slash, x ≠ ".." := by
    intro x hx
    rcases List.mem_append.1 hx with hx | hx
    · exact hu _ _ _ _ g x hx
    · exact hup x hx
  have hne : rest ++ slash ≠ [] := fun h => hrest (by rw [(List.append_eq_nil_iff.1 h).1]; rfl)
  obtain ⟨rfl, hg⟩ := leads_on g.ordinary hlink (.inl hne) hin hk
  rw [entered_append, hslash, List.append_nil] at hg ⊢
  exact ⟨rfl, hg⟩

/-- **While the directory of a path is made, and a file beside it, the path names nothing** if it named nothing before
and does not go up after its first missing name. -/
theorem status?_of_reached {path : String} (hr : Rooted fs) (hu : Descending fs path)
    (h : Reached fs (Path.directory path) fs') (hb : Grows (Beside path) fs' fs'') (hs : fs.status? path = none) :
    fs''.status? path = none := by
  cases h with
  | same h =>
    subst h
    exact status?_of_beside hb hs
  | @opened before name after d g hgrow =>
    refine Option.eq_none_iff_forall_ne_some.2 fun e he => ?_
    unfold status? at he
    split at he
    case h_2 => cases he
    rename_i l e' hres
    obtain ⟨more, g', hdeep⟩ := names_directory g
    have hrest : entered (after ++ more) ≠ [] := by
      rw [entered_append]
      exact List.append_ne_nil_of_right_ne_nil _ hdeep
    obtain ⟨rfl, hg⟩ := g'.resolve hr hu hgrow hb hrest hres
    rcases hb.added _ _ hg with hg | ⟨⟨name', dir, hl, hn⟩, -⟩
    · -- it lies deeper than any directory that was made
      have hlen := (hr.sunk g.missing hgrow hg).2
      have := List.length_pos_of_ne_nil hdeep
      rw [List.length_reverse, entered_append, List.length_append] at hlen
      omega
    · refine hn ?_
      obtain ⟨last, init, hlast⟩ := List.exists_cons_of_ne_nil (List.reverse_ne_nil_iff.2 hrest)
      rw [hlast, List.cons_append] at hl
      rw [g'.lastName?_eq hrest, ← List.head?_reverse, hlast, (List.cons.inj hl).1]
      rfl

end FileSystem
end TokenCache
