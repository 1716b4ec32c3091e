import TokenCache.FileSystem.Operations
/-!
# Walks

`Leads` says by rules where names lead from a directory: one rule for each kind of name and entry.  A walk gives an
answer exactly when the rules do (`walk_eq_ok`), so what follows about walks is shown by induction on the rules:
- a walk that finds an entry finds it in every file system that has more entries (`Leads.transfer`);
- a walk that ends at a directory has met directories and links only (`Leads.ways`);
- after the names before it a walk goes on with the names that are left (`Leads.append`).
-/
namespace TokenCache
namespace FileSystem

/-- A name that is looked up in a directory. -/
structure Ordinary (name : String) : Prop where
  ne_empty : name ≠ ""
  ne_here : name ≠ "."
  ne_up : name ≠ ".."
  short : name.utf8ByteSize ≤ nameLimit

/-- **Where names lead from a directory**, through at most `n` links. -/
inductive Leads (fs : FileSystem) (ending : Ending) : Nat → Location → List String → Target → Prop
  | done {n : Nat} {here : Location} : Leads fs ending n here [] (.found here .directory)
  | skip {n : Nat} {here : Location} {name : String} {rest : List String} {t : Target} (hn : name = "" ∨ name = ".")
      (h : Leads fs ending n here rest t) : Leads fs ending n here (name :: rest) t
  | up {n : Nat} {here : Location} {rest : List String} {t : Target} (h : Leads fs ending n here.tail rest t) :
      Leads fs ending n here (".." :: rest) t
  | vacant {n : Nat} {here : Location} {name : String} (hn : Ordinary name) (hg : fs.get? (name :: here) = none) :
      Leads fs ending n here [name] (.vacant here name)
  | enter {n : Nat} {here : Location} {name : String} {rest : List String} {t : Target} (hn : Ordinary name)
      (ho : ¬ (ending = .opened ∧ rest = [""])) (hg : fs.get? (name :: here) = some .directory)
      (h : Leads fs ending n (name :: here) rest t) : Leads fs ending n here (name :: rest) t
  | file {n : Nat} {here : Location} {name : String} {content : List UInt8} {mode : Nat} (hn : Ordinary name)
      (hg : fs.get? (name :: here) = some (.file content mode)) :
      Leads fs ending n here [name] (.found (name :: here) (.file content mode))
  | link {n : Nat} {here : Location} {name target : String} (hn : Ordinary name) (he : ending = .asIs)
      (hg : fs.get? (name :: here) = some (.link target)) :
      Leads fs ending n here [name] (.found (name :: here) (.link target))
  | follow {n : Nat} {here : Location} {name target : String} {rest : List String} {t : Target} (hn : Ordinary name)
      (ho : ¬ (ending = .opened ∧ rest = [""])) (hl : ¬ (rest = [] ∧ ending = .asIs))
      (hg : fs.get? (name :: here) = some (.link target))
      (h : Leads fs ending n (origin here target) (route target ++ rest) t) :
      Leads fs ending (n + 1) here (name :: rest) t

/-! ## Walks and rules -/

variable {fs fs' : FileSystem} {ending : Ending}

/-- What takes over at a link when `n` links are left. -/
def jump (fs : FileSystem) (ending : Ending) : Nat → Location → List String → Except OsError Target
  | 0 => fun _ _ => .error .tooManyLinks
  | n + 1 => walk fs ending n

theorem walk_eq_descend (fs : FileSystem) (ending : Ending) (n : Nat) :
    walk fs ending n = descend fs ending (jump fs ending n) := by
  cases n <;> rfl

theorem leads_of_descend {n : Nat}
    (ih : ∀ here names t, jump fs ending n here names = .ok t → ∃ k, n = k + 1 ∧ Leads fs ending k here names t) :
    ∀ (names : List String) (here : Location) (t : Target), descend fs ending (jump fs ending n) here names = .ok t →
      Leads fs ending n here names t
  | [], here, t, h => by
    cases h
    exact .done
  | name :: rest, here, t, h => by
    have ihr := leads_of_descend ih rest
    unfold descend at h
    split at h
    · rename_i hn
      exact .skip (by simpa using hn) (ihr here t h)
    rename_i hn
    split at h
    · rename_i hup
      subst hup
      exact .up (ihr here.tail t h)
    rename_i hup
    split at h
    · cases h
    rename_i ho
    split at h
    · cases h
    rename_i hs
    have hord : Ordinary name := by
      simp only [Bool.or_eq_true, decide_eq_true_eq, not_or] at hn
      exact ⟨hn.1, hn.2, hup, by omega⟩
    have ho : ¬ (ending = .opened ∧ rest = [""]) := by simpa using ho
    split at h
    · rename_i hg
      split at h
      · rename_i hr
        cases h
        rw [List.isEmpty_iff.1 hr]
        exact .vacant hord hg
      · cases h
    · rename_i hg
      exact .enter hord ho hg (ihr (name :: here) t h)
    · rename_i content mode hg
      split at h
      · rename_i hr
        cases h
        rw [List.isEmpty_iff.1 hr]
        exact .file hord hg
      · cases h
    · rename_i target hg
      split at h
      · rename_i hr
        cases h
        simp only [Bool.and_eq_true, List.isEmpty_iff, decide_eq_true_eq] at hr
        rw [hr.1]
        exact .link hord hr.2 hg
      · rename_i hl
        obtain ⟨k, rfl, hk⟩ := ih _ _ t h
        exact .follow hord ho (by simpa using hl) hg hk

theorem leads_of_walk : ∀ (n : Nat) (here : Location) (names : List String) (t : Target),
    walk fs ending n here names = .ok t → Leads fs ending n here names t
  | 0, here, names, t, h => leads_of_descend (n := 0) (fun _ _ _ h => by cases h) names here t h
  | n + 1, here, names, t, h =>
    leads_of_descend (n := n + 1) (fun _ _ _ h => ⟨n, rfl, leads_of_walk n _ _ _ h⟩) names here t h

theorem descend_ordinary {name : String} (hn : Ordinary name) {rest : List String}
    (ho : ¬ (ending = .opened ∧ rest = [""]))
    (jump : Location → List String → Except OsError Target) (here : Location) :
    descend fs ending jump here (name :: rest) = (match fs.get? (name :: here) with
      | none => if rest.isEmpty then .ok (.vacant here name) else .error .notFound
      | some .directory => descend fs ending jump (name :: here) rest
      | some (.file content mode) =>
        if rest.isEmpty then .ok (.found (name :: here) (.file content mode)) else .error .notDirectory
      | some (.link target) =>
        if rest.isEmpty && ending = .asIs then .ok (.found (name :: here) (.link target))
        else jump (origin here target) (route target ++ rest)) := by
  have hs : ¬ nameLimit < name.utf8ByteSize := by have := hn.short; omega
  conv => lhs; unfold descend
  refine (if_neg (by simpa using ⟨hn.ne_empty, hn.ne_here⟩)).trans ((if_neg hn.ne_up).trans ?_)
  exact (if_neg (by simpa using ho)).trans (if_neg hs)

theorem walk_of_leads {n : Nat} {here : Location} {names : List String} {t : Target}
    (h : Leads fs ending n here names t) :
    walk fs ending n here names = .ok t := by
  induction h with
  | done => rw [walk_eq_descend]; rfl
  | skip hn _ ih =>
    rw [walk_eq_descend] at ih ⊢
    unfold descend
    rw [if_pos (by simpa using hn), ih]
  | up _ ih =>
    rw [walk_eq_descend] at ih ⊢
    unfold descend
    rw [if_neg (by decide), if_pos rfl, ih]
  | vacant hn hg =>
    rw [walk_eq_descend, descend_ordinary hn (by simp), hg]
    rfl
  | enter hn ho hg _ ih =>
    rw [walk_eq_descend] at ih ⊢
    rw [descend_ordinary hn ho, hg]
    exact ih
  | file hn hg =>
    rw [walk_eq_descend, descend_ordinary hn (by simp), hg]
    rfl
  | link hn he hg =>
    rw [walk_eq_descend, descend_ordinary hn (by simp), hg]
    simp [he]
  | follow hn ho hl hg _ ih =>
    rw [walk_eq_descend, descend_ordinary hn ho, hg]
    dsimp only
    rw [if_neg (by simpa using hl)]
    exact ih

/-- **A walk gives an answer exactly when the rules do.** -/
theorem walk_eq_ok {n : Nat} {here : Location} {names : List String} {t : Target} :
    walk fs ending n here names = .ok t ↔ Leads fs ending n here names t :=
  ⟨leads_of_walk n here names t, walk_of_leads⟩

/-! ## Walks in two file systems -/

/-- The directories and links of the one file system are there in the other. -/
def Ways (fs fs' : FileSystem) : Prop :=
  ∀ l e, (∀ content mode, e ≠ .file content mode) → fs.get? l = some e → fs'.get? l = some e

theorem Leads.transfer {n : Nat} {here : Location} {names : List String} {t : Target} (hw : Ways fs fs')
    (h : Leads fs ending n here names t)
    (hf : ∀ l content mode, t = .found l (.file content mode) → fs'.get? l = some (.file content mode))
    (hv : ∀ dir name, t = .vacant dir name → fs'.get? (name :: dir) = none) : Leads fs' ending n here names t := by
  induction h with
  | done => exact .done
  | skip hn _ ih => exact .skip hn (ih hf hv)
  | up _ ih => exact .up (ih hf hv)
  | vacant hn _ => exact .vacant hn (hv _ _ rfl)
  | enter hn ho hg _ ih => exact .enter hn ho (hw _ _ (by simp) hg) (ih hf hv)
  | file hn _ => exact .file hn (hf _ _ _ rfl)
  | link hn he hg => exact .link hn he (hw _ _ (by simp) hg)
  | follow hn ho hl hg _ ih => exact .follow hn ho hl (hw _ _ (by simp) hg) (ih hf hv)

/-- **A walk that ends at a directory** has met directories and links only. -/
theorem Leads.ways {n : Nat} {here d : Location} {names : List String} (hw : Ways fs fs')
    (h : Leads fs ending n here names (.found d .directory)) : Leads fs' ending n here names (.found d .directory) :=
  h.transfer hw (fun _ _ _ he => by cases he) (fun _ _ he => by cases he)

/-- What is found, other than a directory, is there. -/
theorem Leads.get?_found {n : Nat} {here l : Location} {names : List String} {content : List UInt8} {mode : Nat}
    (h : Leads fs ending n here names (.found l (.file content mode))) : fs.get? l = some (.file content mode) := by
  generalize ht : Target.found l (.file content mode) = t at h
  induction h with
  | done => cases ht
  | vacant => cases ht
  | link => cases ht
  | skip _ _ ih => exact ih ht
  | up _ ih => exact ih ht
  | enter _ _ _ _ ih => exact ih ht
  | follow _ _ _ _ _ ih => exact ih ht
  | file _ hg => cases ht; exact hg

theorem Leads.get?_vacant {n : Nat} {here dir : Location} {names : List String} {name : String}
    (h : Leads fs ending n here names (.vacant dir name)) : fs.get? (name :: dir) = none := by
  generalize ht : Target.vacant dir name = t at h
  induction h with
  | done => cases ht
  | file => cases ht
  | link => cases ht
  | skip _ _ ih => exact ih ht
  | up _ ih => exact ih ht
  | enter _ _ _ _ ih => exact ih ht
  | follow _ _ _ _ _ ih => exact ih ht
  | vacant _ hg => cases ht; exact hg

/-- **A file made where a walk found nothing** is what the walk finds then. -/
theorem Leads.fill {n : Nat} {here dir : Location} {names : List String} {name : String} {content : List UInt8}
    {mode : Nat}
    (hw : Ways fs fs') (h : Leads fs ending n here names (.vacant dir name))
    (hg : fs'.get? (name :: dir) = some (.file content mode)) :
    Leads fs' ending n here names (.found (name :: dir) (.file content mode)) := by
  generalize ht : Target.vacant dir name = t at h
  induction h with
  | done => cases ht
  | file => cases ht
  | link => cases ht
  | skip hn _ ih => exact .skip hn (ih ht)
  | up _ ih => exact .up (ih ht)
  | enter hn ho he _ ih => exact .enter hn ho (hw _ _ (by simp) he) (ih ht)
  | follow hn ho hl he _ ih => exact .follow hn ho hl (hw _ _ (by simp) he) (ih ht)
  | vacant hn _ => cases ht; exact .file hn hg

/-- To open is to follow, where opening is not refused. -/
theorem Leads.followed {n : Nat} {here : Location} {names : List String} {t : Target}
    (h : Leads fs .opened n here names t) : Leads fs .followed n here names t := by
  induction h with
  | done => exact .done
  | skip hn _ ih => exact .skip hn ih
  | up _ ih => exact .up ih
  | vacant hn hg => exact .vacant hn hg
  | enter hn _ hg _ ih => exact .enter hn (by simp) hg ih
  | file hn hg => exact .file hn hg
  | link _ he _ => cases he
  | follow hn _ _ hg _ ih => exact .follow hn (by simp) (by simp) hg ih

/-! ## Walks in two parts -/

section
variable {n : Nat} {here : Location} {name : String} {rest : List String} {t : Target}

theorem leads_skip (hn : name = "" ∨ name = ".") :
    Leads fs .followed n here (name :: rest) t ↔ Leads fs .followed n here rest t := by
  refine ⟨fun h => ?_, .skip hn⟩
  cases h with
  | skip _ h => exact h
  | up h => simp at hn
  | vacant ho | enter ho | file ho | follow ho => exact absurd hn (by simp [ho.ne_empty, ho.ne_here])
  | link _ he => cases he

theorem leads_up : Leads fs .followed n here (".." :: rest) t ↔ Leads fs .followed n here.tail rest t := by
  refine ⟨fun h => ?_, .up⟩
  cases h with
  | skip hn _ => simp at hn
  | up h => exact h
  | vacant ho | enter ho | file ho | follow ho => exact absurd rfl ho.ne_up
  | link _ he => cases he

theorem leads_enter (hn : Ordinary name) (hg : fs.get? (name :: here) = some .directory) :
    Leads fs .followed n here (name :: rest) t ↔ Leads fs .followed n (name :: here) rest t := by
  refine ⟨fun h => ?_, .enter hn (by simp) hg⟩
  cases h with
  | skip ho _ => exact absurd ho (by simp [hn.ne_empty, hn.ne_here])
  | up _ => exact absurd rfl hn.ne_up
  | enter _ _ _ h => exact h
  | vacant _ hg' | file _ hg' | follow _ _ _ hg' => rw [hg] at hg'; cases hg'
  | link _ he => cases he

theorem leads_file {content : List UInt8} {mode : Nat} (hn : Ordinary name)
    (hg : fs.get? (name :: here) = some (.file content mode)) :
    Leads fs .followed n here (name :: rest) t ↔ rest = [] ∧ t = .found (name :: here) (.file content mode) := by
  constructor
  · intro h
    cases h with
    | skip ho _ => exact absurd ho (by simp [hn.ne_empty, hn.ne_here])
    | up _ => exact absurd rfl hn.ne_up
    | file _ hg' => rw [hg] at hg'; cases hg'; exact ⟨rfl, rfl⟩
    | enter _ _ hg' | vacant _ hg' | follow _ _ _ hg' => rw [hg] at hg'; cases hg'
    | link _ he => cases he
  · rintro ⟨rfl, rfl⟩
    exact .file hn hg

theorem leads_follow {target : String} (hn : Ordinary name) (hg : fs.get? (name :: here) = some (.link target)) :
    Leads fs .followed n here (name :: rest) t ↔
      ∃ k, n = k + 1 ∧ Leads fs .followed k (origin here target) (route target ++ rest) t := by
  constructor
  · intro h
    cases h with
    | skip ho _ => exact absurd ho (by simp [hn.ne_empty, hn.ne_here])
    | up _ => exact absurd rfl hn.ne_up
    | follow _ _ _ hg' h => rw [hg] at hg'; cases hg'; exact ⟨_, rfl, h⟩
    | enter _ _ hg' | vacant _ hg' | file _ hg' => rw [hg] at hg'; cases hg'
    | link _ he => cases he
  · rintro ⟨k, rfl, h⟩
    exact .follow hn (by simp) (by simp) hg h

end

/-- **After the names that lead to a directory** a walk goes on from there, with the links that are left. -/
theorem Leads.append {n : Nat} {here d : Location} {names : List String}
    (h : Leads fs .followed n here names (.found d .directory)) :
    ∃ k, ∀ rest t, Leads fs .followed n here (names ++ rest) t ↔ Leads fs .followed k d rest t := by
  generalize ht : Target.found d .directory = t at h
  induction h with
  | vacant | file | link => cases ht
  | done => cases ht; exact ⟨_, fun _ _ => Iff.rfl⟩
  | skip hn _ ih =>
    obtain ⟨k, hk⟩ := ih ht
    exact ⟨k, fun more t => (leads_skip hn).trans (hk more t)⟩
  | up _ ih =>
    obtain ⟨k, hk⟩ := ih ht
    exact ⟨k, fun more t => leads_up.trans (hk more t)⟩
  | enter hn _ hg _ ih =>
    obtain ⟨k, hk⟩ := ih ht
    exact ⟨k, fun more t => (leads_enter hn hg).trans (hk more t)⟩
  | @follow n here name target rest t hn _ _ hg _ ih =>
    obtain ⟨k, hk⟩ := ih ht
    refine ⟨k, fun more t => (leads_follow hn hg).trans ?_⟩
    rw [← hk, List.append_assoc]
    simp

/-- An entry of the directory that names lead to, a link not followed. -/
theorem Leads.asIs {n : Nat} {here d : Location} {names : List String} {name : String} {e : Entry} (hn : Ordinary name)
    (hg : fs.get? (name :: d) = some e) (h : Leads fs .followed n here names (.found d .directory)) :
    Leads fs .asIs n here (names ++ [name]) (.found (name :: d) e) := by
  generalize ht : Target.found d .directory = t at h
  induction h with
  | vacant | file | link => cases ht
  | done =>
    cases ht
    cases e with
    | file content mode => exact .file hn hg
    | directory => exact .enter hn (by simp) hg .done
    | link target => exact .link hn rfl hg
  | skip hs _ ih => exact .skip hs (ih ht)
  | up _ ih => exact .up (ih ht)
  | enter ho _ he _ ih => exact .enter ho (by simp) he (ih ht)
  | follow ho _ _ he _ ih =>
    have h := ih ht
    rw [List.append_assoc] at h
    exact .follow ho (by simp) (by simp) he h

/-- The names before the last one lead to a directory. -/
theorem Leads.init {n : Nat} {here : Location} {all : List String} {t : Target} (h : Leads fs ending n here all t) :
    ∀ (names : List String) (name : String), all = names ++ [name] →
      ∃ d, Leads fs .followed n here names (.found d .directory) := by
  induction h with
  | done => intro names name he; simp at he
  | skip hn _ ih =>
    intro names name he
    rcases List.append_eq_cons_iff.1 he.symm with ⟨rfl, _⟩ | ⟨xs, rfl, hx⟩
    · exact ⟨_, .done⟩
    · obtain ⟨d, hd⟩ := ih xs name hx
      exact ⟨d, .skip hn hd⟩
  | up _ ih =>
    intro names name he
    rcases List.append_eq_cons_iff.1 he.symm with ⟨rfl, _⟩ | ⟨xs, rfl, hx⟩
    · exact ⟨_, .done⟩
    · obtain ⟨d, hd⟩ := ih xs name hx
      exact ⟨d, .up hd⟩
  | vacant | file | link =>
    intro names name he
    rcases List.append_eq_cons_iff.1 he.symm with ⟨rfl, _⟩ | ⟨xs, rfl, hx⟩
    · exact ⟨_, .done⟩
    · simp at hx
  | enter hn _ hg _ ih =>
    intro names name he
    rcases List.append_eq_cons_iff.1 he.symm with ⟨rfl, _⟩ | ⟨xs, rfl, hx⟩
    · exact ⟨_, .done⟩
    · obtain ⟨d, hd⟩ := ih xs name hx
      exact ⟨d, .enter hn (by simp) hg hd⟩
  | @follow n here first target rest t hn _ _ hg _ ih =>
    intro names name he
    rcases List.append_eq_cons_iff.1 he.symm with ⟨rfl, _⟩ | ⟨xs, rfl, hx⟩
    · exact ⟨_, .done⟩
    · obtain ⟨d, hd⟩ := ih (route target ++ xs) name (by rw [hx, List.append_assoc])
      exact ⟨d, .follow hn (by simp) (by simp) hg hd⟩

/-- **Nothing lies beyond a file.** -/
theorem Leads.not_beyond {m n : Nat} {here l d : Location} {names more : List String} {content : List UInt8}
    {mode : Nat}
    (h : Leads fs .followed m here names (.found l (.file content mode))) :
    ¬ Leads fs .followed n here (names ++ more) (.found d .directory) := by
  generalize ht : Target.found l (.file content mode) = t at h
  induction h generalizing n with
  | done | vacant | link => cases ht
  | skip hn _ ih => exact fun h => ih ht ((leads_skip hn).1 h)
  | up _ ih => exact fun h => ih ht (leads_up.1 h)
  | enter hn _ hg _ ih => exact fun h => ih ht ((leads_enter hn hg).1 h)
  | file hn hg => exact fun h => by cases ((leads_file hn hg).1 h).2
  | follow hn _ _ hg _ ih =>
    intro h
    obtain ⟨k, -, h⟩ := (leads_follow hn hg).1 h
    exact ih ht (by rw [List.append_assoc]; exact h)

end FileSystem
end TokenCache
