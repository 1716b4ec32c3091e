import TokenCache.FileSystem.Operations
/-!
# What files hold does not matter to paths

Two file systems are told apart by the content of one file at most (`AlikeBut`).  A path leads to the same place in
both, or fails for the same cause (`AlikeBut.place`), because a walk asks of a file only that it is one
(`walk_outline`).
-/
namespace TokenCache

/-- An entry without what a file holds. -/
def Entry.outline : Entry → Entry
  | file _ mode => .file [] mode
  | e => e

namespace FileSystem

/-- A target without what a file holds. -/
def Target.outline : Target → Target
  | found l e => .found l e.outline
  | t => t

/-- **Two file systems that differ at most in what the file at one location holds.** -/
structure AlikeBut (l : Location) (fs fs' : FileSystem) : Prop where
  current : fs.current = fs'.current
  others : ∀ l', l' ≠ l → fs.get? l' = fs'.get? l'
  outline : (fs.get? l).map Entry.outline = (fs'.get? l).map Entry.outline

variable {fs fs' : FileSystem} {ending : Ending}

/-! ## Walks -/

theorem outline_cases {e e' : Option Entry} (h : e.map Entry.outline = e'.map Entry.outline) :
    e = e' ∨ ∃ content content' mode, e = some (.file content mode) ∧ e' = some (.file content' mode) := by
  match e, e' with
  | none, none => exact .inl rfl
  | none, some _ => cases h
  | some _, none => cases h
  | some e, some e' =>
    have he : e.outline = e'.outline := Option.some.inj h
    cases e <;> cases e' <;> cases he
    case file.file content mode content' => exact .inr ⟨content, content', mode, rfl, rfl⟩
    all_goals exact .inl rfl

theorem descend_outline (hg : ∀ l, (fs.get? l).map Entry.outline = (fs'.get? l).map Entry.outline)
    {jump jump' : Location → List String → Except OsError Target}
    (hj : ∀ here names, (jump here names).map Target.outline = (jump' here names).map Target.outline) :
    ∀ (names : List String) (here : Location), (descend fs ending jump here names).map Target.outline =
      (descend fs' ending jump' here names).map Target.outline
  | [], here => rfl
  | name :: rest, here => by
    have ih := descend_outline hg hj rest
    unfold descend
    split
    · exact ih here
    split
    · exact ih here.tail
    split
    · rfl
    split
    · rfl
    rcases outline_cases (hg (name :: here)) with he | ⟨content, content', mode, he, he'⟩
    · rw [he]
      cases fs'.get? (name :: here) with
      | none => rfl
      | some e =>
        cases e with
        | file content mode => rfl
        | directory => exact ih (name :: here)
        | link target =>
          dsimp only
          split
          · rfl
          · exact hj _ _
    · rw [he, he']
      dsimp only
      split <;> rfl

/-- **A walk asks of a file only that it is one.** -/
theorem walk_outline (hg : ∀ l, (fs.get? l).map Entry.outline = (fs'.get? l).map Entry.outline) :
    ∀ (n : Nat) (here : Location) (names : List String),
      (walk fs ending n here names).map Target.outline = (walk fs' ending n here names).map Target.outline
  | 0, here, names => descend_outline hg (fun _ _ => rfl) names here
  | n + 1, here, names => descend_outline hg (walk_outline hg n) names here

theorem directoryAt_of_outline (hg : ∀ l, (fs.get? l).map Entry.outline = (fs'.get? l).map Entry.outline)
    (start : Location) (names : List String) : fs.directoryAt start names = fs'.directoryAt start names := by
  have hw : (walk fs .followed linkLimit start names).map Target.outline =
      (walk fs' .followed linkLimit start names).map Target.outline :=
    walk_outline hg linkLimit start names
  unfold directoryAt
  generalize walk fs .followed linkLimit start names = target at hw
  generalize walk fs' .followed linkLimit start names = target' at hw
  match target, target' with
  | .error e, .error e' =>
    cases hw
    rfl
  | .error _, .ok _ => cases hw
  | .ok _, .error _ => cases hw
  | .ok t, .ok t' =>
    have ht : t.outline = t'.outline := Except.ok.inj hw
    cases t with
    | vacant d name =>
      cases t' with
      | vacant d' name' => rfl
      | found l e => cases ht
    | found l e =>
      cases t' with
      | vacant d' name' => cases ht
      | found l' e' =>
        obtain ⟨rfl, he⟩ := Target.found.inj ht
        cases e <;> cases e' <;> cases he <;> rfl

namespace AlikeBut

variable {l : Location}

theorem refl (l : Location) (fs : FileSystem) : AlikeBut l fs fs :=
  ⟨rfl, fun _ _ => rfl, rfl⟩

theorem get?_outline (h : AlikeBut l fs fs') (l' : Location) :
    (fs.get? l').map Entry.outline = (fs'.get? l').map Entry.outline := by
  by_cases hl : l' = l
  · rw [hl]
    exact h.outline
  · rw [h.others l' hl]

/-- **A path names the same place in both**, or none for the same cause. -/
theorem place (h : AlikeBut l fs fs') (unnamed : OsError) (path : String) :
    fs.place unnamed path = fs'.place unnamed path := by
  unfold FileSystem.place
  simp only [h.current, directoryAt_of_outline h.get?_outline]

end AlikeBut
end FileSystem
end TokenCache
