import TokenCache.Proofs.FileSystem.Parents
/-!
# Components of paths

Joining and taking the directory work on the text of a path.  The components of what comes out are those of what went
in: a joined path has the components of its left side and then those that the right side adds (`components_join`), the
directory of a path has the components of the path but the last (`components_directory`).

All of this is read off the names along a path (`FileSystem.names`), of which the components are those that are not `.`,
and the first one of a relative path (`components_eq`).
-/
namespace TokenCache
namespace Path

open FileSystem (names)

namespace Components

/-- The components as one list, in which a slash stands for the root. -/
def steps (c : Components) : List String :=
  (if c.absolute then ["/"] else []) ++ c.names

/-- What comes before the last component, or the current directory if that is nothing. -/
def directory (c : Components) : Components :=
  if c.names = [] ∨ (c.absolute = false ∧ c.names.length = 1) then ⟨false, ["."]⟩ else ⟨c.absolute, c.names.dropLast⟩

end Components

/-! ## Names that count -/

/-- Whether a name leads from a directory to another place. -/
def moves (name : String) : Bool :=
  name != "" && name != "."

/-- The names along a path that are components. -/
def counted (absolute : Bool) (names : List String) : List String :=
  if absolute then names.filter moves else names.take 1 ++ (names.drop 1).filter moves

theorem moves_ofList (piece : List Char) : moves (String.ofList piece) = counts piece := by
  have h : ∀ cs : List Char, (String.ofList piece != String.ofList cs) = (piece != cs) := fun cs => by
    rw [Bool.eq_iff_iff, bne_iff_ne, bne_iff_ne, ne_eq, String.ofList_inj]
  exact congrArg₂ and (h []) (h ['.'])

theorem filter_moves_map (pieces : List (List Char)) :
    ((solid pieces).map String.ofList).filter moves = (pieces.filter counts).map String.ofList := by
  rw [List.filter_map]
  congr 1
  unfold solid
  rw [List.filter_filter]
  congr 1
  funext piece
  rw [Function.comp_apply, moves_ofList]
  unfold counts
  exact Bool.and_eq_left_iff_imp.2 fun h => (Bool.and_eq_true_iff.1 h).1

theorem counted_append {absolute : Bool} {front : List String} (h : absolute = false → front ≠ [])
    (more : List String) :
    counted absolute (front ++ more) = counted absolute front ++ more.filter moves := by
  unfold counted
  cases absolute with
  | true => exact List.filter_append _ _
  | false =>
    obtain ⟨name, rest, rfl⟩ := List.exists_cons_of_ne_nil (h rfl)
    simp

theorem filter_counted (absolute : Bool) (names : List String) :
    (counted absolute names).filter moves = names.filter moves := by
  unfold counted
  cases absolute with
  | true => simp
  | false =>
    rw [if_neg Bool.false_ne_true, List.filter_append, List.filter_filter]
    simp only [Bool.and_self]
    rw [← List.filter_append, List.take_append_drop]

/-- **The components of a path are the names along it that count.** -/
theorem components_eq (path : String) :
    components path = ⟨isAbsolute path, counted (isAbsolute path) (names path)⟩ := by
  obtain ⟨first, others, h⟩ := pieces path
  have hnames : names path = (solid (first :: others)).map String.ofList := by
    rw [← h.split]
    rfl
  unfold components
  rw [h.headAndTail, hnames, h.absolute]
  cases first with
  | nil =>
    cases others with
    | nil => rfl
    | cons piece others => exact congrArg _ (filter_moves_map _).symm
  | cons c cs => exact congrArg _ (congrArg _ (filter_moves_map others).symm)

theorem names_ne_nil {path : String} (hne : path.toList ≠ []) (hr : isAbsolute path = false) : names path ≠ [] := by
  obtain ⟨first, others, h⟩ := pieces path
  cases first with
  | nil =>
    -- a relative path that opens with a slash is empty
    rw [h.absolute] at hr
    have ho : others = [] := by simpa using hr
    rw [h.toList, ho] at hne
    exact absurd rfl hne
  | cons c cs =>
    unfold names
    rw [h.split]
    simp

/-! ## Joining -/

theorem split_append_slash : ∀ xs ys : List Char, split (xs ++ '/' :: ys) = split xs ++ split ys
  | [], ys => if_pos rfl
  | c :: cs, ys => by
    rw [List.cons_append, split, split, split_append_slash cs ys]
    by_cases hc : c = '/'
    · rw [if_pos hc, if_pos hc, List.cons_append]
    · rw [if_neg hc, if_neg hc]
      obtain ⟨piece, pieces, hs⟩ := List.exists_cons_of_ne_nil (split_ne_nil cs)
      rw [hs]
      rfl

theorem join_of_absolute (left : String) {right : String} (h : isAbsolute right = true) : join left right = right := by
  simp [join, h]

/-- The text of a joined path: the left side, but for a slash at its end, then a slash and the right side. -/
theorem join_text {left right : String} (hl : left.toList ≠ []) (hr : isAbsolute right = false) :
    ∃ text, (join left right).toList = text ++ '/' :: right.toList ∧
      (left.toList = text ∨ left.toList = text ++ ['/']) := by
  have he : left.toList.isEmpty = false := List.isEmpty_eq_false_iff.2 hl
  unfold join
  rw [hr, he, Bool.false_or, Bool.false_or]
  by_cases hs : left.toList.getLast? = some '/'
  · obtain ⟨text, ht⟩ := List.getLast?_eq_some_iff.1 hs
    refine ⟨text, ?_, .inr ht⟩
    rw [hs]
    simp [ht]
  · refine ⟨left.toList, ?_, .inl rfl⟩
    rw [if_neg (by simpa using hs)]
    simp

theorem isAbsolute_join {left right : String} (hl : left.toList ≠ []) (hr : isAbsolute right = false) :
    isAbsolute (join left right) = isAbsolute left := by
  obtain ⟨text, hj, ht⟩ := join_text hl hr
  unfold isAbsolute
  rw [hj]
  rcases ht with ht | ht
  · rw [ht] at hl ⊢
    rw [List.head?_append_of_ne_nil _ hl]
  · rw [ht]
    cases text <;> rfl

/-- **The names along a joined path** are those along its left side and then those along its right side. -/
theorem names_join {left right : String} (hl : left.toList ≠ []) (hr : isAbsolute right = false) :
    names (join left right) = names left ++ names right := by
  obtain ⟨text, hj, ht⟩ := join_text hl hr
  have hleft : solid (split left.toList) = solid (split text) := by
    rcases ht with ht | ht
    · rw [ht]
    · rw [ht, split_append_slash, solid_append]
      exact List.append_nil _
  show (solid (split (join left right).toList)).map String.ofList = (solid (split left.toList)).map String.ofList ++ _
  rw [hj, split_append_slash, solid_append, hleft, List.map_append]
  rfl

/-- **The components of a joined path.** -/
theorem components_join {left right : String} (hl : left.toList ≠ []) (hr : isAbsolute right = false) :
    components (join left right) =
      ⟨(components left).absolute, (components left).names ++ (names right).filter moves⟩ := by
  rw [components_eq, components_eq left, isAbsolute_join hl hr, names_join hl hr, counted_append (names_ne_nil hl)]

/-- **A relative path stays under the path that it is joined to.** -/
theorem steps_join {right : String} (left : String) (hr : isAbsolute right = false) :
    (components left).steps <+: (components (join left right)).steps := by
  by_cases hl : left.toList = []
  · rw [String.toList_eq_nil_iff.1 hl]
    exact List.nil_prefix
  · rw [components_join hl hr]
    unfold Components.steps
    rw [← List.append_assoc]
    exact List.prefix_append _ _

/-! ## The directory -/

theorem filter_moves_dots {pieces : List (List Char)} (h : ∀ piece ∈ pieces, piece = ['.']) :
    (pieces.map String.ofList).filter moves = [] := by
  rw [List.filter_eq_nil_iff]
  intro name hn
  obtain ⟨piece, hp, rfl⟩ := List.mem_map.1 hn
  rw [h piece hp]
  decide

theorem Components.directory_of_one {absolute : Bool} {names : List String}
    (h : names = [] ∨ (absolute = false ∧ names.length = 1)) :
    (⟨absolute, names⟩ : Components).directory = ⟨false, ["."]⟩ :=
  if_pos h

theorem Components.directory_concat {absolute : Bool} {front : List String} (h : absolute = false → front ≠ [])
    (name : String) : (⟨absolute, front ++ [name]⟩ : Components).directory = ⟨absolute, front⟩ := by
  unfold Components.directory
  rw [if_neg, List.dropLast_concat]
  rintro (he | ⟨ha, hl⟩)
  · simp at he
  · exact h ha (List.length_eq_zero_iff.1 (by simpa using hl))

/-- **The components of the directory of a path** are those of the path but the last. -/
theorem components_directory (path : String) : components (directory path) = (components path).directory := by
  have hnames : names path = (solid (split path.toList)).map String.ofList := rfl
  rw [components_eq path, hnames]
  cases parentText path with
  | dots hp hs =>
    rw [directory_of_none hp, Components.directory_of_one]
    · rfl
    cases isAbsolute path with
    | true => exact .inl (filter_moves_dots hs)
    | false =>
      generalize solid (split path.toList) = pieces at hs
      cases pieces with
      | nil => exact .inl rfl
      | cons piece tail =>
        refine .inr ⟨rfl, ?_⟩
        have ht := filter_moves_dots fun p hp => hs p (List.mem_cons_of_mem piece hp)
        simp [counted, ht]
  | name hp ha hn ht hs =>
    rw [directory_of_none (.inr hp), hs, ha, Components.directory_of_one]
    · rfl
    · simp [counted, filter_moves_dots ht]
  | @part parent hp hpre hne ha name dots tail hn hd ht hs =>
    have hsolid : name ≠ [] := by
      have hmem : name ∈ solid (split path.toList) := by rw [hs]; simp
      simpa using (List.mem_filter.1 hmem).2
    have hname : moves (String.ofList name) = true := by
      rw [moves_ofList]
      simp [counts, hsolid, hn]
    have hfront : isAbsolute path = false → names parent ≠ [] := fun h => names_ne_nil hne (ha.trans h)
    have hcounted : counted (isAbsolute path) ((solid (split path.toList)).map String.ofList) =
        counted (isAbsolute path) (names parent) ++ [String.ofList name] := by
      rw [hs, List.append_assoc, List.map_append, List.map_append, List.map_cons]
      refine (counted_append hfront _).trans (congrArg _ ?_)
      rw [List.filter_append, filter_moves_dots hd, List.filter_cons_of_pos hname, filter_moves_dots ht]
      rfl
    rw [directory_of_parent? hp hne, hcounted, Components.directory_concat, components_eq, ha]
    intro h
    obtain ⟨x, xs, hx⟩ := List.exists_cons_of_ne_nil (hfront h)
    simp [counted, h, hx]

end Path
end TokenCache
