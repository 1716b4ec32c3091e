/-!
# Paths

A path is a text whose pieces stand between slashes.  Joining and taking the parent work on the text and leave the rest
of it as written.  The components are the pieces that count: an empty piece does not, and `.` does only as the very
first piece of a relative path.
-/
namespace TokenCache
namespace Path

/-- The pieces between the slashes: one more than there are slashes. -/
def split : List Char → List (List Char)
  | [] => [[]]
  | c :: cs =>
    if c = '/' then [] :: split cs
    else match split cs with
      | piece :: pieces => (c :: piece) :: pieces
      | [] => [[c]]

/-- Pieces with slashes between them. -/
def unsplit : List (List Char) → List Char
  | [] => []
  | [piece] => piece
  | piece :: pieces => piece ++ '/' :: unsplit pieces

theorem split_ne_nil (cs : List Char) : split cs ≠ [] := by
  cases cs with
  | nil => simp [split]
  | cons c cs =>
    unfold split
    split
    · simp
    · split <;> simp

theorem unsplit_cons (piece : List Char) {pieces : List (List Char)} (h : pieces ≠ []) :
    unsplit (piece :: pieces) = piece ++ '/' :: unsplit pieces := by
  cases pieces with
  | nil => exact absurd rfl h
  | cons p ps => rfl

/-- Nothing is lost between the slashes. -/
theorem unsplit_split : ∀ cs : List Char, unsplit (split cs) = cs
  | [] => rfl
  | c :: cs => by
    have ih := unsplit_split cs
    unfold split
    by_cases h : c = '/'
    · rw [if_pos h, unsplit_cons _ (split_ne_nil cs), ih, h]; rfl
    · rw [if_neg h]
      generalize hs : split cs = s at ih
      cases s with
      | nil => exact absurd hs (split_ne_nil cs)
      | cons p ps =>
        cases ps with
        | nil => exact congrArg (c :: ·) ih
        | cons q qs => exact congrArg (c :: ·) ih

theorem not_mem_split : ∀ (cs piece : List Char), piece ∈ split cs → '/' ∉ piece
  | [], piece, h => by simp [split] at h; subst h; simp
  | c :: cs, piece, h => by
    have ih := not_mem_split cs
    unfold split at h
    by_cases hc : c = '/'
    · rw [if_pos hc] at h
      rcases List.mem_cons.1 h with h | h
      · subst h; simp
      · exact ih piece h
    · rw [if_neg hc] at h
      generalize hs : split cs = s at h ih
      cases s with
      | nil => exact absurd hs (split_ne_nil cs)
      | cons p ps =>
        rcases List.mem_cons.1 h with h | h
        · subst h
          have := ih p (by simp)
          simp [this, Ne.symm hc]
        · exact ih piece (by simp [h])

def isAbsolute (path : String) : Bool :=
  path.toList.head? == some '/'

/-- **`right` seen from `left`**: an absolute right side stands alone. -/
def join (left right : String) : String :=
  if isAbsolute right || left.toList.isEmpty || left.toList.getLast? == some '/' then
    (if isAbsolute right then right else left ++ right)
  else left ++ "/" ++ right

/-! ## Components -/

/-- Whether a piece that is not the first of a relative path counts. -/
def counts (piece : List Char) : Bool :=
  piece != [] && piece != ['.']

/-- The first piece, which stands for the root in an absolute path and counts even as `.` in a relative one, and the
others. -/
def headAndTail (path : String) : List Char × List (List Char) :=
  match split path.toList with
  | piece :: pieces => (piece, pieces)
  | [] => ([], [])

/-- The components of a path, and whether they start at the root. -/
structure Components where
  absolute : Bool
  names : List String
  deriving DecidableEq

def components (path : String) : Components :=
  let (first, others) := headAndTail path
  ⟨isAbsolute path, ((if first.isEmpty then [] else [first]) ++ others.filter counts).map String.ofList⟩

/-- Pieces up to the last one that counts. -/
def trimmed (pieces : List (List Char)) : List (List Char) :=
  (pieces.reverse.dropWhile fun piece => !counts piece).reverse

/-- **The path without its last component**, and without slashes and `.` pieces at the end of what is left; nothing for
an empty path or a root. -/
def parent? (path : String) : Option String :=
  let (first, others) := headAndTail path
  match (trimmed others).reverse with
  | _ :: before =>
    let left := trimmed before.reverse
    if isAbsolute path && left.isEmpty then some "/" else some (String.ofList (unsplit (first :: left)))
  | [] => if first.isEmpty then none else some ""

/-- The directory a path's last component is in: the current one, if the path names no other. -/
def directory (path : String) : String :=
  match parent? path with
  | some parent => if parent.isEmpty then "." else parent
  | none => "."

end Path
end TokenCache
