import TokenCache.Path
/-!
# File systems

A file system says what there is at each location: a file, a directory, or a link that names another path.  An
operation changes the entry at one location and leaves the others (`get?_put`), or fails with one of the causes in
`OsError`.  Who may do what is not told apart, and there is room for every file.
-/
namespace TokenCache

/-- Where an entry is: the names from it up to the root, so that a directory's location is the tail of its entries'. -/
abbrev Location := List String

inductive Entry
  | file (content : List UInt8) (mode : Nat)
  | directory
  | link (target : String)
  deriving DecidableEq

/-- The entries other than the root, and the directory that relative paths start from. -/
structure FileSystem where
  entries : List (Location × Entry)
  current : Location

/-! ## Causes of failure -/

inductive OsError
  | notFound
  | busy
  | alreadyExists
  | notDirectory
  | isDirectory
  | invalidArgument
  | nameTooLong
  | tooManyLinks
  /-- A path with a null character in it, which no call of the system can be made with. -/
  | nullInPath
  deriving DecidableEq

namespace OsError

/-- The system's number for a cause, if it is the system that gives it. -/
def number? : OsError → Option Nat
  | notFound => some 2
  | busy => some 16
  | alreadyExists => some 17
  | notDirectory => some 20
  | isDirectory => some 21
  | invalidArgument => some 22
  | nameTooLong => some 36
  | tooManyLinks => some 40
  | nullInPath => none

def reason : OsError → String
  | notFound => "No such file or directory"
  | busy => "Device or resource busy"
  | alreadyExists => "File exists"
  | notDirectory => "Not a directory"
  | isDirectory => "Is a directory"
  | invalidArgument => "Invalid argument"
  | nameTooLong => "File name too long"
  | tooManyLinks => "Too many levels of symbolic links"
  | nullInPath => "file name contained an unexpected NUL byte"

def message (e : OsError) : String :=
  match e.number? with
  | some n => s!"{e.reason} (os error {n})"
  | none => e.reason

end OsError

/-! ## Entries -/

namespace FileSystem

/-- What is at a location: at the root, always a directory. -/
def get? (fs : FileSystem) (loc : Location) : Option Entry :=
  if loc = [] then some .directory else (fs.entries.find? fun e => e.1 = loc).map Prod.snd

/-- Puts an entry at a location, in place of the one there. -/
def put (fs : FileSystem) (loc : Location) (entry : Entry) : FileSystem :=
  { fs with entries := (loc, entry) :: fs.entries.filter fun e => e.1 ≠ loc }

/-- Removes the entry at a location, and no other. -/
def unlink (fs : FileSystem) (loc : Location) : FileSystem :=
  { fs with entries := fs.entries.filter fun e => e.1 ≠ loc }

/-- Removes the entry at a location and all below it. -/
def erase (fs : FileSystem) (loc : Location) : FileSystem :=
  { fs with entries := fs.entries.filter fun e => !loc.isSuffixOf e.1 }

theorem get?_root (fs : FileSystem) : fs.get? [] = some .directory := rfl

/-- **A change of one location.** -/
theorem get?_put (fs : FileSystem) (loc : Location) (entry : Entry) (l : Location) (h : loc ≠ []) :
    (fs.put loc entry).get? l = if l = loc then some entry else fs.get? l := by
  unfold get? put
  by_cases hl : l = loc
  · subst hl; simp [h]
  · simp only [List.find?_cons, hl, if_false]
    by_cases hr : l = []
    · simp [hr]
    · simp only [hr, if_false]
      rw [decide_eq_false (Ne.symm hl), List.find?_filter]
      show ((fs.entries.find? _).map Prod.snd) = _
      congr 2
      funext e
      by_cases he : e.1 = l
      · simp [he, hl]
      · simp [he]

theorem get?_unlink (fs : FileSystem) (loc l : Location) (h : loc ≠ []) :
    (fs.unlink loc).get? l = if l = loc then none else fs.get? l := by
  unfold get? unlink
  by_cases hl : l = loc
  · subst hl
    simp only [h, if_false, if_true, List.find?_filter]
    rw [Option.map_eq_none_iff, List.find?_eq_none]
    intro e _ he
    simp at he
  · rw [if_neg hl]
    by_cases hr : l = []
    · simp [hr]
    · simp only [hr, if_false, List.find?_filter]
      congr 2
      funext e
      by_cases he : e.1 = l
      · simp [he, hl]
      · simp [he]

/-- **What is left after a removal.** -/
theorem get?_erase (fs : FileSystem) (loc l : Location) (h : l ≠ []) :
    (fs.erase loc).get? l = if loc.isSuffixOf l then none else fs.get? l := by
  unfold get? erase
  simp only [h, if_false, List.find?_filter]
  by_cases hl : loc.isSuffixOf l = true
  · rw [if_pos hl, Option.map_eq_none_iff, List.find?_eq_none]
    intro e _ he
    simp at he
    have := he.2
    subst this
    simp_all
  · rw [if_neg hl]
    congr 2
    funext e
    by_cases he : e.1 = l
    · subst he; simp [Bool.eq_false_iff.2 hl]
    · simp [he]

/-- A location and those around it, as directories. -/
def directories : Location → List (Location × Entry)
  | [] => []
  | name :: outer => (name :: outer, .directory) :: directories outer

/-- Nothing but the current directory and those around it. -/
def emptyAt (current : Location) : FileSystem :=
  ⟨directories current, current⟩

end FileSystem
end TokenCache
