import Mathlib.Data.List.Induction
import Mathlib.Data.List.Nodup
import Mathlib.Data.List.Perm.Subperm
import Mathlib.Data.List.TakeWhile
import TokenCache.Directory
import TokenCache.Proofs.Effects
import TokenCache.Proofs.FileSystem.Growth
/-!
# The directory before a place

The parent of a path is taken from its text, and the place that the path names is found by a walk.  The two agree: where
a path names a place, its parent leads to the directory the place is in (`resolve_directory`), whatever slashes and
`.` pieces stand between them.  In such a directory there is always a fresh name (`freshIn_spec`), so that a temporary
file can be made there unless its path is too long (`temporaryIn_eq_ok`).
-/
namespace TokenCache
namespace Path

/-! ## Pieces of a text -/

theorem split_of_not_mem : ∀ {piece : List Char}, '/' ∉ piece → split piece = [piece]
  | [], _ => rfl
  | c :: cs, h => by
    rw [List.mem_cons, not_or] at h
    unfold split
    rw [if_neg (Ne.symm h.1), split_of_not_mem h.2]

theorem split_append : ∀ {piece : List Char}, '/' ∉ piece → ∀ cs : List Char,
    split (piece ++ '/' :: cs) = piece :: split cs
  | [], _, cs => by
    rw [List.nil_append, split]
    exact if_pos rfl
  | c :: piece, h, cs => by
    rw [List.mem_cons, not_or] at h
    rw [List.cons_append, split, if_neg (Ne.symm h.1), split_append h.2]

/-- **Pieces put together and split again** are the same pieces. -/
theorem split_unsplit : ∀ {pieces : List (List Char)}, pieces ≠ [] → (∀ piece ∈ pieces, '/' ∉ piece) →
    split (unsplit pieces) = pieces
  | [], h, _ => absurd rfl h
  | [piece], _, hs => split_of_not_mem (hs piece List.mem_cons_self)
  | piece :: q :: pieces, _, hs => by
    rw [unsplit_cons piece (List.cons_ne_nil q pieces), split_append (hs piece List.mem_cons_self),
      split_unsplit (List.cons_ne_nil q pieces) fun p hp => hs p (List.mem_cons_of_mem piece hp)]

theorem unsplit_front : ∀ {pieces : List (List Char)}, pieces ≠ [] → ∀ more : List (List Char),
    unsplit pieces <+: unsplit (pieces ++ more)
  | [], h, _ => absurd rfl h
  | [piece], _, [] => List.prefix_rfl
  | [piece], _, q :: more => ⟨_, (unsplit_cons piece (List.cons_ne_nil q more)).symm⟩
  | piece :: q :: pieces, _, more => by
    rw [unsplit_cons piece (List.cons_ne_nil q pieces), List.cons_append, unsplit_cons piece (by simp)]
    have ih := unsplit_front (List.cons_ne_nil q pieces) more
    exact (List.prefix_append_right_inj _).2 ((List.prefix_cons_inj '/').2 ih)

theorem head?_unsplit {first : List Char} (h : '/' ∉ first) (others : List (List Char)) :
    ((unsplit (first :: others)).head? == some '/') = (first.isEmpty && !others.isEmpty) := by
  have hhead : ∀ {c : Char} {cs : List Char} (rest : List Char), first = c :: cs →
      ((first ++ rest).head? == some '/') = false := by
    rintro c cs rest rfl
    rw [List.mem_cons, not_or] at h
    simpa using Ne.symm h.1
  cases others with
  | nil =>
    cases first with
    | nil => rfl
    | cons c cs => simpa [unsplit] using hhead [] rfl
  | cons q others =>
    rw [unsplit_cons first (List.cons_ne_nil q others)]
    cases first with
    | nil => rfl
    | cons c cs => exact hhead _ rfl

/-! ## What is cut off -/

theorem trimmed_spec (pieces : List (List Char)) :
    ∃ rest, pieces = trimmed pieces ++ rest ∧ ∀ piece ∈ rest, counts piece = false := by
  refine ⟨(pieces.reverse.takeWhile fun piece => !counts piece).reverse, ?_, fun piece hp => ?_⟩
  · unfold trimmed
    rw [← List.reverse_append, List.takeWhile_append_dropWhile, List.reverse_reverse]
  · have := List.mem_takeWhile_imp (List.mem_reverse.1 hp)
    simpa using this

theorem counts_last {pieces kept : List (List Char)} {last : List Char} (h : trimmed pieces = kept ++ [last]) :
    counts last = true := by
  have hd : (pieces.reverse.dropWhile fun piece => !counts piece).head? = some last := by
    unfold trimmed at h
    rw [List.reverse_eq_iff] at h
    rw [h, List.reverse_append]
    rfl
  have := List.head?_dropWhile_not (fun piece => !counts piece) pieces.reverse
  rw [hd] at this
  simpa using this

def solid (pieces : List (List Char)) : List (List Char) :=
  pieces.filter (· != [])

theorem solid_append (pieces more : List (List Char)) : solid (pieces ++ more) = solid pieces ++ solid more :=
  List.filter_append _ _

theorem dots_of_not_counts {pieces : List (List Char)} (h : ∀ piece ∈ pieces, counts piece = false) :
    ∀ piece ∈ solid pieces, piece = ['.'] := by
  intro piece hp
  obtain ⟨hmem, hne⟩ := List.mem_filter.1 hp
  have hc := h piece hmem
  unfold counts at hc
  rw [hne, Bool.true_and] at hc
  simpa using hc

/-- **The parent as a text**: a part of the path that names what comes before the last name, but for `.` pieces. -/
inductive ParentText (path : String) : Prop
  /-- There is no name but `.` in the path. -/
  | dots (hp : parent? path = none ∨ parent? path = some "") (hs : ∀ piece ∈ solid (split path.toList), piece = ['.'])
  /-- There is nothing before the name. -/
  | name (hp : parent? path = some "") (ha : isAbsolute path = false) {name : List Char} {tail : List (List Char)}
    (hn : name ≠ ['.']) (ht : ∀ piece ∈ tail, piece = ['.']) (hs : solid (split path.toList) = name :: tail)
  | part {parent : String} (hp : parent? path = some parent) (hpre : parent.toList <+: path.toList)
    (hne : parent.toList ≠ []) (ha : isAbsolute parent = isAbsolute path) {name : List Char}
    {dots tail : List (List Char)}
    (hn : name ≠ ['.']) (hd : ∀ piece ∈ dots, piece = ['.']) (ht : ∀ piece ∈ tail, piece = ['.'])
    (hs : solid (split path.toList) = solid (split parent.toList) ++ dots ++ name :: tail)

structure Pieces (path : String) (first : List Char) (others : List (List Char)) : Prop where
  split : split path.toList = first :: others
  absolute : isAbsolute path = (first.isEmpty && !others.isEmpty)

theorem pieces (path : String) : ∃ first others, Pieces path first others := by
  obtain ⟨first, others, hs⟩ : ∃ first others, split path.toList = first :: others :=
    List.exists_cons_of_ne_nil (split_ne_nil path.toList)
  refine ⟨first, others, hs, ?_⟩
  unfold isAbsolute
  rw [← unsplit_split path.toList, hs]
  exact head?_unsplit (not_mem_split path.toList first (hs ▸ List.mem_cons_self)) others

namespace Pieces

variable {path : String} {first : List Char} {others : List (List Char)}

theorem headAndTail (h : Pieces path first others) : headAndTail path = (first, others) := by
  unfold Path.headAndTail
  rw [h.split]

theorem toList (h : Pieces path first others) : path.toList = unsplit (first :: others) := by
  rw [← h.split, unsplit_split]

theorem parent?_of_one (h : Pieces path first others) (ht : trimmed others = []) :
    parent? path = if first.isEmpty then none else some "" := by
  unfold parent?
  rw [h.headAndTail]
  dsimp only
  rw [ht]
  rfl

theorem parent?_of_more (h : Pieces path first others) {kept : List (List Char)} {last : List Char}
    (ht : trimmed others = kept ++ [last]) :
    parent? path = if isAbsolute path && (trimmed kept).isEmpty then some "/"
      else some (String.ofList (unsplit (first :: trimmed kept))) := by
  unfold parent?
  rw [h.headAndTail]
  dsimp only
  rw [ht, List.reverse_append, List.reverse_singleton, List.singleton_append]
  dsimp only
  rw [List.reverse_reverse]

theorem text_of_one (h : Pieces path first others) (ht : trimmed others = []) : ParentText path := by
  obtain ⟨rest, hrest, hcut⟩ := trimmed_spec others
  rw [ht, List.nil_append] at hrest
  have hdots : ∀ piece ∈ solid others, piece = ['.'] := dots_of_not_counts (hrest ▸ hcut)
  have hp := h.parent?_of_one ht
  have hs : solid (Path.split path.toList) = solid [first] ++ solid others := by
    rw [h.split, ← solid_append]
    rfl
  cases first with
  | nil => exact .dots (.inl hp) (by rw [hs]; exact hdots)
  | cons c cs =>
    by_cases hn : c :: cs = ['.']
    · refine .dots (.inr hp) fun piece hm => ?_
      rw [hs] at hm
      rcases List.mem_append.1 hm with hm | hm
      · exact (List.mem_singleton.1 hm).trans hn
      · exact hdots piece hm
    · exact .name hp (by rw [h.absolute]; rfl) hn hdots hs

/-- The pieces of a path that goes on after the first one: those of the parent, then the last name and what does not
count before it and after it. -/
theorem cut (h : Pieces path first others) {kept : List (List Char)} {last : List Char}
    (ht : trimmed others = kept ++ [last]) :
    ∃ dots rest, first :: others = first :: trimmed kept ++ (dots ++ last :: rest) ∧
      last ≠ ['.'] ∧ (∀ piece ∈ solid dots, piece = ['.']) ∧ (∀ piece ∈ solid rest, piece = ['.']) ∧
      solid (Path.split path.toList) = solid (first :: trimmed kept) ++ solid dots ++ last :: solid rest := by
  have hlast := counts_last ht
  unfold counts at hlast
  rw [Bool.and_eq_true, bne_iff_ne, bne_iff_ne] at hlast
  obtain ⟨rest, hrest, hcut⟩ := trimmed_spec others
  obtain ⟨dots, hdots, hcut'⟩ := trimmed_spec kept
  have hall : first :: others = first :: trimmed kept ++ (dots ++ last :: rest) := by
    rw [hrest, ht]
    conv => lhs; rw [hdots]
    simp
  have hl : solid (last :: rest) = last :: solid rest := List.filter_cons_of_pos (by simpa using hlast.1)
  refine ⟨dots, rest, hall, hlast.2, dots_of_not_counts hcut', dots_of_not_counts hcut, ?_⟩
  rw [h.split, hall, solid_append, solid_append, hl, List.append_assoc]

theorem text_of_more (h : Pieces path first others) {kept : List (List Char)} {last : List Char}
    (ht : trimmed others = kept ++ [last]) : ParentText path := by
  obtain ⟨dots, rest, hall, hlast, hdots, hrest, hs⟩ := h.cut ht
  have hothers : others ≠ [] := by
    rintro rfl
    simp [trimmed] at ht
  have hisEmpty : others.isEmpty = false := List.isEmpty_eq_false_iff.2 hothers
  have hp := h.parent?_of_more ht
  by_cases ha : (isAbsolute path && (trimmed kept).isEmpty) = true
  · rw [if_pos ha] at hp
    rw [Bool.and_eq_true, List.isEmpty_iff, h.absolute, hisEmpty, Bool.not_false, Bool.and_true, List.isEmpty_iff] at ha
    obtain ⟨rfl, hk⟩ := ha
    refine .part hp ?_ (by decide) ?_ hlast hdots hrest (by rw [hs, hk]; rfl)
    · rw [h.toList, unsplit_cons [] hothers]
      exact ⟨_, rfl⟩
    · rw [h.absolute, hisEmpty]
      rfl
  · rw [if_neg ha] at hp
    have hkept : first = [] → trimmed kept ≠ [] := by
      rintro rfl hk
      rw [h.absolute, hisEmpty, hk] at ha
      exact ha rfl
    have hslash : ∀ piece ∈ first :: trimmed kept, '/' ∉ piece := fun piece hm =>
      not_mem_split path.toList piece (by rw [h.split, hall]; exact List.mem_append_left _ hm)
    refine .part hp ?_ ?_ ?_ hlast hdots hrest ?_
    · rw [String.toList_ofList, h.toList, hall]
      exact unsplit_front (List.cons_ne_nil _ _) _
    · rw [String.toList_ofList]
      cases hk : trimmed kept with
      | nil => exact fun he => hkept he hk
      | cons q qs =>
        rw [unsplit_cons first (List.cons_ne_nil q qs)]
        simp
    · unfold isAbsolute
      rw [String.toList_ofList, head?_unsplit (hslash first List.mem_cons_self)]
      refine Eq.trans ?_ h.absolute.symm
      rw [hisEmpty]
      cases first with
      | nil => simp [hkept rfl]
      | cons c cs => rfl
    · rw [String.toList_ofList, split_unsplit (List.cons_ne_nil _ _) hslash, hs]

end Pieces

/-- **What comes before the last name** of a path. -/
theorem parentText (path : String) : ParentText path := by
  obtain ⟨first, others, h⟩ := pieces path
  rcases List.eq_nil_or_concat (trimmed others) with ht | ⟨kept, last, ht⟩
  · exact h.text_of_one ht
  · rw [List.concat_eq_append] at ht
    exact h.text_of_more ht

theorem directory_of_parent? {path parent : String} (h : parent? path = some parent) (hne : parent.toList ≠ []) :
    directory path = parent := by
  have he : parent.isEmpty = false := by
    rw [Bool.eq_false_iff, ne_eq, String.isEmpty_iff, ← String.toList_eq_nil_iff]
    exact hne
  unfold directory
  rw [h]
  dsimp only
  rw [he, if_neg Bool.false_ne_true]

theorem directory_of_none {path : String} (h : parent? path = none ∨ parent? path = some "") :
    directory path = "." := by
  unfold directory
  rcases h with h | h <;> rw [h]
  rfl

theorem tail_eq_nil {front before tail : List (List Char)} {name last : List Char}
    (ht : ∀ piece ∈ tail, piece = ['.']) (h : front ++ name :: tail = before ++ [last]) (hl : last ≠ ['.']) :
    front = before ∧ name = last ∧ tail = [] := by
  rcases List.eq_nil_or_concat tail with rfl | ⟨init, piece, rfl⟩
  · obtain ⟨hf, hn⟩ := List.append_inj' h rfl
    exact ⟨hf, List.singleton_inj.1 hn, rfl⟩
  · rw [List.concat_eq_append] at h ht
    rw [← List.cons_append, ← List.append_assoc] at h
    have hp := List.singleton_inj.1 (List.append_inj' h rfl).2
    exact absurd (hp ▸ ht piece (by simp)) hl

end Path

namespace FileSystem

variable {fs : FileSystem}

/-! ## Where the directory leads -/

theorem Leads.front {n : Nat} {here d : Location} {names : List String} : ∀ {more : List String},
    Leads fs .followed n here (names ++ more) (.found d .directory) →
      ∃ d', Leads fs .followed n here names (.found d' .directory) := by
  intro more
  induction more using List.reverseRecOn generalizing d with
  | nil => exact fun h => ⟨d, by simpa using h⟩
  | append_singleton more name ih =>
    intro h
    obtain ⟨d', h'⟩ := h.init (names ++ more) name (List.append_assoc _ _ _).symm
    exact ih h'

theorem leads_skips {n : Nat} {here : Location} {t : Target} : ∀ {names : List String},
    (∀ name ∈ names, name = "" ∨ name = ".") → (Leads fs .followed n here names t ↔ t = .found here .directory)
  | [], _ => by
    constructor
    · intro h
      cases h
      rfl
    · rintro rfl
      exact .done
  | name :: names, h =>
    (leads_skip (h name List.mem_cons_self)).trans (leads_skips fun x hx => h x (List.mem_cons_of_mem name hx))

/-- **Names that stay in a directory** do not count after those that lead to it. -/
theorem leads_append_skips {n : Nat} {here d : Location} {names skips : List String}
    (hs : ∀ name ∈ skips, name = "" ∨ name = ".") :
    Leads fs .followed n here (names ++ skips) (.found d .directory) ↔
      Leads fs .followed n here names (.found d .directory) := by
  constructor
  · intro h
    obtain ⟨d', h'⟩ := h.front
    obtain ⟨k, hk⟩ := h'.append
    cases (leads_skips hs).1 ((hk skips _).1 h)
    exact h'
  · intro h
    obtain ⟨k, hk⟩ := h.append
    exact (hk skips _).2 ((leads_skips hs).2 rfl)

theorem checked_front {path q : String} (h : checked path = .ok ()) (hq : q.toList <+: path.toList)
    (hne : q.toList ≠ []) : checked q = .ok () := by
  obtain ⟨more, hm⟩ := hq
  have hp : path = q ++ String.ofList more := by
    rw [← String.toList_inj, String.toList_append, String.toList_ofList, hm]
  have he : q.isEmpty = false := by
    rw [Bool.eq_false_iff, ne_eq, String.isEmpty_iff, ← String.toList_eq_nil_iff]
    exact hne
  have hn : hasNull q = false := by
    have := hasNull_of_checked h
    unfold hasNull at this ⊢
    rw [← hm, List.contains_append, Bool.or_eq_false_iff] at this
    exact this.1
  unfold checked at h ⊢
  rw [hn, he, if_neg Bool.false_ne_true, if_neg Bool.false_ne_true]
  split at h
  · cases h
  split at h
  · cases h
  split at h
  · cases h
  rename_i hl
  rw [hp, String.utf8ByteSize_append] at hl
  exact if_neg (by omega)

theorem pieces_of_place {unnamed : OsError} {path : String} {p : Place} (h : fs.place unnamed path = .ok p) :
    ∃ pieces last, Path.solid (Path.split path.toList) = pieces ++ [last] ∧ last ≠ ['.'] ∧
      Leads fs .followed linkLimit (origin fs.current path) (pieces.map String.ofList)
        (.found p.location.tail .directory) := by
  obtain ⟨-, before, name, d, hb, ho, hd, rfl⟩ := place_eq_ok.1 h
  obtain ⟨pieces, rest, hsplit, rfl, hname⟩ := List.map_eq_append_iff.1 hb
  obtain ⟨last, rfl, rfl⟩ := List.map_eq_singleton_iff.1 hname
  refine ⟨pieces, last, hsplit, ?_, hd⟩
  rintro rfl
  exact ho.ne_here rfl

theorem resolve_here {path : String} (h : Path.isAbsolute path = false) :
    fs.resolve .followed "." = .ok (.found (origin fs.current path) .directory) := by
  have hstart : origin fs.current path = origin fs.current "." := by
    unfold origin
    rw [h]
    rfl
  refine resolve_eq_ok.2 ⟨rfl, ?_⟩
  rw [show route "." = ["."] by decide, hstart]
  exact .skip (.inr rfl) .done

/-- **The directory of a path that names a place** is the one the place is in. -/
theorem resolve_directory {unnamed : OsError} {path : String} {p : Place} (h : fs.place unnamed path = .ok p) :
    fs.resolve .followed (Path.directory path) = .ok (.found p.location.tail .directory) := by
  have hc := (place_eq_ok.1 h).1
  obtain ⟨pieces, last, hsplit, hdot, hd⟩ := pieces_of_place h
  generalize p.location.tail = d at hd ⊢
  cases Path.parentText path with
  | dots _ hs => exact absurd (hs last (by rw [hsplit]; simp)) hdot
  | name hp ha _ ht hs =>
    obtain ⟨rfl, -⟩ := @Path.tail_eq_nil [] _ _ _ _ ht (hs.symm.trans hsplit) hdot
    rw [Path.directory_of_none (.inr hp), resolve_here ha]
    cases hd
    rfl
  | @part parent hp hpre hne ha _ dots _ _ hdots ht hs =>
    obtain ⟨rfl, -⟩ := Path.tail_eq_nil ht (hs.symm.trans hsplit) hdot
    rw [Path.directory_of_parent? hp hne]
    refine resolve_eq_ok.2 ⟨checked_front hc hpre hne, ?_⟩
    have hstart : origin fs.current parent = origin fs.current path := by
      unfold origin
      rw [ha]
    rw [List.map_append] at hd
    rw [hstart, route_eq hne]
    -- neither the `.` pieces nor the mark of a slash leads anywhere
    refine (leads_append_skips ?_).2 ((leads_append_skips fun x hx => ?_).1 hd)
    · intro x hx
      split at hx
      · exact .inl (by simpa using hx)
      · cases hx
    · obtain ⟨piece, hpiece, rfl⟩ := List.mem_map.1 hx
      rw [hdots piece hpiece]
      exact .inr rfl

theorem names_eq_route {path : String} (h : path.toList ≠ []) :
    (if path.toList.getLast? == some '/' then (route path).dropLast else route path) = names path := by
  rw [route_eq h]
  unfold endsInSlash
  cases path.toList.getLast? == some '/' <;> simp

theorem place_of_directory {unnamed : OsError} {path : String} {d : Location} {e : OsError}
    (h : fs.resolve .followed path = .ok (.found d .directory)) (hp : fs.place unnamed path = .error e) :
    e = unnamed ∨ e = .nameTooLong := by
  obtain ⟨hc, hl⟩ := resolve_eq_ok.1 h
  have hne := toList_ne_nil_of_checked hc
  obtain ⟨d', hd⟩ : ∃ d', fs.directoryAt (origin fs.current path) (names path).dropLast = .ok d' := by
    rw [route_eq hne] at hl
    obtain ⟨d', h'⟩ := hl.front
    rcases List.eq_nil_or_concat (names path) with hn | ⟨before, name, hn⟩
    · exact ⟨origin fs.current path, directoryAt_eq_ok.2 (by rw [hn]; exact .done)⟩
    · rw [List.concat_eq_append] at hn
      rw [hn, List.dropLast_concat]
      obtain ⟨d'', h''⟩ := h'.init before name hn
      exact ⟨d'', directoryAt_eq_ok.2 h''⟩
  unfold place at hp
  rw [hc] at hp
  simp only [bind, Except.bind] at hp
  rw [names_eq_route hne, hd] at hp
  dsimp only at hp
  split at hp
  · cases hp
    exact .inl rfl
  split at hp
  · cases hp
    exact .inl rfl
  split at hp
  · cases hp
    exact .inr rfl
  · cases hp

theorem makeDirectory_of_directory {path : String} {d : Location}
    (h : fs.resolve .followed path = .ok (.found d .directory)) :
    ∃ e, makeDirectory path fs = .error e ∧ e ≠ .notFound := by
  unfold makeDirectory
  cases hp : fs.place .alreadyExists path with
  | error e =>
    refine ⟨e, rfl, ?_⟩
    rcases place_of_directory h hp with rfl | rfl <;> decide
  | ok p =>
    obtain ⟨hc, before, name, d', hb, ho, hd, rfl⟩ := place_eq_ok.1 hp
    obtain ⟨-, hl⟩ := resolve_eq_ok.1 h
    rw [route_eq (toList_ne_nil_of_checked hc), hb, List.append_assoc, List.singleton_append] at hl
    generalize (if endsInSlash path = true then [""] else []) = more at hl
    obtain ⟨k, hk⟩ := hd.append
    have hlast := (hk _ _).1 hl
    refine ⟨.alreadyExists, ?_, by decide⟩
    simp only [bind, Except.bind]
    split
    · rfl
    · rename_i hg
      cases hlast with
      | skip hn _ => exact absurd hn (by simp [ho.ne_empty, ho.ne_here])
      | up _ => exact absurd rfl ho.ne_up
      | enter _ _ hg' | follow _ _ _ hg' => rw [hg] at hg'; cases hg'

/-! ## Fresh names -/

/-- The names that temporary files get. -/
def Temporary (name : String) : Prop :=
  ".tmp".toList <+: name.toList

theorem temporary_injective {m n : Nat} (h : s!".tmp{m}" = s!".tmp{n}") : m = n := by
  have hl := congrArg String.toList h
  simp only [String.toList_append, Nat.toString_eq_repr, Nat.toList_repr] at hl
  have hd := List.append_cancel_left hl
  rw [← Nat.ofDigitChars_toDigits (b := 10) (n := m) (by decide) (by decide), hd,
    Nat.ofDigitChars_toDigits (by decide) (by decide)]

theorem mem_keys_of_get? {l : Location} (hl : l ≠ []) {e : Entry} (h : fs.get? l = some e) :
    l ∈ fs.entries.map Prod.fst := by
  unfold get? at h
  rw [if_neg hl, Option.map_eq_some_iff] at h
  obtain ⟨x, hx, -⟩ := h
  have hk : x.1 = l := by simpa using List.find?_some hx
  exact List.mem_map.2 ⟨x, List.mem_of_find?_eq_some hx, hk⟩

/-- **There is always a fresh name**: more names are tried than there are entries. -/
theorem freshIn_spec (fs : FileSystem) (directory : Location) :
    ∃ name, Temporary name ∧ fs.freshIn directory = name :: directory ∧ fs.get? (name :: directory) = none := by
  unfold freshIn
  dsimp only
  generalize hf : List.find? _ _ = found
  cases found with
  | some name =>
    obtain ⟨n, -, hn⟩ := List.mem_map.1 (List.mem_of_find?_eq_some hf)
    refine ⟨name, ?_, rfl, by simpa using List.find?_some hf⟩
    rw [← hn]
    exact ⟨(toString n).toList, String.toList_append.symm⟩
  | none =>
    -- else there would be an entry at each of the names
    exfalso
    have hsome : ∀ n ∈ List.range (fs.entries.length + 1), (s!".tmp{n}" :: directory) ∈ fs.entries.map Prod.fst := by
      intro n hn
      have := List.find?_eq_none.1 hf s!".tmp{n}" (List.mem_map.2 ⟨n, hn, rfl⟩)
      cases hg : fs.get? (s!".tmp{n}" :: directory) with
      | none => exact absurd (Option.isNone_iff_eq_none.2 hg) this
      | some e => exact mem_keys_of_get? (List.cons_ne_nil _ _) hg
    have hnodup : ((List.range (fs.entries.length + 1)).map fun n => s!".tmp{n}" :: directory).Nodup :=
      List.Nodup.map (fun m n h => temporary_injective (List.cons.inj h).1) List.nodup_range
    have hsub : ((List.range (fs.entries.length + 1)).map fun n => s!".tmp{n}" :: directory) ⊆
        fs.entries.map Prod.fst := by
      intro l hl
      obtain ⟨n, hn, rfl⟩ := List.mem_map.1 hl
      exact hsome n hn
    have hle := (hnodup.subperm hsub).length_le
    simp only [List.length_map, List.length_range] at hle
    omega

/-- **In a directory a temporary file can be made**, if a path for it can be used. -/
theorem temporaryIn_eq_ok {directory : String} {l : Location} : fs.temporaryIn directory = .ok l ↔
    checked (fs.temporaryPath directory) = .ok () ∧
      ∃ dir, fs.resolve .followed directory = .ok (.found dir .directory) ∧ l = fs.freshIn dir := by
  unfold temporaryIn
  cases checked (fs.temporaryPath directory) with
  | error e => simp [bind, Except.bind]
  | ok u =>
    match fs.resolve .followed directory with
    | .error e => simp [bind, Except.bind]
    | .ok (.vacant _ _) => simp [bind, Except.bind, throw, throwThe, MonadExceptOf.throw]
    | .ok (.found _ (.file _ _)) => simp [bind, Except.bind, throw, throwThe, MonadExceptOf.throw]
    | .ok (.found _ (.link _)) => simp [bind, Except.bind, throw, throwThe, MonadExceptOf.throw]
    | .ok (.found dir .directory) => simp [bind, Except.bind, pure, Except.pure, eq_comm]

theorem temporaryIn_error {directory : String} {e : OsError} (h : checked (fs.temporaryPath directory) = .error e) :
    fs.temporaryIn directory = .error e := by
  unfold temporaryIn
  rw [h]
  rfl

theorem temporaryIn_fresh {directory : String} {l : Location} (h : fs.temporaryIn directory = .ok l) :
    (∃ name dir, l = name :: dir ∧ Temporary name) ∧ fs.get? l = none := by
  obtain ⟨-, dir, -, rfl⟩ := temporaryIn_eq_ok.1 h
  obtain ⟨name, ht, hf, hg⟩ := fs.freshIn_spec dir
  rw [hf]
  exact ⟨⟨name, dir, rfl, ht⟩, hg⟩

theorem temporaryIn_ne_root {directory : String} {l : Location} (h : fs.temporaryIn directory = .ok l) : l ≠ [] := by
  obtain ⟨⟨name, dir, rfl, -⟩, -⟩ := temporaryIn_fresh h
  exact List.cons_ne_nil name dir

end FileSystem

/-- **A directory that is there is there already**: nothing is done. -/
theorem Directory.ensure_of_directory {path : String} {d : Location} {host : Host}
    (h : host.files.resolve .followed path = .ok (.found d .directory)) :
    Directory.ensure path host = ⟨.ok (), host, []⟩ := by
  obtain ⟨e, he, hn⟩ := FileSystem.makeDirectory_of_directory h
  have hc := FileSystem.toList_ne_nil_of_checked (FileSystem.resolve_eq_ok.1 h).1
  have hp : path.isEmpty = false := by
    rw [Bool.eq_false_iff, ne_eq, String.isEmpty_iff, ← String.toList_eq_nil_iff]
    exact hc
  have hd : host.files.isDirectory path = true := by
    unfold FileSystem.isDirectory
    rw [h]
  unfold Directory.ensure Directory.ensureWithin
  rw [hp, if_neg Bool.false_ne_true, Run.bind_of_eq (Run.perform_error host he)]
  cases e with
  | notFound => exact absurd rfl hn
  | _ =>
    dsimp only
    rw [Run.files_bind, if_pos hd]
    rfl

end TokenCache
