/-!
# Blank characters

Tokens, configuration values and command words are compared after white space is cut off at both ends, and a value of
white space only counts as no value.  White space is the Unicode property of that name; letter case is that of ASCII.
-/
namespace TokenCache
namespace Text

/-- **Unicode `White_Space`**: twenty-five code points. -/
def isBlank (c : Char) : Bool :=
  let n := c.toNat
  (9 ≤ n && n ≤ 13) || n == 0x20 || n == 0x85 || n == 0xA0 || n == 0x1680 || (0x2000 ≤ n && n ≤ 0x200A) ||
    n == 0x2028 || n == 0x2029 || n == 0x202F || n == 0x205F || n == 0x3000

theorem isBlank_of_isWhitespace (c : Char) (h : c.isWhitespace = true) : isBlank c = true := by
  simp only [Char.isWhitespace, Bool.or_eq_true, decide_eq_true_eq] at h
  rcases h with ((h | h) | h) | h <;> subst h <;> rfl

/-- Characters without the blank ones at either end. -/
def strip (cs : List Char) : List Char :=
  ((cs.dropWhile isBlank).reverse.dropWhile isBlank).reverse

def trim (s : String) : String :=
  String.ofList (strip s.toList)

/-- A text with nothing in it but blank characters, if anything. -/
def blank (s : String) : Bool :=
  s.toList.all isBlank

/-- The letters A to Z in lower case, all else as it is. -/
def lower (s : String) : String :=
  String.ofList (s.toList.map Char.toLower)

/-- The trimmed text, unless it is blank. -/
def nonBlank? (s : String) : Option String :=
  if blank s then none else some (trim s)

/-! ## Trimming twice -/

/-- A text that does not open with a blank keeps all of it. -/
theorem dropWhile_of_head {cs : List Char} (h : ∀ c ∈ cs.head?, isBlank c = false) : cs.dropWhile isBlank = cs := by
  cases cs with
  | nil => rfl
  | cons c cs => rw [List.dropWhile_cons, h c (by simp)]; rfl

theorem head?_dropWhile (cs : List Char) : ∀ c ∈ (cs.dropWhile isBlank).head?, isBlank c = false := by
  intro c hc
  have := List.head?_dropWhile_not isBlank cs
  rw [Option.mem_def.1 hc] at this
  exact this

/-- **Stripping twice is stripping once.** -/
theorem strip_strip (cs : List Char) : strip (strip cs) = strip cs := by
  unfold strip
  generalize hd : cs.dropWhile isBlank = d
  have hp : (d.reverse.dropWhile isBlank).reverse <+: d := by
    rw [← List.reverse_suffix, List.reverse_reverse]
    exact List.dropWhile_suffix isBlank
  have hh : ∀ c ∈ (d.reverse.dropWhile isBlank).reverse.head?, isBlank c = false := by
    intro c hc
    obtain ⟨t, ht⟩ := hp
    refine head?_dropWhile cs c ?_
    rw [hd, ← ht, List.head?_append, Option.mem_def.1 hc]
    rfl
  rw [dropWhile_of_head hh, List.reverse_reverse, dropWhile_of_head (head?_dropWhile _)]

theorem trim_trim (s : String) : trim (trim s) = trim s := by
  unfold trim
  rw [String.toList_ofList, strip_strip]

theorem dropWhile_eq_nil : ∀ cs : List Char, cs.dropWhile isBlank = [] ↔ cs.all isBlank = true
  | [] => by simp
  | c :: cs => by
    rw [List.dropWhile_cons, List.all_cons]
    cases isBlank c
    · simp
    · exact dropWhile_eq_nil cs

/-- Stripping leaves nothing of a blank text, and something of any other. -/
theorem strip_eq_nil (cs : List Char) : strip cs = [] ↔ cs.all isBlank = true := by
  unfold strip
  rw [List.reverse_eq_nil_iff, dropWhile_eq_nil, List.all_reverse, ← dropWhile_eq_nil, ← dropWhile_eq_nil cs]
  rw [dropWhile_of_head (head?_dropWhile cs)]

theorem blank_trim (s : String) : blank (trim s) = blank s := by
  have h : (strip s.toList).all isBlank = true ↔ s.toList.all isBlank = true := by
    rw [← strip_eq_nil, strip_strip, strip_eq_nil]
  unfold blank trim
  rw [String.toList_ofList]
  exact Bool.eq_iff_iff.2 h

theorem nonBlank?_trim (s : String) : nonBlank? (trim s) = nonBlank? s := by
  unfold nonBlank?
  rw [blank_trim, trim_trim]

end Text
end TokenCache
