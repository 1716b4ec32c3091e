import TokenCache.Domain.Mapping
import TokenCache.Domain.Punycode
import TokenCache.Unicode.Composition
import TokenCache.Unicode.Direction
import TokenCache.Unicode.Joining
/-!
# Domain names

A domain name is written in ASCII.  Its labels stand between points; one that has other characters is written in
Punycode after `xn--`.  All spellings of a name that are taken for the same come out as one.
-/
namespace TokenCache
namespace Domain

open Unicode

/-! ## Labels -/

/-- A label as it is read and as it is written. -/
structure Label where
  text : List Nat
  written : List Nat

/-- The most characters that a label can have if one of them is not in ASCII. -/
def lengthLimit : Nat := 1000

/-- The most characters of a label that are read as Punycode. -/
def codeLimit : Nat := 2000

def isAscii (cs : List Nat) : Bool :=
  cs.all (· < 128)

/-- What stands before Punycode. -/
def sign : List Nat := "xn--".toList.map Char.toNat

/-! ## Joiners

U+200C keeps letters from joining, U+200D has them join; neither is seen.  Both can follow a virama, and U+200C can
stand between letters that would join. -/

/-- Whether the first character that joining does not pass over joins. -/
def reaches (joins : Nat → Bool) (cs : List Nat) : Bool :=
  (cs.find? fun c => joins c || !isPassedOver c).any joins

/-- Whether a character can stand between the ones before it, the last first, and the ones after it. -/
def fitsBetween (previous : List Nat) (c : Nat) (next : List Nat) : Bool :=
  if c = 0x200C then
    previous.head?.any isVirama || (reaches joinsNext previous && reaches joinsPrevious next)
  else if c = 0x200D then previous.head?.any isVirama
  else true

def joinersFit (previous : List Nat) : List Nat → Bool
  | [] => true
  | c :: cs => fitsBetween previous c cs && joinersFit (c :: previous) cs

/-- Whether a label keeps the rules for all labels: no mark in front, no joiner out of place, and not too long. -/
def isWellFormed (cs : List Nat) : Bool :=
  !cs.head?.any isMark && joinersFit [] cs && (isAscii cs || cs.length ≤ lengthLimit)

/-- The label that Punycode stands for.  It has to be in the form that any label is brought to, and does not announce
Punycode again. -/
def decoded? (code : List Nat) : Option (List Nat) :=
  if !isAscii code || code.isEmpty || code.getLast? == some 45 || codeLimit < code.length then none
  else (Punycode.decode? code).bind fun cs =>
    if cs.all isSettled && normalForm cs == cs && !sign.isPrefixOf cs then some cs else none

/-- A label from its characters in normal form. -/
def label? (cs : List Nat) : Option Label :=
  (if sign.isPrefixOf cs then
    (decoded? (cs.drop sign.length)).map fun text => Label.mk text cs
  else some ⟨cs, if isAscii cs then cs else sign ++ Punycode.encode cs⟩).bind fun l =>
    if isWellFormed l.text then some l else none

/-! ## Direction

In a name with text from right to left every label has to show its order of characters: it keeps to one direction from
the first character, which is a letter, to the last. -/

/-- Directions without the marks at the end. -/
def withoutMarks (ds : List Direction) : List Direction :=
  (ds.reverse.dropWhile (· == .mark)).reverse

def keepsLeftToRight (ds : List Direction) : Bool :=
  ds.all (fun d => d != .rightToLeft && d != .arabicNumber) &&
    (withoutMarks ds).getLast?.all fun d => d == .leftToRight || d == .europeanNumber

def keepsRightToLeft (ds : List Direction) : Bool :=
  ds.all (· != .leftToRight) && (withoutMarks ds).getLast?.all (fun d => d != .neutral) &&
    !(ds.contains .europeanNumber && ds.contains .arabicNumber)

def keepsDirection (cs : List Nat) : Bool :=
  let ds := cs.map Direction.of
  match ds.head? with
  | none => true
  | some .leftToRight => keepsLeftToRight ds
  | some .rightToLeft => keepsRightToLeft ds
  | some _ => false

def hasRightToLeft (cs : List Nat) : Bool :=
  cs.any fun c => Direction.of c == .rightToLeft || Direction.of c == .arabicNumber

/-! ## Names -/

/-- Characters that a name in ASCII does not have. -/
def isForbidden (c : Nat) : Bool :=
  c ≤ 32 || 127 ≤ c || ("#/:<>?@[\\]^|%".toList.map Char.toNat).contains c

/-- The labels of a name. -/
def labels? (name : List Char) : Option (List Label) :=
  (name.mapM fun c => mapped? c.toNat).bind fun mapped =>
    (Text.splitWhere (· == 46) (normalForm mapped.flatten)).mapM label?

/-- Labels with points between them, if their directions and their characters allow it. -/
def written? (labels : List Label) : Option (List Char) :=
  let written := [46].intercalate (labels.map Label.written)
  if labels.any (fun l => hasRightToLeft l.text) && !labels.all (fun l => keepsDirection l.text) then none
  else if written.any isForbidden then none
  else some (written.map Char.ofNat)

/-- **A name as it is written in ASCII**, if it is one. -/
def toAscii? (name : List Char) : Option (List Char) :=
  (labels? name).bind written?

theorem toNat_ofNat_of_allowed (n : Nat) (h : isForbidden n = false) : (Char.ofNat n).toNat = n := by
  have small : n < 127 := by
    simp only [isForbidden, Bool.or_eq_false_iff, decide_eq_false_iff_not] at h
    omega
  have valid : n.isValidChar := Or.inl (by omega)
  unfold Char.ofNat
  rw [dif_pos valid]
  rfl

/-- **No forbidden character is left in a name.** -/
theorem isForbidden_of_toAscii? {name out : List Char} (h : toAscii? name = some out) :
    ∀ c ∈ out, isForbidden c.toNat = false := by
  obtain ⟨labels, -, h⟩ := Option.bind_eq_some_iff.1 h
  unfold written? at h
  split at h
  · cases h
  · dsimp only at h
    split at h
    · cases h
    · rename_i _ allowed
      cases h
      intro c hc
      obtain ⟨n, hn, rfl⟩ := List.mem_map.1 hc
      have hf : isForbidden n = false := by
        rw [Bool.eq_false_iff]
        exact fun hf => allowed (List.any_eq_true.2 ⟨n, hn, hf⟩)
      rw [toNat_ofNat_of_allowed n hf, hf]

end Domain
end TokenCache
