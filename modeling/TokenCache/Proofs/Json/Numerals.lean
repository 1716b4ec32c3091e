import TokenCache.Json.Writer
import TokenCache.Proofs.Json.Scaling
/-!
# Whole numbers, written and read

A whole number of 64 bits is read back from its digits when what follows is no part of a numeral
(`scanNumeral_numeral`).  What a numeral gives is such a number or a finite double (`scanNumeral_proper`).
-/
namespace TokenCache

/-- **Numbers as a text gives them**: whole ones that 64 bits hold, signed or not, and doubles. -/
def Number.Fits : Number → Prop
  | .integer n => -9223372036854775808 ≤ n ∧ n < 18446744073709551616
  | .real _ => True

/-- **Numbers as a text really gives them**: the doubles are finite, and of 53 binary digits. -/
def Number.Proper : Number → Prop
  | .integer n => -9223372036854775808 ≤ n ∧ n < 18446744073709551616
  | .real x => x.IsDouble

theorem Number.Proper.fits {n : Number} (h : n.Proper) : n.Fits := by
  cases n with
  | integer n => exact h
  | real x => trivial

namespace Json

open Binary64 (spelled head_toDigits)

/-- Nothing here goes on with a numeral. -/
def Apart (rest : List UInt8) : Prop :=
  ∀ b, rest.head? = some b → isDigit b = false ∧ b ≠ 46 ∧ b ≠ 101 ∧ b ≠ 69

/-- No digit comes next. -/
def Ends (rest : List UInt8) : Prop :=
  ∀ b, rest.head? = some b → isDigit b = false

theorem Apart.ends {rest : List UInt8} (h : Apart rest) : Ends rest :=
  fun b hb => (h b hb).1

theorem dropWhile_ends {rest : List UInt8} (h : Ends rest) : rest.dropWhile isDigit = rest := by
  cases rest with
  | nil => rfl
  | cons b rest => simp [h b rfl]

theorem takeWhile_ends {rest : List UInt8} (h : Ends rest) : rest.takeWhile isDigit = [] := by
  cases rest with
  | nil => rfl
  | cons b rest => simp [h b rfl]

/-! ## Digits -/

def byte (c : Char) : UInt8 :=
  c.toNat.toUInt8

theorem toNat_byte {c : Char} (h : c.isDigit = true) : (byte c).toNat = c.toNat ∧ 48 ≤ c.toNat ∧ c.toNat ≤ 57 := by
  have hc : 48 ≤ c.toNat ∧ c.toNat ≤ 57 := by
    simp only [Char.isDigit, Bool.and_eq_true, decide_eq_true_eq] at h
    exact h
  exact ⟨by show (UInt8.ofNat c.toNat).toNat = _; rw [UInt8.toNat_ofNat', Nat.mod_eq_of_lt (by omega)], hc⟩

theorem isDigit_iff {b : UInt8} : isDigit b = true ↔ 48 ≤ b.toNat ∧ b.toNat ≤ 57 := by
  simp [isDigit, UInt8.le_iff_toNat_le]

theorem isDigit_byte {c : Char} (h : c.isDigit = true) : isDigit (byte c) = true := by
  obtain ⟨hb, hc⟩ := toNat_byte h
  rw [isDigit_iff, hb]
  exact hc

theorem le_ofDigitChars (cs : List Char) (init : Nat) : init ≤ Nat.ofDigitChars 10 cs init := by
  induction cs generalizing init with
  | nil => simp
  | cons c cs ih =>
    rw [Nat.ofDigitChars_cons]
    have := ih (10 * init + (c.toNat - '0'.toNat))
    omega

/-- **Digits are absorbed as the number they spell**, if it is below the limit. -/
theorem absorb_digits {rest : List UInt8} (hr : Ends rest) : ∀ (cs : List Char) (significand count : Nat),
    (∀ c ∈ cs, c.isDigit = true) → Nat.ofDigitChars 10 cs significand < significandLimit →
      absorb significand count (cs.map byte ++ rest) =
        ⟨Nat.ofDigitChars 10 cs significand, count + cs.length, rest⟩
  | [], significand, count, _, _ => by
    rw [List.map_nil, List.nil_append, Nat.ofDigitChars_nil]
    cases rest with
    | nil => rfl
    | cons b rest =>
      rw [absorb, if_neg (by simp [hr b rfl])]
      rfl
  | c :: cs, significand, count, hd, hl => by
    obtain ⟨hb, hc⟩ := toNat_byte (hd c List.mem_cons_self)
    have hi := isDigit_byte (hd c List.mem_cons_self)
    have hn : significand * 10 + ((byte c).toNat - 48) = 10 * significand + (c.toNat - '0'.toNat) := by
      rw [hb, Nat.mul_comm]
      rfl
    rw [Nat.ofDigitChars_cons] at hl ⊢
    have hle := le_ofDigitChars cs (10 * significand + (c.toNat - '0'.toNat))
    have ih := absorb_digits hr cs (10 * significand + (c.toNat - '0'.toNat)) (count + 1)
      (fun x hx => hd x (List.mem_cons_of_mem c hx)) hl
    have hfits : (isDigit (byte c) && decide (10 * significand + (c.toNat - '0'.toNat) < significandLimit)) = true := by
      rw [hi, Bool.true_and, decide_eq_true_eq]
      omega
    rw [List.map_cons, List.cons_append, absorb, hn, if_pos hfits, ih, List.length_cons]
    congr 1
    omega

/-! ## Reading a whole number -/

theorem scanTail_apart {negative : Bool} {significand : Nat} {rest : List UInt8} (hr : Apart rest) :
    scanTail negative significand 0 rest = .ok (wholeNumber negative significand, rest) := by
  unfold scanTail
  split
  · rename_i bytes
    exact absurd rfl (hr 46 rfl).2.1
  · cases rest with
    | nil => rfl
    | cons b rest =>
      obtain ⟨-, -, he, hE⟩ := hr b rfl
      rw [if_pos (by simp [he, hE])]

/-- **The whole part of a numeral**, which does not open with a zero. -/
theorem scanUnsigned_whole (negative : Bool) {cs : List Char} {rest : List UInt8} (hne : cs ≠ [])
    (hd : ∀ c ∈ cs, c.isDigit = true) (hh : cs.head? ≠ some '0') (hl : spelled cs < significandLimit) (hr : Ends rest) :
    scanUnsigned negative (cs.map byte ++ rest) = scanTail negative (spelled cs) 0 rest := by
  have ha := absorb_digits hr cs 0 0 hd hl
  cases cs with
  | nil => exact absurd rfl hne
  | cons c cs =>
    have hcd := hd c List.mem_cons_self
    have hc : byte c ≠ 48 := by
      intro he
      have := (toNat_byte hcd).1
      rw [he] at this
      exact hh (congrArg some (Char.toNat_inj.1 this.symm))
    rw [List.map_cons, List.cons_append] at ha ⊢
    rw [scanUnsigned, if_neg (by simpa using hc), if_pos (isDigit_byte hcd)]
    dsimp only
    rw [ha]
    dsimp only
    rw [takeWhile_ends hr, dropWhile_ends hr]
    rfl

theorem scanUnsigned_digits (negative : Bool) {n : Nat} {rest : List UInt8} (hn : n < significandLimit)
    (hr : Apart rest) :
    scanUnsigned negative ((Nat.toDigits 10 n).map byte ++ rest) = .ok (wholeNumber negative n, rest) := by
  have hd : ∀ c ∈ Nat.toDigits 10 n, c.isDigit = true := fun c hc =>
    Nat.isDigit_of_mem_toDigits (by decide) (by decide) hc
  have hv : spelled (Nat.toDigits 10 n) = n := Nat.ofDigitChars_toDigits (by decide) (by decide)
  by_cases h0 : n = 0
  · subst h0
    rw [Nat.toDigits_zero]
    show scanUnsigned negative (48 :: rest) = _
    rw [scanUnsigned, if_pos (by decide), if_neg, scanTail_apart hr]
    cases rest with
    | nil => simp
    | cons b rest => simp [(hr b rfl).1]
  · have hh := head_toDigits (Nat.pos_of_ne_zero h0)
    rw [scanUnsigned_whole negative Nat.toDigits_ne_nil hd hh (by rw [hv]; exact hn) hr.ends, hv]
    exact scanTail_apart hr

/-- **A whole number is read back from its numeral.** -/
theorem scanNumeral_numeral {n : Int} (hn : (Number.integer n).Fits) (rest : List UInt8) (hr : Apart rest) :
    ∃ b bytes, numeral (.integer n) = b :: bytes ∧ (b = 45 ∨ isDigit b = true) ∧
      scanNumeral (b :: bytes ++ rest) = .ok (.integer n, rest) := by
  obtain ⟨hlow, hhigh⟩ := hn
  cases n with
  | ofNat n =>
    have hlimit : (n : Int) < 18446744073709551616 := hhigh
    have hs := scanUnsigned_digits false (n := n) (by unfold significandLimit; omega) hr
    have he : numeral (.integer (Int.ofNat n)) = (Nat.toDigits 10 n).map byte := by
      show (n.repr.toList).map _ = _
      rw [Nat.toList_repr]
      rfl
    cases hc : Nat.toDigits 10 n with
    | nil => exact absurd hc Nat.toDigits_ne_nil
    | cons c cs =>
      have hd : isDigit (byte c) = true :=
        isDigit_byte (Nat.isDigit_of_mem_toDigits (n := n) (b := 10) (by decide) (by decide) (hc ▸ List.mem_cons_self))
      rw [hc] at hs he
      refine ⟨_, _, he, .inr hd, ?_⟩
      unfold scanNumeral
      split
      · rename_i heq
        rw [List.cons_append] at heq
        rw [(List.cons.inj heq).1] at hd
        cases hd
      · exact hs
  | negSucc n =>
    have hs := scanUnsigned_digits true (n := n + 1) (by unfold significandLimit; omega) hr
    have he : numeral (.integer (Int.negSucc n)) = 45 :: (Nat.toDigits 10 (n + 1)).map byte := by
      show (("-" ++ (n + 1).repr).toList).map _ = _
      rw [String.toList_append, List.map_append, Nat.toList_repr]
      rfl
    refine ⟨_, _, he, .inl rfl, ?_⟩
    rw [List.cons_append, scanNumeral, hs, wholeNumber, if_pos rfl, if_neg]
    · rfl
    · simp only [Bool.or_eq_true, decide_eq_true_eq]
      show ¬(n + 1 = 0 ∨ (9223372036854775808 : Int) < ((n + 1 : Nat) : Int))
      omega

/-! ## What a numeral gives -/

/-- A number that was scanned, if one was, is one that a text gives. -/
def Scanned (scan : NumberScan) : Prop :=
  ∀ x rest, scan = .ok (x, rest) → x.Proper

theorem beyondLimit_scanned (negative negativeExponent : Bool) (significand : Nat) (rest : List UInt8) :
    Scanned (beyondLimit negative negativeExponent significand rest) := by
  intro x after h
  unfold beyondLimit at h
  split at h
  · cases h
  · cases h
    exact ⟨negative, 0, rfl, Binary64.twoTo_pos _, Nat.dvd_zero _⟩

theorem absorb_lt : ∀ (bytes : List UInt8) (significand count : Nat), significand < significandLimit →
    (absorb significand count bytes).significand < significandLimit
  | [], _, _, h => h
  | b :: bytes, significand, count, h => by
    unfold absorb
    dsimp only
    split
    · rename_i hn
      simp only [Bool.and_eq_true, decide_eq_true_eq] at hn
      exact absorb_lt bytes _ _ hn.2
    · exact h

section
variable (negative : Bool) {significand : Nat} (h : significand < significandLimit)
include h

theorem finished_scanned (e : Int) (rest : List UInt8) : Scanned (finished negative significand e rest) := by
  intro x after hx
  unfold finished at hx
  split at hx
  · rename_i y hy
    cases hx
    unfold realOf? at hy
    obtain ⟨z, hz, rfl⟩ := Option.map_eq_some_iff.1 hy
    have hdouble := scale?_isDouble 5 _ e (isDouble_ofInt h) hz
    split
    · exact hdouble.neg
    · exact hdouble
  · cases hx

theorem scanExponent_scanned (e : Int) (bytes : List UInt8) : Scanned (scanExponent negative significand e bytes) := by
  unfold scanExponent
  split
  split
  · exact nofun
  · split
    · split
      · exact finished_scanned negative h _ _
      · exact beyondLimit_scanned _ _ _ _
    · exact nofun

theorem scanScale_scanned (e : Int) (bytes : List UInt8) : Scanned (scanScale negative significand e bytes) := by
  unfold scanScale
  split
  · exact finished_scanned negative h _ _
  · split
    · exact scanExponent_scanned negative h _ _
    · exact finished_scanned negative h _ _

theorem scanFraction_scanned (e : Int) (bytes : List UInt8) : Scanned (scanFraction negative significand e bytes) := by
  unfold scanFraction
  dsimp only
  split
  · exact nofun
  · split
    · exact scanScale_scanned negative (absorb_lt _ _ _ h) _ _
    · exact nofun

theorem wholeNumber_proper : (wholeNumber negative significand).Proper := by
  have hs : (significand : Int) < 18446744073709551616 := by
    unfold significandLimit at h
    omega
  unfold wholeNumber
  split
  · split
    · exact (isDouble_ofInt h).neg
    · rename_i hn
      simp only [Bool.or_eq_true, decide_eq_true_eq, not_or] at hn
      have hl : ¬(9223372036854775808 : Int) < (significand : Int) := hn.2
      exact ⟨by omega, by omega⟩
  · exact ⟨by omega, hs⟩

theorem scanTail_scanned (dropped : Nat) (bytes : List UInt8) :
    Scanned (scanTail negative significand dropped bytes) := by
  unfold scanTail
  split
  · exact scanFraction_scanned negative h _ _
  · split
    · intro x rest hx
      cases hx
      exact wholeNumber_proper negative h
    · exact scanScale_scanned negative h _ _

end

theorem scanUnsigned_scanned (negative : Bool) (bytes : List UInt8) : Scanned (scanUnsigned negative bytes) := by
  unfold scanUnsigned
  split
  · exact nofun
  · split
    · split
      · exact nofun
      · exact scanTail_scanned negative (by decide) _ _
    · split
      · exact scanTail_scanned negative (absorb_lt _ _ _ (by decide)) _ _
      · exact nofun

/-- **A numeral gives a whole number of 64 bits or a finite double.** -/
theorem scanNumeral_proper (bytes : List UInt8) : Scanned (scanNumeral bytes) := by
  unfold scanNumeral
  split
  · exact scanUnsigned_scanned _ _
  · exact scanUnsigned_scanned _ _

end Json
end TokenCache
