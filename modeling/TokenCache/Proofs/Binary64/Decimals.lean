import Mathlib.Data.List.TakeWhile
import TokenCache.Binary64.Shortest
import TokenCache.Proofs.Binary64.Rounding
/-!
# The digits of a double

What the shortest decimal of a double is made of (`shortest_spells`): digits that do not open with a zero, at most
seventeen and so a number below 10¹⁸, a point within the format's range, and a value that is not above the upper end of
the interval about the double.

Powers of ten are compared crosswise, so that nothing is said of quotients: `u * tenTo i < v * tenTo j` stands for
`u < v * 10 ^ (j - i)`, also where `j - i` is negative (`shift_lt`).
-/
namespace TokenCache
namespace Binary64

/-! ## Digits -/

theorem head_toDigits {n : Nat} (h : 0 < n) : (Nat.toDigits 10 n).head? ≠ some '0' := by
  induction n using Nat.strongRecOn with
  | ind n ih =>
    rw [Nat.toDigits_eq_if (by decide)]
    by_cases hn : n < 10
    · rw [if_pos hn]
      intro he
      have := Nat.toNat_digitChar_of_lt_ten hn
      rw [Option.some.inj he] at this
      have : 48 = 48 + n := this
      omega
    · have ih := ih (n / 10) (by omega) (by omega)
      rw [if_neg hn]
      cases hc : Nat.toDigits 10 (n / 10) with
      | nil => exact absurd hc Nat.toDigits_ne_nil
      | cons c cs =>
        rw [hc] at ih
        exact ih

theorem toDigits_eq_significant (d : Nat) : ∃ z, Nat.toDigits 10 d = significant d ++ List.replicate z '0' := by
  have hsplit := List.takeWhile_append_dropWhile (p := (· == '0')) (l := (Nat.toDigits 10 d).reverse)
  have hzeros : (Nat.toDigits 10 d).reverse.takeWhile (· == '0') =
      List.replicate ((Nat.toDigits 10 d).reverse.takeWhile (· == '0')).length '0' := by
    refine List.eq_replicate_of_mem fun c hc => ?_
    simpa using List.mem_takeWhile_imp hc
  refine ⟨((Nat.toDigits 10 d).reverse.takeWhile (· == '0')).length, ?_⟩
  unfold significant
  rw [← List.reverse_inj, List.reverse_append, List.reverse_reverse, List.reverse_replicate, ← hzeros, hsplit]

theorem ofDigitChars_zeros (n : Nat) : ∀ z : Nat, Nat.ofDigitChars 10 (List.replicate z '0') n = n * tenTo z
  | 0 => by simp [tenTo]
  | z + 1 => by
    have hz : 10 * n + ('0'.toNat - '0'.toNat) = 10 * n := by simp
    rw [List.replicate_succ, Nat.ofDigitChars_cons, hz, ofDigitChars_zeros (10 * n) z, Nat.add_comm z 1, tenTo_add,
      ← Nat.mul_assoc, Nat.mul_comm n]
    rfl

/-- The number that digits spell. -/
def spelled (digits : List Char) : Nat :=
  Nat.ofDigitChars 10 digits 0

/-- **The significant digits of a number** open with no zero, and spell it but for a power of ten. -/
theorem significant_spec {d : Nat} (hd : 0 < d) : ∃ z, significant d ≠ [] ∧ (significant d).head? ≠ some '0' ∧
    (∀ c ∈ significant d, c.isDigit = true) ∧ spelled (significant d) * tenTo z = d ∧
    (Nat.toDigits 10 d).length = (significant d).length + z := by
  obtain ⟨z, hz⟩ := toDigits_eq_significant d
  have hhead := head_toDigits hd
  have hvalue : Nat.ofDigitChars 10 (Nat.toDigits 10 d) 0 = d := Nat.ofDigitChars_toDigits (by decide) (by decide)
  have hne : significant d ≠ [] := by
    intro hn
    rw [hn, List.nil_append] at hz
    cases z with
    | zero => exact Nat.toDigits_ne_nil hz
    | succ z => exact hhead (by rw [hz]; rfl)
  refine ⟨z, hne, fun h => hhead ?_, fun c hc => ?_, ?_, ?_⟩
  · rw [hz, List.head?_append, h]
    rfl
  · exact Nat.isDigit_of_mem_toDigits (n := d) (b := 10) (by decide) (by decide) (hz ▸ List.mem_append_left _ hc)
  · rw [hz, Nat.ofDigitChars_append, ofDigitChars_zeros] at hvalue
    exact hvalue
  · rw [hz, List.length_append, List.length_replicate]

/-! ## Powers of ten on both sides -/

theorem tenTo_le {m n : Nat} (h : m ≤ n) : tenTo m ≤ tenTo n :=
  Nat.pow_le_pow_right (by decide) h

theorem shift_lt {u v i j k l : Nat} (h : u * tenTo i < v * tenTo j) (he : k + j = l + i) :
    u * tenTo k < v * tenTo l := by
  refine Nat.lt_of_mul_lt_mul_right (a := tenTo i) ?_
  calc u * tenTo k * tenTo i = u * tenTo i * tenTo k := Nat.mul_right_comm _ _ _
    _ < v * tenTo j * tenTo k := Nat.mul_lt_mul_of_pos_right h (tenTo_pos k)
    _ = v * tenTo l * tenTo i := by rw [Nat.mul_assoc, Nat.mul_assoc, ← tenTo_add, ← tenTo_add, Nat.add_comm j, he]

theorem shift_le {u v i j k l : Nat} (h : u * tenTo i ≤ v * tenTo j) (he : k + j = l + i) :
    u * tenTo k ≤ v * tenTo l := by
  refine Nat.le_of_mul_le_mul_right ?_ (tenTo_pos i)
  calc u * tenTo k * tenTo i = u * tenTo i * tenTo k := Nat.mul_right_comm _ _ _
    _ ≤ v * tenTo j * tenTo k := Nat.mul_le_mul_right _ h
    _ = v * tenTo l * tenTo i := by rw [Nat.mul_assoc, Nat.mul_assoc, ← tenTo_add, ← tenTo_add, Nat.add_comm j, he]

theorem quarters_eq (d : Nat) (e : Int) : quarters d e = ⟨d * tenTo e.toNat * (4 * one), tenTo (-e).toNat⟩ := by
  unfold quarters
  split
  · have he : (-e).toNat = 0 := by omega
    rw [he]
    rfl
  · have he : e.toNat = 0 := by omega
    rw [he]
    show _ = Quotient.mk (d * 1 * (4 * one)) _
    rw [Nat.mul_one]

/-- The zeros at the end of a decimal go into its power. -/
theorem le_of_quarters {n z d high k : Nat} {e : Int} (hd : n * tenTo z = d)
    (h : d * tenTo e.toNat * (4 * one) ≤ high * tenTo (-e).toNat) (hk : (k : Int) = e + z) :
    n * tenTo k * (4 * one) ≤ high := by
  generalize 4 * one = unit at h ⊢
  have hscaled : n * unit * tenTo (z + e.toNat) ≤ high * tenTo (-e).toNat := by
    refine Nat.le_trans (Nat.le_of_eq ?_) h
    rw [tenTo_add, ← hd]
    ac_rfl
  have hshift : n * unit * tenTo k ≤ high * tenTo 0 := shift_le hscaled (by omega)
  calc n * tenTo k * unit = n * unit * tenTo k := Nat.mul_right_comm _ _ _
    _ ≤ high * tenTo 0 := hshift
    _ = high := Nat.mul_one high

/-! ## The point -/

theorem lt_tenTo_length (n : Nat) : n < tenTo (Nat.toDigits 10 n).length :=
  (Nat.length_toDigits_le_iff (by decide) (List.length_pos_iff.2 Nat.toDigits_ne_nil)).1 (Nat.le_refl _)

theorem length_toDigits_le {n k : Nat} (hk : 0 < k) (h : n < tenTo k) : (Nat.toDigits 10 n).length ≤ k :=
  (Nat.length_toDigits_le_iff (by decide) hk).2 h

theorem tenTo_le_of_length {n m : Nat} (hn : 0 < n) (h : (Nat.toDigits 10 n).length = m + 1) : tenTo m ≤ n := by
  cases m with
  | zero => exact hn
  | succ m =>
    refine Nat.not_lt.1 fun hlt => ?_
    have := length_toDigits_le (Nat.succ_pos m) hlt
    omega

/-- **The number is below ten to the point.** -/
theorem lt_pointOf {u : Nat} (hu : 0 < u) : u * tenTo (-pointOf u).toNat < one * tenTo (pointOf u).toNat := by
  have hpos := one_pos
  unfold pointOf
  generalize one = one at hpos ⊢
  split
  · have hlt := (Nat.div_lt_iff_lt_mul hpos).1 (lt_tenTo_length (u / one))
    generalize (Nat.toDigits 10 (u / one)).length = n at hlt ⊢
    rw [show (-(n : Int)).toNat = 0 by omega, Int.toNat_natCast]
    show u * 1 < _
    rw [Nat.mul_one, Nat.mul_comm]
    exact hlt
  · rename_i hone
    have hquotient : 0 < one / u := Nat.div_pos (by omega) hu
    obtain ⟨m, hm⟩ := Nat.exists_eq_succ_of_ne_zero
      (Nat.ne_of_gt (List.length_pos_iff.2 (Nat.toDigits_ne_nil (b := 10) (n := one / u))))
    have hle : u * tenTo m ≤ one := by
      have := (Nat.le_div_iff_mul_le hu).1 (tenTo_le_of_length hquotient hm)
      rwa [Nat.mul_comm]
    dsimp only
    rw [hm, Nat.succ_sub_one]
    -- a power of ten has a digit more than what is below it, so its point is one further to the right
    split
    · rename_i hlow
      cases m with
      | zero => exact absurd (Nat.le_trans hlow (Nat.le_of_eq (Nat.mul_one u))) hone
      | succ m =>
        rw [show (-(2 - ((m + 1 + 1 : Nat) : Int))).toNat = m by omega,
          show (2 - ((m + 1 + 1 : Nat) : Int)).toNat = 0 by omega]
        have hstep : u * tenTo m * 10 ≤ one := by
          rw [Nat.mul_assoc]
          exact hle
        show u * tenTo m < one * 1
        have := Nat.mul_pos hu (tenTo_pos m)
        omega
    · rename_i hlow
      rw [show (-(1 - ((m + 1 : Nat) : Int))).toNat = m by omega, show (1 - ((m + 1 : Nat) : Int)).toNat = 0 by omega]
      show u * tenTo m < one * 1
      omega

theorem pointOf_range {u : Nat} (hlt : u < limit) : -323 ≤ pointOf u ∧ pointOf u ≤ 309 := by
  have hn : (Nat.toDigits 10 (u / one)).length ≤ 309 := by
    have hlimit : limit ≤ tenTo 309 * one := by decide +kernel
    exact length_toDigits_le (by decide) ((Nat.div_lt_iff_lt_mul one_pos).2 (Nat.lt_of_lt_of_le hlt hlimit))
  have hm : (Nat.toDigits 10 (one / u)).length ≤ 324 := by
    have hone : one < tenTo 324 := by decide +kernel
    exact length_toDigits_le (by decide) (Nat.lt_of_le_of_lt (Nat.div_le_self one u) hone)
  unfold pointOf
  generalize one = one at hn hm ⊢
  generalize (Nat.toDigits 10 (u / one)).length = n at hn ⊢
  generalize (Nat.toDigits 10 (one / u)).length = m at hm ⊢
  split
  · omega
  · dsimp only
    split <;> omega

/-! ## The decimals about a number -/

theorem le_of_mem_candidates {u d n : Nat} (hu : 0 < u) (h : d ∈ candidates u (pointOf u) n) : d ≤ tenTo n := by
  have hlt : 4 * u * (quarters 1 (pointOf u - n)).den / (quarters 1 (pointOf u - n)).num < tenTo n := by
    rw [quarters_eq, Nat.one_mul]
    dsimp only
    generalize he : pointOf u - n = e
    have hshift : u * tenTo (-e).toNat < one * tenTo (e.toNat + n) := shift_lt (lt_pointOf hu) (by omega)
    refine (Nat.div_lt_iff_lt_mul (Nat.mul_pos (tenTo_pos _) (Nat.mul_pos (by decide) one_pos))).2 ?_
    generalize one = one at hshift ⊢
    calc 4 * u * tenTo (-e).toNat = 4 * (u * tenTo (-e).toNat) := Nat.mul_assoc _ _ _
      _ < 4 * (one * tenTo (e.toNat + n)) := Nat.mul_lt_mul_of_pos_left hshift (by decide)
      _ = tenTo n * (tenTo e.toNat * (4 * one)) := by rw [tenTo_add]; ac_rfl
  unfold candidates at h
  dsimp only at h
  split at h
  all_goals
    simp only [List.mem_cons, List.not_mem_nil, or_false] at h
    omega

theorem Interval.le_of_contains {i : Interval} {q : Quotient} (h : i.contains q = true) :
    i.low * q.den ≤ q.num ∧ q.num ≤ i.high * q.den := by
  unfold contains at h
  split at h
  all_goals
    simp only [Bool.and_eq_true, decide_eq_true_eq] at h
    omega

theorem twoTo_spacing_le {u : Nat} (hu : 0 < u) : twoTo (spacing u) ≤ u := by
  by_cases hs : 0 < spacing u
  · exact Nat.le_trans (twoTo_le (by omega)) (twoTo_le_of_spacing hs)
  · rw [Nat.eq_zero_of_not_pos hs]
    exact hu

theorem interval_low_pos {u : Nat} (hu : 0 < u) : 0 < (interval u).low := by
  have := twoTo_spacing_le hu
  unfold interval
  dsimp only
  split <;> omega

theorem shortestOf_eq_some {u d n : Nat} {e : Int} (h : shortestOf u (pointOf u) n = some (d, e)) :
    d ∈ candidates u (pointOf u) n ∧ e = pointOf u - n ∧ (interval u).contains (quarters d e) = true := by
  unfold shortestOf at h
  obtain ⟨d', hfind, he⟩ := Option.map_eq_some_iff.1 h
  cases he
  have hin := List.find?_some hfind
  exact ⟨List.mem_of_find?_eq_some hfind, rfl, hin⟩

/-! ## The shortest decimal -/

/-- **What the digits of `u` units are.**  The last two conditions are of use where the point is not at the first
digit. -/
structure Spells (d : Decimal) (u : Nat) : Prop where
  nonempty : d.digits ≠ []
  digits : ∀ c ∈ d.digits, c.isDigit = true
  head : d.digits.head? ≠ some '0'
  pos : 0 < spelled d.digits
  point : -350 ≤ d.point ∧ d.point ≤ 350
  small : d.point ≠ 0 → spelled d.digits ≤ tenTo 17
  below : ∀ e : Nat, d.point = d.digits.length + e → spelled d.digits * tenTo e * (4 * one) ≤ (interval u).high

/-- **The shortest decimal of a number** stands for it, and has at most seventeen digits. -/
theorem shortest_spells {u : Nat} (hu : 0 < u) (hlt : u < limit) : Spells (shortest u) u := by
  have hrange := pointOf_range hlt
  unfold shortest
  dsimp only
  split
  · rename_i d e hfind
    obtain ⟨n, hn, hof⟩ := List.exists_of_findSome?_eq_some hfind
    have hn17 : 1 ≤ n ∧ n ≤ 17 := by
      have := List.mem_range'_1.1 hn
      omega
    obtain ⟨hmem, he, hin⟩ := shortestOf_eq_some hof
    rw [quarters_eq] at hin
    obtain ⟨hlow, hhigh⟩ := Interval.le_of_contains hin
    dsimp only at hlow hhigh
    have hd : 0 < d := by
      refine Nat.pos_of_ne_zero ?_
      rintro rfl
      have := Nat.mul_pos (interval_low_pos hu) (tenTo_pos (-e).toNat)
      rw [Nat.zero_mul, Nat.zero_mul] at hlow
      omega
    have hle := le_of_mem_candidates hu hmem
    have hlength : (Nat.toDigits 10 d).length ≤ n + 1 := by
      refine length_toDigits_le (Nat.succ_pos n) (Nat.lt_of_le_of_lt hle ?_)
      exact Nat.pow_lt_pow_right (by decide) (Nat.lt_succ_self n)
    have hlength' : 0 < (Nat.toDigits 10 d).length := List.length_pos_iff.2 Nat.toDigits_ne_nil
    obtain ⟨z, hne, hhead, hdigits, hvalue, hz⟩ := significant_spec hd
    have hpos : 0 < spelled (significant d) := Nat.pos_of_mul_pos_right (hvalue ▸ hd)
    refine ⟨hne, hdigits, hhead, hpos, ⟨by dsimp only; omega, by dsimp only; omega⟩, fun _ => ?_, fun k hk => ?_⟩
    · calc spelled (significant d) ≤ spelled (significant d) * tenTo z := Nat.le_mul_of_pos_right _ (tenTo_pos z)
        _ = d := hvalue
        _ ≤ tenTo n := hle
        _ ≤ tenTo 17 := tenTo_le hn17.2
    · exact le_of_quarters hvalue hhigh (by dsimp only at hk; omega)
  · obtain ⟨z, hne, hhead, hdigits, hvalue, -⟩ := significant_spec hu
    have hlength : 0 < (significant u).length := List.length_pos_iff.2 hne
    have hpos : 0 < spelled (significant u) := Nat.pos_of_mul_pos_right (hvalue ▸ hu)
    refine ⟨hne, hdigits, hhead, hpos, ⟨by dsimp only; omega, by dsimp only; omega⟩, fun h => absurd rfl h,
      fun k hk => ?_⟩
    dsimp only at hk
    omega

end Binary64
end TokenCache
