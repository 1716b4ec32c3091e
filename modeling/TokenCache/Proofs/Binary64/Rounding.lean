import TokenCache.Binary64.Arithmetic
/-!
# Rounding

What follows from the rule of the nearest representable number, without bounds on the numbers themselves:
- a quotient that is representable is not changed (`nearest_exact`);
- rounding keeps the order (`nearest_mono`), and quotients that are far enough apart stay apart (`nearest_lt`);
- it depends on the quotient only, not on how it is written (`nearest_scale`).

Powers of two stay closed throughout: a unit is too small for its reciprocal to be computed.
-/
namespace TokenCache
namespace Binary64

/-! ## Powers -/

theorem twoTo_le {m n : Nat} (h : m ≤ n) : twoTo m ≤ twoTo n :=
  Nat.pow_le_pow_right (by decide) h

theorem twoTo_lt {m n : Nat} (h : m < n) : twoTo m < twoTo n :=
  Nat.pow_lt_pow_right (by decide) h

theorem twoTo_dvd {m n : Nat} (h : m ≤ n) : twoTo m ∣ twoTo n :=
  Nat.pow_dvd_pow 2 h

theorem twoTo_succ (n : Nat) : twoTo (n + 1) = twoTo n + twoTo n := by
  rw [twoTo_add]
  exact Nat.mul_two _

theorem one_eq : one = twoTo 1074 := rfl

theorem one_pos : 0 < one :=
  twoTo_pos 1074

/-! ## The nearest integer -/

theorem nearestInteger_cases (num den : Nat) :
    (nearestInteger num den = num / den ∧ 2 * (num % den) ≤ den) ∨
      (nearestInteger num den = num / den + 1 ∧ den ≤ 2 * (num % den)) := by
  unfold nearestInteger
  dsimp only
  split
  · exact .inl ⟨rfl, by omega⟩
  split
  · exact .inr ⟨rfl, by omega⟩
  split
  · exact .inl ⟨rfl, by omega⟩
  · exact .inr ⟨rfl, by omega⟩

/-- **The nearest integer is at most half away.** -/
theorem nearestInteger_near (num : Nat) {den : Nat} (hden : 0 < den) :
    2 * (den * nearestInteger num den) ≤ 2 * num + den ∧ 2 * num ≤ 2 * (den * nearestInteger num den) + den := by
  have hd := Nat.div_add_mod num den
  rcases nearestInteger_cases num den with ⟨h, hr⟩ | ⟨h, hr⟩
  · rw [h]
    omega
  · have := Nat.mod_lt num hden
    rw [h, Nat.mul_add]
    omega

theorem nearestInteger_mul (m : Nat) {den : Nat} (hd : 0 < den) : nearestInteger (den * m) den = m := by
  unfold nearestInteger
  dsimp only
  rw [Nat.mul_mod_right, Nat.mul_div_cancel_left m hd]
  exact if_pos (by omega)

theorem nearestInteger_mono {num num' : Nat} (den : Nat) (h : num ≤ num') :
    nearestInteger num den ≤ nearestInteger num' den := by
  have hq : num / den ≤ num' / den := Nat.div_le_div_right h
  rcases Nat.lt_or_eq_of_le hq with hlt | heq
  · rcases nearestInteger_cases num den with ⟨e, -⟩ | ⟨e, -⟩ <;>
      rcases nearestInteger_cases num' den with ⟨e', -⟩ | ⟨e', -⟩ <;> omega
  · have hd := Nat.div_add_mod num den
    have hd' := Nat.div_add_mod num' den
    rcases Nat.lt_or_eq_of_le h with hlt | rfl
    · rw [← heq] at hd'
      rcases nearestInteger_cases num den with ⟨e, -⟩ | ⟨e, hr⟩ <;>
        rcases nearestInteger_cases num' den with ⟨e', hr'⟩ | ⟨e', -⟩ <;> omega
    · exact Nat.le_refl _

theorem nearestInteger_le {num den m : Nat} (hd : 0 < den) (h : num ≤ den * m) : nearestInteger num den ≤ m := by
  have := nearestInteger_mono den h
  rwa [nearestInteger_mul m hd] at this

theorem le_nearestInteger {num den m : Nat} (hd : 0 < den) (h : den * m ≤ num) : m ≤ nearestInteger num den := by
  have := nearestInteger_mono den h
  rwa [nearestInteger_mul m hd] at this

theorem nearestInteger_scale (num den : Nat) {c : Nat} (hc : 0 < c) :
    nearestInteger (num * c) (den * c) = nearestInteger num den := by
  have hcmp : ∀ a b : Nat, (2 * (a * c) < b * c ↔ 2 * a < b) ∧ (b * c < 2 * (a * c) ↔ b < 2 * a) := by
    intro a b
    rw [← Nat.mul_assoc]
    exact ⟨Nat.mul_lt_mul_right hc, Nat.mul_lt_mul_right hc⟩
  unfold nearestInteger
  dsimp only
  rw [Nat.mul_mod_mul_right, Nat.mul_div_mul_right _ _ hc]
  simp only [hcmp]

/-! ## Spacing -/

theorem twoTo_le_of_spacing {q : Nat} (h : 0 < spacing q) : twoTo (spacing q + 52) ≤ q := by
  have hq : q ≠ 0 := by
    rintro rfl
    exact absurd h (by decide)
  have hlog : spacing q + 52 = q.log2 := by
    unfold spacing at h ⊢
    omega
  rw [hlog]
  exact Nat.log2_self_le hq

theorem lt_twoTo_spacing (q : Nat) : q < twoTo (spacing q + 53) := by
  refine Nat.lt_of_lt_of_le (Nat.lt_log2_self (n := q)) (twoTo_le ?_)
  unfold spacing
  omega

theorem spacing_le {q k : Nat} (h : q < twoTo (k + 53)) : spacing q ≤ k := by
  refine Nat.not_lt.1 fun hk => ?_
  have hlow := twoTo_le_of_spacing (Nat.lt_of_le_of_lt (Nat.zero_le k) hk)
  have : twoTo (k + 53) ≤ twoTo (spacing q + 52) := twoTo_le (by omega)
  omega

theorem spacing_mono {q q' : Nat} (h : q ≤ q') : spacing q ≤ spacing q' :=
  spacing_le (Nat.lt_of_le_of_lt h (lt_twoTo_spacing q'))

/-! ## The nearest representable number -/

/-- **A representable number is not changed.** -/
theorem nearest_exact {q den : Nat} (hd : 0 < den) (h : twoTo (spacing q) ∣ q) : nearest (q * den) den = q := by
  obtain ⟨c, hc⟩ := h
  unfold nearest
  dsimp only
  rw [Nat.mul_div_cancel q hd]
  have he : q * den = den * twoTo (spacing q) * c := by
    conv => lhs; rw [hc]
    rw [Nat.mul_comm, Nat.mul_assoc]
  rw [he, nearestInteger_mul c (Nat.mul_pos hd (twoTo_pos _)), Nat.mul_comm]
  exact hc.symm

theorem nearest_zero (den : Nat) : nearest 0 den = 0 := by
  simp [nearest, nearestInteger]

/-- **Rounding depends on the quotient only.** -/
theorem nearest_scale (num den : Nat) {c : Nat} (hc : 0 < c) : nearest (num * c) (den * c) = nearest num den := by
  unfold nearest
  dsimp only
  rw [Nat.mul_div_mul_right _ _ hc, Nat.mul_right_comm, nearestInteger_scale _ _ hc]

theorem nearest_near (num : Nat) {den : Nat} (hd : 0 < den) :
    2 * (den * nearest num den) ≤ 2 * num + den * twoTo (spacing (num / den)) ∧
      2 * num ≤ 2 * (den * nearest num den) + den * twoTo (spacing (num / den)) := by
  have h := nearestInteger_near num (Nat.mul_pos hd (twoTo_pos (spacing (num / den))))
  have he : den * nearest num den =
      den * twoTo (spacing (num / den)) * nearestInteger num (den * twoTo (spacing (num / den))) := by
    unfold nearest
    dsimp only
    rw [Nat.mul_comm (nearestInteger _ _), Nat.mul_assoc]
  rw [he]
  exact h

/-- **Rounding keeps the order.** -/
theorem nearest_mono {num num' den : Nat} (hd : 0 < den) (h : num ≤ num') : nearest num den ≤ nearest num' den := by
  have hq : num / den ≤ num' / den := Nat.div_le_div_right h
  unfold nearest
  dsimp only
  rcases Nat.lt_or_eq_of_le (spacing_mono hq) with hlt | heq
  · -- a power of two lies between the two quotients, and it is representable
    generalize hk : spacing (num / den) = k at hlt
    generalize hk' : spacing (num' / den) = k' at hlt
    have hupper : num ≤ den * twoTo k * twoTo 53 := by
      have := lt_twoTo_spacing (num / den)
      rw [hk, twoTo_add] at this
      rw [Nat.mul_assoc, Nat.mul_comm]
      exact Nat.le_of_lt ((Nat.div_lt_iff_lt_mul hd).1 this)
    have hlower : den * twoTo k' * twoTo 52 ≤ num' := by
      have := twoTo_le_of_spacing (q := num' / den) (by omega)
      rw [hk', twoTo_add] at this
      rw [Nat.mul_assoc, Nat.mul_comm]
      exact (Nat.le_div_iff_mul_le hd).1 this
    calc nearestInteger num (den * twoTo k) * twoTo k
        ≤ twoTo 53 * twoTo k :=
          Nat.mul_le_mul_right _ (nearestInteger_le (Nat.mul_pos hd (twoTo_pos k)) hupper)
      _ = twoTo (53 + k) := (twoTo_add 53 k).symm
      _ ≤ twoTo (52 + k') := twoTo_le (by omega)
      _ = twoTo 52 * twoTo k' := twoTo_add 52 k'
      _ ≤ nearestInteger num' (den * twoTo k') * twoTo k' :=
          Nat.mul_le_mul_right _ (le_nearestInteger (Nat.mul_pos hd (twoTo_pos k')) hlower)
  · rw [← heq]
    exact Nat.mul_le_mul_right _ (nearestInteger_mono _ h)

/-- **Quotients more than a spacing apart stay apart.** -/
theorem nearest_lt {num num' den k : Nat} (hd : 0 < den) (hk : num' / den < twoTo (k + 53))
    (h : num + den * twoTo k < num') : nearest num den < nearest num' den := by
  have hq : num / den ≤ num' / den := Nat.div_le_div_right (by omega)
  have hs : ∀ {q}, q ≤ num' / den → den * twoTo (spacing q) ≤ den * twoTo k := fun hq =>
    Nat.mul_le_mul_left _ (twoTo_le (spacing_le (Nat.lt_of_le_of_lt hq hk)))
  have hlow := (nearest_near num hd).1
  have hhigh := (nearest_near num' hd).2
  have h₁ := hs hq
  have h₂ := hs (Nat.le_refl _)
  exact (Nat.mul_lt_mul_left hd).1 (by omega)

/-! ## Whole numbers -/

/-- **A whole number below 2⁵³ is a double.** -/
theorem nearest_whole {m den : Nat} (hd : 0 < den) (hm : m < twoTo 53) : nearest (m * one * den) den = m * one := by
  refine nearest_exact hd (Nat.dvd_trans ?_ (Nat.dvd_mul_left one m))
  refine twoTo_dvd (spacing_le ?_)
  rw [Nat.add_comm, twoTo_add, ← one_eq]
  exact Nat.mul_lt_mul_of_pos_right hm one_pos

theorem twoTo_spacing_dvd_twoTo (n : Nat) : twoTo (spacing (twoTo n)) ∣ twoTo n := by
  refine twoTo_dvd ?_
  unfold spacing twoTo
  rw [Nat.pow_eq, Nat.log2_two_pow]
  exact Nat.sub_le n 52

theorem nearest_twoTo (n : Nat) {den : Nat} (hd : 0 < den) : nearest (twoTo n * den) den = twoTo n :=
  nearest_exact hd (twoTo_spacing_dvd_twoTo n)

theorem nearest_lt_limit {num den : Nat} (hd : 0 < den) (h : num ≤ twoTo 2097 * den) : nearest num den < limit := by
  refine Nat.lt_of_le_of_lt (nearest_mono hd h) ?_
  rw [nearest_twoTo 2097 hd]
  exact twoTo_lt (by decide)

theorem ofQuotient_finite (negative : Bool) {num den : Nat} (hd : 0 < den) (h : num ≤ twoTo 2097 * den) :
    ofQuotient negative num den = finite negative (nearest num den) := by
  unfold ofQuotient
  dsimp only
  exact if_pos (nearest_lt_limit hd h)

theorem units_le {n : Nat} (h : n ≤ twoTo 1000) : n * one ≤ twoTo 2097 := by
  calc n * one ≤ twoTo 1000 * one := Nat.mul_le_mul_right _ h
    _ = twoTo (1000 + 1074) := by rw [one_eq, twoTo_add]
    _ ≤ twoTo 2097 := twoTo_le (by decide)

theorem le_twoTo_of_lt {n : Nat} (h : n < twoTo 53) : n ≤ twoTo 1000 :=
  Nat.le_trans (Nat.le_of_lt h) (twoTo_le (by decide))

theorem ofQuotient_units (negative : Bool) {n : Nat} (h : n ≤ twoTo 1000) :
    ofQuotient negative (n * one) 1 = finite negative (nearest (n * one) 1) :=
  ofQuotient_finite negative Nat.one_pos (by rw [Nat.mul_one]; exact units_le h)

theorem ofInt_eq {e : Int} (h : e.natAbs ≤ twoTo 1000) : ofInt e = finite (e < 0) (nearest (e.natAbs * one) 1) := by
  unfold ofInt
  rw [ofQuotient_units _ h]

theorem ofInt_natCast {n : Nat} (h : n ≤ twoTo 1000) : ofInt n = finite false (nearest (n * one) 1) := by
  have hn : decide ((n : Int) < 0) = false := by simp
  rw [ofInt_eq (by rwa [Int.natAbs_natCast]), hn, Int.natAbs_natCast]

theorem nearest_whole_one {m : Nat} (hm : m < twoTo 53) : nearest (m * one) 1 = m * one := by
  have := nearest_whole Nat.one_pos hm
  rwa [Nat.mul_one] at this

theorem ofInt_exact {n : Int} (h : n.natAbs < twoTo 53) : ofInt n = finite (n < 0) (n.natAbs * one) := by
  rw [ofInt_eq (le_twoTo_of_lt h), nearest_whole_one h]

theorem ofInt_whole {n : Nat} (h : n < twoTo 53) : ofInt n = finite false (n * one) := by
  have hn : decide ((n : Int) < 0) = false := by simp
  rw [ofInt_exact (by rwa [Int.natAbs_natCast]), hn, Int.natAbs_natCast]

/-! ## Representable numbers -/

/-- The numbers of units of the finite doubles. -/
structure Representable (u : Nat) : Prop where
  lt : u < limit
  dvd : twoTo (spacing u) ∣ u

/-- **Rounding gives a representable number**, if it is not too great. -/
theorem representable_nearest {num den : Nat} (hd : 0 < den) (h : nearest num den < limit) :
    Representable (nearest num den) := by
  refine ⟨h, ?_⟩
  have hle : nearestInteger num (den * twoTo (spacing (num / den))) ≤ twoTo 53 := by
    refine nearestInteger_le (Nat.mul_pos hd (twoTo_pos _)) ?_
    have hlt := (Nat.div_lt_iff_lt_mul hd).1 (lt_twoTo_spacing (num / den))
    rw [twoTo_add] at hlt
    calc num ≤ twoTo (spacing (num / den)) * twoTo 53 * den := Nat.le_of_lt hlt
      _ = den * twoTo (spacing (num / den)) * twoTo 53 := by rw [Nat.mul_comm, Nat.mul_assoc]
  have hn : nearest num den =
      nearestInteger num (den * twoTo (spacing (num / den))) * twoTo (spacing (num / den)) := rfl
  rw [hn]
  generalize nearestInteger num (den * twoTo (spacing (num / den))) = c at hle
  generalize spacing (num / den) = k
  rcases Nat.lt_or_eq_of_le hle with hlt | rfl
  · -- 53 digits are enough, so the spacing has not grown
    have hk : spacing (c * twoTo k) ≤ k := by
      refine spacing_le ?_
      rw [Nat.add_comm, twoTo_add]
      exact Nat.mul_lt_mul_of_pos_right hlt (twoTo_pos k)
    exact Nat.dvd_trans (twoTo_dvd hk) (Nat.dvd_mul_left _ c)
  · rw [← twoTo_add]
    exact twoTo_spacing_dvd_twoTo _

/-- The greatest finite double. -/
def greatest : Nat :=
  limit - twoTo 2045

/-- The last spacing before the limit is twice as wide as what is left of it. -/
theorem Representable.le {u : Nat} (h : Representable u) (hg : u ≠ greatest) : u + twoTo 2046 ≤ limit := by
  by_cases hu : u < twoTo 2097
  · have hl : limit = twoTo 2097 + twoTo 2097 := twoTo_succ 2097
    have : twoTo 2046 ≤ twoTo 2097 := twoTo_le (by decide)
    omega
  · have hs : 2045 ≤ spacing u := by
      have hl : twoTo 2097 = twoTo (2044 + 53) := rfl
      refine Nat.not_lt.1 fun hk => hu ?_
      rw [hl]
      exact Nat.lt_of_lt_of_le (lt_twoTo_spacing u) (twoTo_le (by omega))
    obtain ⟨c, hc⟩ := Nat.dvd_trans (twoTo_dvd hs) h.dvd
    have hlt := h.lt
    have hl : limit = twoTo 2045 * twoTo 53 := twoTo_add 2045 53
    have htwo : twoTo 2046 = twoTo 2045 + twoTo 2045 := twoTo_succ 2045
    unfold greatest at hg
    rw [hc, hl] at hlt hg
    rw [hc, hl, htwo, ← Nat.mul_two, ← Nat.mul_add]
    have hc53 := Nat.lt_of_mul_lt_mul_left hlt
    refine Nat.mul_le_mul_left _ (Nat.not_lt.1 fun hlt => hg ?_)
    have : c = twoTo 53 - 1 := by omega
    rw [this, Nat.mul_sub, Nat.mul_one]

/-- A finite double. -/
def IsDouble (x : Binary64) : Prop :=
  ∃ negative u, x = finite negative u ∧ Representable u

theorem isDouble_ofQuotient (negative : Bool) {num den : Nat} (hd : 0 < den) (h : nearest num den < limit) :
    IsDouble (ofQuotient negative num den) := by
  refine ⟨negative, nearest num den, ?_, representable_nearest hd h⟩
  unfold ofQuotient
  exact if_pos h

theorem IsDouble.neg {x : Binary64} (h : IsDouble x) : IsDouble x.neg := by
  obtain ⟨negative, u, rfl, hu⟩ := h
  exact ⟨!negative, u, rfl, hu⟩

end Binary64
end TokenCache
