import TokenCache.Json.Numeral
import TokenCache.Proofs.Binary64.Decimals
/-!
# Significands scaled by powers of ten

Scaling gives a double or nothing (`scale?_isDouble`).  It gives a double where the exponent is not above zero
(`scale?_down`), and where significand and exponent are those of the shortest decimal of a double
(`scale?_shortest`): rounding twice does not take the product past the greatest double.  For that the significand is
bounded by a whole number for each exponent, and as rounding keeps the order one product is checked for each.
-/
namespace TokenCache
namespace Json

open Binary64

/-! ## Powers of ten -/

/-- The units of a power of ten, rounded. -/
def powerUnits (n : Nat) : Nat :=
  nearest (tenTo n * one) 1

theorem powerUnits_mono {m n : Nat} (h : m ≤ n) : powerUnits m ≤ powerUnits n :=
  nearest_mono Nat.one_pos (Nat.mul_le_mul_right one (tenTo_le h))

theorem powerUnits_zero : powerUnits 0 = one := by
  have h : nearest (1 * one) 1 = 1 * one := nearest_whole_one (by decide)
  unfold powerUnits
  rw [show tenTo 0 = 1 from rfl, h, Nat.one_mul]

theorem one_le_powerUnits (n : Nat) : one ≤ powerUnits n := by
  rw [← powerUnits_zero]
  exact powerUnits_mono (Nat.zero_le n)

theorem powerOfTen_eq {n : Nat} (h : n ≤ 308) : powerOfTen n = .finite false (powerUnits n) := by
  have hlt : powerUnits n < limit := by
    have hgreatest : powerUnits 308 < limit := by decide +kernel
    exact Nat.lt_of_le_of_lt (powerUnits_mono h) hgreatest
  have hlength : decimalLength 1 = 1 := by decide
  unfold powerOfTen ofDecimal
  rw [if_neg (by decide), hlength]
  dsimp only
  rw [if_neg (by omega), if_neg (by omega), if_pos (by omega), Nat.one_mul, Int.toNat_natCast]
  unfold ofQuotient
  exact if_pos hlt

theorem mul_finite (m n : Bool) (u v : Nat) :
    (finite m u).mul (finite n v) = ofQuotient (m != n) (u * v) one :=
  rfl

theorem isDouble_of_isFinite {negative : Bool} {num den : Nat} (hd : 0 < den)
    (h : (ofQuotient negative num den).isFinite = true) : IsDouble (ofQuotient negative num den) := by
  by_cases hlt : nearest num den < limit
  · exact isDouble_ofQuotient negative hd hlt
  · unfold ofQuotient at h
    rw [if_neg hlt] at h
    cases h

/-- Dividing by one or more never takes a double past the greatest. -/
theorem isDouble_div_power {x : Binary64} (h : IsDouble x) {n : Nat} (hn : n ≤ 308) :
    IsDouble (x.div (powerOfTen n)) := by
  obtain ⟨negative, u, rfl, hu⟩ := h
  have hle := one_le_powerUnits n
  have hpos := Nat.lt_of_lt_of_le Binary64.one_pos hle
  have hlt : nearest (u * one) (powerUnits n) < limit := by
    refine Nat.lt_of_le_of_lt (nearest_mono hpos (Nat.mul_le_mul_left u hle)) ?_
    rw [nearest_exact hpos hu.dvd]
    exact hu.lt
  rw [powerOfTen_eq hn]
  unfold div
  dsimp only
  rw [if_neg (Nat.ne_of_gt hpos)]
  exact isDouble_ofQuotient _ hpos hlt

theorem isDouble_mul_one {x : Binary64} (h : IsDouble x) : IsDouble (x.mul (powerOfTen 0)) := by
  obtain ⟨negative, u, rfl, hu⟩ := h
  have hlt : nearest (u * one) one < limit := by
    rw [nearest_exact Binary64.one_pos hu.dvd]
    exact hu.lt
  rw [powerOfTen_eq (by decide), powerUnits_zero, mul_finite]
  exact isDouble_ofQuotient _ Binary64.one_pos hlt

theorem isFinite_of_isDouble {x : Binary64} (h : IsDouble x) : x.isFinite = true := by
  obtain ⟨negative, u, rfl, -⟩ := h
  rfl

theorem isDouble_ofInt {n : Nat} (h : n < significandLimit) : IsDouble (ofInt n) := by
  have hle : n ≤ twoTo 1000 := by
    have hlimit : significandLimit = twoTo 64 := rfl
    rw [hlimit] at h
    exact Nat.le_trans (Nat.le_of_lt h) (twoTo_le (by decide))
  rw [ofInt_natCast hle]
  refine ⟨false, _, rfl, representable_nearest Nat.one_pos (nearest_lt_limit Nat.one_pos ?_)⟩
  rw [Nat.mul_one]
  exact units_le hle

/-! ## What scaling gives -/

theorem scale?_isDouble : ∀ (n : Nat) (x : Binary64) (e : Int) {y : Binary64}, IsDouble x → scale? n x e = some y →
    IsDouble y
  | 0, x, e, y, hx, h => by
    cases h
    exact hx
  | n + 1, x, e, y, hx, h => by
    unfold scale? at h
    by_cases hsmall : e.natAbs ≤ 308
    · rw [if_pos hsmall] at h
      dsimp only at h
      by_cases hup : 0 ≤ e
      · rw [if_pos hup, Option.ite_none_right_eq_some] at h
        obtain ⟨negative, u, rfl, -⟩ := hx
        rw [← Option.some.inj h.2, powerOfTen_eq hsmall, mul_finite]
        rw [powerOfTen_eq hsmall, mul_finite] at h
        exact isDouble_of_isFinite Binary64.one_pos h.1
      · rw [if_neg hup, Option.ite_none_right_eq_some] at h
        rw [← Option.some.inj h.2]
        exact isDouble_div_power hx hsmall
    · rw [if_neg hsmall] at h
      split at h
      · cases h
        exact hx
      · split at h
        · cases h
        · exact scale?_isDouble n _ _ (isDouble_div_power hx (by decide)) h

/-- **Scaling down always gives a double.** -/
theorem scale?_down : ∀ (n : Nat) (x : Binary64) (e : Int), IsDouble x → e ≤ 0 → ∃ y, scale? n x e = some y
  | 0, x, e, _, _ => ⟨x, rfl⟩
  | n + 1, x, e, hx, he => by
    unfold scale?
    by_cases hsmall : e.natAbs ≤ 308
    · rw [if_pos hsmall]
      dsimp only
      by_cases hzero : 0 ≤ e
      · obtain rfl : e = 0 := by omega
        rw [if_pos hzero]
        exact ⟨_, if_pos (isFinite_of_isDouble (isDouble_mul_one hx))⟩
      · rw [if_neg hzero]
        exact ⟨_, if_pos (isFinite_of_isDouble (isDouble_div_power hx hsmall))⟩
    · rw [if_neg hsmall]
      by_cases hx0 : x = .finite false 0
      · exact ⟨x, if_pos hx0⟩
      · rw [if_neg hx0, if_neg (by omega)]
        exact scale?_down n _ _ (isDouble_div_power hx (by decide)) (by omega)

/-! ## Scaling up -/

/-- The units of a significand times a power of ten, each of the three rounded. -/
def product (significand e : Nat) : Nat :=
  nearest (nearest (significand * one) 1 * powerUnits e) one

theorem product_mono {m n d e : Nat} (h : m ≤ n) (he : d ≤ e) : product m d ≤ product n e :=
  nearest_mono Binary64.one_pos
    (Nat.mul_le_mul (nearest_mono Nat.one_pos (Nat.mul_le_mul_right one h)) (powerUnits_mono he))

theorem scale?_up {significand e : Nat} (hs : significand < significandLimit) (he : e ≤ 308)
    (h : product significand e < limit) : ∃ y, scale? 5 (ofInt significand) e = some y := by
  have hle : significand ≤ twoTo 1000 := by
    have hlimit : significandLimit = twoTo 64 := rfl
    rw [hlimit] at hs
    exact Nat.le_trans (Nat.le_of_lt hs) (twoTo_le (by decide))
  have hmul : (ofInt significand).mul (powerOfTen e) = .finite false (product significand e) := by
    rw [ofInt_natCast hle, powerOfTen_eq he, mul_finite]
    unfold ofQuotient
    exact if_pos h
  refine ⟨.finite false (product significand e), ?_⟩
  unfold scale?
  rw [Int.natAbs_natCast, if_pos he]
  dsimp only
  rw [if_pos (Int.natCast_nonneg e), hmul]
  rfl

/-- The upper end of the interval about the last double but one, in quarters of a unit. -/
def lastButOne : Nat :=
  4 * limit - 6 * twoTo 2045

/-- **The products that are not past it are doubles**, also where they are rounded up. -/
theorem product_lt_limit {significand e : Nat} (hs : significand ≤ tenTo 17) (he : e ≤ 308)
    (h : significand * tenTo e * (4 * one) ≤ lastButOne) : product significand e < limit := by
  -- up to here the greatest significand will do; above, each power has a greatest significand of its own
  by_cases hsmall : e ≤ 291
  · have hgreatest : product (tenTo 17) 291 < limit := by decide +kernel
    exact Nat.lt_of_le_of_lt (product_mono hs hsmall) hgreatest
  · have hchecked : ∀ k < 17, product (lastButOne / (tenTo (292 + k) * (4 * one))) (292 + k) < limit := by
      decide +kernel
    have hlt := hchecked (e - 292) (by omega)
    rw [show 292 + (e - 292) = e by omega] at hlt
    refine Nat.lt_of_le_of_lt (product_mono ?_ (Nat.le_refl e)) hlt
    refine (Nat.le_div_iff_mul_le (Nat.mul_pos (tenTo_pos e) (Nat.mul_pos (by decide) Binary64.one_pos))).2 ?_
    exact Nat.le_trans (Nat.le_of_eq (Nat.mul_assoc _ _ _).symm) h

theorem high_le_lastButOne {u : Nat} (hu : Representable u) (hg : u ≠ greatest) : (interval u).high ≤ lastButOne := by
  have hle := hu.le hg
  have hstep : twoTo (spacing u) ≤ twoTo 2045 := twoTo_le (spacing_le hu.lt)
  have htwo : twoTo 2046 = twoTo 2045 + twoTo 2045 := twoTo_succ 2045
  unfold interval lastButOne
  dsimp only
  generalize limit = limit at hle ⊢
  generalize twoTo 2045 = step at hle hstep htwo ⊢
  generalize twoTo 2046 = steps at hle htwo
  omega

/-- **The digits of a double scale to a double.**  Those of the greatest are computed. -/
theorem scale?_shortest {u : Nat} (hu : 0 < u) (hr : Representable u) {e : Nat}
    (hp : (shortest u).point = (shortest u).digits.length + e) :
    ∃ y, scale? 5 (ofInt (spelled (shortest u).digits)) e = some y := by
  -- the interval about the greatest double reaches past the limit, so the bound on the others does not apply to it
  by_cases hg : u = greatest
  · have hdigits : (shortest greatest).digits = "17976931348623157".toList := by decide +kernel
    have hpoint : (shortest greatest).point = 309 := by decide +kernel
    have hscaled : (scale? 5 (ofInt (spelled "17976931348623157".toList)) 292).isSome = true := by decide +kernel
    rw [hg, hdigits, hpoint] at hp
    have he : e = 292 := by
      have hl : "17976931348623157".toList.length = 17 := by decide
      omega
    rw [hg, hdigits, he]
    exact Option.isSome_iff_exists.1 hscaled
  · have hs := shortest_spells hu hr.lt
    have hpoint : (shortest u).point ≠ 0 := by
      have := List.length_pos_iff.2 hs.nonempty
      omega
    have hsmall := hs.small hpoint
    have hle : spelled (shortest u).digits * tenTo e * (4 * one) ≤ lastButOne :=
      Nat.le_trans (hs.below e hp) (high_le_lastButOne hr hg)
    have he : e ≤ 308 := by
      refine Nat.not_lt.1 fun hlt => ?_
      have htoo : lastButOne < tenTo 309 * (4 * one) := by decide +kernel
      refine Nat.not_le.2 htoo (Nat.le_trans (Nat.mul_le_mul_right _ ?_) hle)
      calc tenTo 309 ≤ tenTo e := tenTo_le hlt
        _ ≤ spelled (shortest u).digits * tenTo e := Nat.le_mul_of_pos_left _ hs.pos
    have hlimit : tenTo 17 < significandLimit := by decide
    exact scale?_up (Nat.lt_of_le_of_lt hsmall hlimit) he (product_lt_limit hsmall he hle)

end Json
end TokenCache
