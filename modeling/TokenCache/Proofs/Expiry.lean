import Mathlib.Data.List.TakeWhile
import TokenCache.Proofs.Binary64.Decimals
import TokenCache.Expiry
import TokenCache.Record
/-!
# Expiry dates that are whole numbers

Expiry is judged in seconds and in double precision.  For an expiry date in milliseconds that makes no difference: where
the deadline has a date, a token counts as expired exactly if its expiry date comes before the deadline
(`expired_iff`), also where the expiry date itself is too great to be a double.  A lifetime in seconds is added to the
instant without loss (`expiryAfter_whole`), as a number or as a decimal (`quantity?_lifetime`).  Of any lifetime,
`EndsAt` says at which instant it ends, and `Implies` whether a reply has its expiry from it.
-/
namespace TokenCache

open Binary64

namespace Binary64

/-! ## Whole numbers -/

theorem thousand_eq : thousand = finite false (1000 * one) :=
  ofInt_whole (n := 1000) (by decide)

theorem lt_iff_signed {n m : Bool} {u v : Nat} : (finite n u).lt (finite m v) = true ↔ signed n u < signed m v := by
  unfold lt
  dsimp only
  rw [decide_eq_true_eq]

theorem lt_finite {u v : Nat} : (finite false u).lt (finite false v) = true ↔ u < v :=
  lt_iff_signed.trans Int.ofNat_lt

theorem lt_finite_negative {u v : Nat} : (finite false u).lt (finite true v) = false := by
  rw [← Bool.not_eq_true, lt_iff_signed]
  exact Int.not_lt.2 (Int.le_trans (Int.neg_nonpos_of_nonneg (Int.natCast_nonneg v)) (Int.natCast_nonneg u))

theorem div_thousand (negative : Bool) (u : Nat) (h : u ≤ twoTo 2097) :
    (finite negative u).div thousand = finite negative (nearest u 1000) := by
  have hv : 1000 * one ≠ 0 := Nat.mul_ne_zero (by decide) (Nat.ne_of_gt one_pos)
  have hb : u * one ≤ twoTo 2097 * (1000 * one) := by
    rw [← Nat.mul_assoc]
    exact Nat.mul_le_mul_right _ (Nat.le_trans h (Nat.le_mul_of_pos_right _ (by decide)))
  rw [thousand_eq]
  unfold div
  dsimp only
  rw [if_neg hv, Bool.bne_false, ofQuotient_finite _ (Nat.pos_of_ne_zero hv) hb, nearest_scale _ _ one_pos]

end Binary64

/-! ## Expiry -/

namespace Calendar

theorem representable_iff {t : Int} : representable t = true ↔ -8334601228800000 ≤ t ∧ t ≤ 8210266876799999 := by
  unfold representable
  rw [Bool.and_eq_true, decide_eq_true_eq, decide_eq_true_eq]
  exact Iff.rfl

theorem natAbs_lt_of_representable {t : Int} (h : representable t = true) : t.natAbs < 8796093022208000 := by
  have := representable_iff.1 h
  omega

end Calendar

namespace ExpiryPolicy

theorem deadline_eq (p : ExpiryPolicy) {now : Int} (h : Calendar.representable (now + p.margin) = true) :
    p.deadline now = finite (now + p.margin < 0) (nearest ((now + p.margin).natAbs * one) 1000) := by
  have hd := Calendar.natAbs_lt_of_representable h
  unfold deadline
  generalize now + p.margin = t at hd
  have ht : t.natAbs < twoTo 53 := Nat.lt_trans hd (by decide)
  rw [ofInt_exact ht, div_thousand _ _ (units_le (le_twoTo_of_lt ht))]

theorem seconds_ofInt {e : Nat} (hlow : 10000000000 < e) (hhigh : e ≤ twoTo 1000) :
    Expiry.seconds (ofInt e) = finite false (nearest (nearest (e * one) 1) 1000) := by
  have hb : nearest (e * one) 1 ≤ twoTo 2097 := by
    rw [← nearest_twoTo 2097 Nat.one_pos, Nat.mul_one]
    exact nearest_mono Nat.one_pos (units_le hhigh)
  -- the number after the threshold is a double
  have hnext : (10000000000 + 1) * one ≤ nearest (e * one) 1 := by
    rw [← nearest_whole_one (m := 10000000000 + 1) (by decide)]
    exact nearest_mono Nat.one_pos (Nat.mul_le_mul_right _ hlow)
  have hlt : Expiry.threshold.lt (finite false (nearest (e * one) 1)) = true := by
    have ht : Expiry.threshold = finite false (10000000000 * one) := ofInt_whole (n := 10000000000) (by decide)
    rw [ht, lt_finite]
    exact Nat.lt_of_lt_of_le (Nat.mul_lt_mul_of_pos_right (by decide) Binary64.one_pos) hnext
  unfold Expiry.seconds
  rw [ofInt_natCast hhigh, if_pos hlt, div_thousand _ _ hb]

/-- **Thousandths of whole numbers stay apart**, as far as there are dates. -/
theorem nearest_thousandth_lt {m n : Nat} (h : m < n) (hn : n < 8796093022208000) :
    nearest (m * one) 1000 < nearest (n * one) 1000 := by
  -- a thousandth is more than the spacing there
  have hthousand : 1000 * twoTo 1064 < one := by
    rw [one_eq, show twoTo 1074 = twoTo 10 * twoTo 1064 from twoTo_add 10 1064]
    exact Nat.mul_lt_mul_of_pos_right (by decide) (twoTo_pos 1064)
  refine nearest_lt (k := 1064) (by decide) ?_ ?_
  · rw [Nat.div_lt_iff_lt_mul (by decide), show twoTo (1064 + 53) = twoTo 43 * twoTo 1074 from twoTo_add 43 1074,
      Nat.mul_right_comm, ← one_eq]
    exact Nat.mul_lt_mul_of_pos_right (Nat.lt_of_lt_of_le hn (by decide)) Binary64.one_pos
  · calc m * one + 1000 * twoTo 1064 < m * one + one := Nat.add_lt_add_left hthousand _
      _ = (m + 1) * one := (Nat.succ_mul m one).symm
      _ ≤ n * one := Nat.mul_le_mul_right _ h

/-- **Instants keep their order** when they are rounded and divided into seconds. -/
theorem nearest_seconds_lt {e d : Nat} (hd : d < 8796093022208000) :
    nearest (nearest (e * one) 1) 1000 < nearest (d * one) 1000 ↔ e < d := by
  have hwhole : ∀ {m}, m ≤ d → nearest (m * one) 1 = m * one := fun hm =>
    nearest_whole_one (Nat.lt_of_le_of_lt hm (Nat.lt_trans hd (by decide)))
  constructor
  · intro h
    refine Nat.not_le.1 fun hle => Nat.not_le.2 h (nearest_mono (by decide) ?_)
    rw [← hwhole (Nat.le_refl d)]
    exact nearest_mono Nat.one_pos (Nat.mul_le_mul_right _ hle)
  · intro h
    rw [hwhole (Nat.le_of_lt h)]
    exact nearest_thousandth_lt h hd

/-- **A token counts as expired exactly if its expiry date comes before the deadline.** -/
theorem expired_iff (p : ExpiryPolicy) {e : Int} {now : Int} (hlow : 10000000000 < e) (hhigh : e ≤ twoTo 1000)
    (h : Calendar.representable (now + p.margin) = true) :
    p.expired (some (ofInt e)) now = true ↔ e < now + p.margin := by
  obtain ⟨n, rfl⟩ := Int.eq_ofNat_of_zero_le (Int.le_trans (by decide) (Int.le_of_lt hlow))
  have hd := Calendar.natAbs_lt_of_representable h
  unfold expired
  dsimp only
  rw [deadline_eq p h, seconds_ofInt (Int.ofNat_lt.1 hlow) (Int.ofNat_le.1 hhigh)]
  generalize now + p.margin = t at hd
  by_cases ht : t < 0
  · rw [decide_eq_true ht, lt_finite_negative]
    refine ⟨nofun, fun hl => ?_⟩
    omega
  · rw [decide_eq_false ht, lt_finite, nearest_seconds_lt hd]
    omega

end ExpiryPolicy

/-! ## Lifetimes -/

namespace Binary64

theorem wholeNearest_of_near {u m : Nat} (hlow : 2 * (m * one) ≤ 2 * u + one) (hhigh : 2 * u < 2 * (m * one) + one) :
    wholeNearest u = m := by
  have hm : m * (2 * one) = 2 * (m * one) := Nat.mul_left_comm _ _ _
  have hm' : (m + 1) * (2 * one) = 2 * (m * one) + 2 * one := by rw [Nat.add_mul, Nat.one_mul, hm]
  unfold wholeNearest
  exact Nat.div_eq_of_lt_le (by omega) (by omega)

theorem wholeNearest_whole (m : Nat) : wholeNearest (m * one) = m := by
  have hone := one_pos
  exact wholeNearest_of_near (by omega) (by omega)

theorem mul_thousand_units (negative : Bool) {u : Nat} (h : u * 1000 ≤ twoTo 2097) :
    (finite negative u).mul thousand = finite negative (nearest (u * 1000) 1) := by
  have he : u * (1000 * one) = u * 1000 * one := (Nat.mul_assoc _ _ _).symm
  have hscale := nearest_scale (u * 1000) 1 one_pos
  rw [Nat.one_mul] at hscale
  rw [thousand_eq]
  unfold mul
  dsimp only
  rw [he, Bool.bne_false, ofQuotient_finite _ one_pos (Nat.mul_le_mul_right _ h), hscale]

/-- **A thousand times a whole number** is exact. -/
theorem mul_thousand (negative : Bool) {m : Nat} (h : 1000 * m < twoTo 53) :
    (finite negative (m * one)).mul thousand = finite negative (1000 * m * one) := by
  have hm : m * one * 1000 = 1000 * m * one := by rw [Nat.mul_right_comm, Nat.mul_comm m]
  have hsize : m * one * 1000 ≤ twoTo 2097 := by
    rw [hm]
    exact units_le (le_twoTo_of_lt h)
  rw [mul_thousand_units negative hsize, hm, nearest_whole_one h]

theorem fits64_iff {n : Int} : fits64 n = true ↔ -9223372036854775808 ≤ n ∧ n < 9223372036854775808 := by
  unfold fits64 int64Limit
  rw [Bool.and_eq_true, decide_eq_true_eq, decide_eq_true_eq]

/-! ## Decimals -/

/-- **A whole number in decimal digits**, with a sign or none. -/
inductive Spelled : List Char → Bool → Nat → Prop
  | plain {ds : List Char} (h : ds ≠ []) (hd : ds.all isDigit = true) : Spelled ds false (appendDigits 0 ds)
  | plus {ds : List Char} (h : ds ≠ []) (hd : ds.all isDigit = true) : Spelled ('+' :: ds) false (appendDigits 0 ds)
  | minus {ds : List Char} (h : ds ≠ []) (hd : ds.all isDigit = true) : Spelled ('-' :: ds) true (appendDigits 0 ds)

theorem ofQuotient_infinite (negative : Bool) {n : Nat} (h : limit ≤ n) :
    ofQuotient negative n 1 = infinite negative := by
  have hle : limit ≤ nearest n 1 := by
    have := nearest_mono Nat.one_pos h
    rw [← Nat.mul_one limit] at this
    rwa [limit, nearest_twoTo 2098 Nat.one_pos] at this
  unfold ofQuotient
  exact if_neg (Nat.not_lt.2 hle)

theorem tenTo_le_of_decimalLength {m k : Nat} (hk : 0 < k) (h : k < decimalLength m) : tenTo k ≤ m := by
  refine Nat.not_lt.1 fun hlt => ?_
  have hle := length_toDigits_le hk hlt
  unfold decimalLength at h
  split at h <;> omega

theorem limit_le_of_decimalLength {m : Nat} (h : 400 < decimalLength m) : limit ≤ m * one := by
  have hten : twoTo 1024 ≤ tenTo 400 := by decide +kernel
  have hlimit : limit = twoTo 1024 * twoTo 1074 := twoTo_add 1024 1074
  rw [hlimit, one_eq]
  exact Nat.mul_le_mul_right _ (Nat.le_trans hten (tenTo_le_of_decimalLength (by decide) h))

/-- **A decimal without a scale is a whole number**, rounded as one is, also where it is too long to be computed. -/
theorem ofDecimal_whole (negative : Bool) (m : Nat) : ofDecimal negative m 0 = ofQuotient negative (m * one) 1 := by
  unfold ofDecimal
  dsimp only
  split
  · rename_i hm
    rw [hm, Nat.zero_mul, ofQuotient_finite negative Nat.one_pos (Nat.zero_le _), nearest_zero]
  · by_cases h : 400 < decimalLength m
    · rw [if_pos (by omega), ofQuotient_infinite negative (limit_le_of_decimalLength h)]
    · rw [if_neg (by omega), if_neg (by omega), if_pos (Int.le_refl 0), Int.toNat_zero, show tenTo 0 = 1 from rfl,
        Nat.mul_one]

theorem unsigned?_digits (negative : Bool) {ds : List Char} (h : ds ≠ []) (hd : ds.all isDigit = true) :
    unsigned? negative ds = some (ofDecimal negative (appendDigits 0 ds) 0) := by
  have hall : ∀ c ∈ ds, isDigit c = true := List.all_eq_true.1 hd
  have hw : ds.takeWhile isDigit = ds := List.takeWhile_eq_self_iff.2 hall
  have hr : ds.dropWhile isDigit = [] := List.dropWhile_eq_nil_iff.2 hall
  have he : ds.isEmpty = false := by cases ds <;> simp_all
  unfold unsigned?
  rw [hw, hr]
  dsimp only
  rw [he, List.append_nil]
  rfl

theorem isDigit_head {ds : List Char} (h : ds ≠ []) (hd : ds.all isDigit = true) :
    ∃ c cs, ds = c :: cs ∧ isDigit c = true := by
  cases ds with
  | nil => exact absurd rfl h
  | cons c cs =>
    rw [List.all_cons, Bool.and_eq_true] at hd
    exact ⟨c, cs, rfl, hd.1⟩

theorem toNat_of_isDigit {c : Char} (h : isDigit c = true) : 48 ≤ c.toNat ∧ c.toNat ≤ 57 := by
  unfold isDigit at h
  rw [Bool.and_eq_true, decide_eq_true_eq, decide_eq_true_eq] at h
  exact h

theorem name_ne {ds : List Char} (h : ds ≠ []) (hd : ds.all isDigit = true) (name : String) {c : Char}
    (hn : name.toList.head? = some c) (hc : 57 < c.toNat) : (String.ofList (ds.map Char.toLower) == name) = false := by
  obtain ⟨d, cs, rfl, hdig⟩ := isDigit_head h hd
  obtain ⟨hlow, hhigh⟩ := toNat_of_isDigit hdig
  refine beq_eq_false_iff_ne.2 fun he => ?_
  have hh := congrArg (fun s => s.toList.head?) he
  simp only [String.toList_ofList, List.map_cons, List.head?_cons, hn, Option.some.injEq] at hh
  have hlower : d.toLower = d := by
    unfold Char.toLower
    rw [dif_neg]
    intro hu
    have : (65 : Nat) ≤ d.toNat := hu.1
    omega
  rw [hlower] at hh
  subst hh
  omega

theorem ofText?_spelled {s : String} {negative : Bool} {m : Nat} (h : Spelled s.toList negative m) :
    ofText? s = some (ofQuotient negative (m * one) 1) := by
  have hread : ∀ {ds : List Char} (negative : Bool), ds ≠ [] → ds.all isDigit = true →
      takeSign s.toList = (negative, ds) → ofText? s = some (ofQuotient negative (appendDigits 0 ds * one) 1) := by
    intro ds negative hne hd hs
    unfold ofText?
    rw [hs]
    dsimp only
    rw [name_ne hne hd "inf" rfl (by decide), name_ne hne hd "infinity" rfl (by decide),
      name_ne hne hd "nan" rfl (by decide)]
    simp only [Bool.or_self, Bool.false_eq_true, if_false]
    rw [unsigned?_digits negative hne hd, ofDecimal_whole]
  generalize hs : s.toList = cs at h
  cases h with
  | plain hne hd =>
    refine hread false hne hd ?_
    obtain ⟨c, ds, rfl, hc⟩ := isDigit_head hne hd
    obtain ⟨hlow, hhigh⟩ := toNat_of_isDigit hc
    rw [hs]
    unfold takeSign
    split
    · rename_i he
      cases he
      exact absurd hlow (by decide)
    · rename_i he
      cases he
      exact absurd hlow (by decide)
    · rfl
  | plus hne hd => exact hread false hne hd (by rw [hs]; rfl)
  | minus hne hd => exact hread true hne hd (by rw [hs]; rfl)

end Binary64

namespace Record

/-- **A lifetime of whole seconds**, as a number or as a text of its digits, blanks around it not counted. -/
inductive Lifetime : Json → Int → Prop
  | number (n : Int) : Lifetime (.number (.integer n)) n
  | text {s : String} {negative : Bool} {m : Nat} (h : Spelled (Text.trim s).toList negative m) :
    Lifetime (.string s) (signed negative m)

theorem signed_natAbs (n : Int) : signed (n < 0) n.natAbs = n := by
  unfold signed
  by_cases h : n < 0
  · rw [decide_eq_true h, if_pos rfl]
    omega
  · rw [decide_eq_false h, if_neg Bool.false_ne_true]
    omega

theorem signed_mul_thousand {negative : Bool} {n : Int} (h : signed negative n.natAbs = n) :
    signed negative (1000 * n.natAbs : Nat) = 1000 * n := by
  have hn : signed negative (1000 * n.natAbs : Nat) = 1000 * signed negative n.natAbs := by
    unfold signed
    split <;> omega
  rw [hn, h]

theorem natAbs_signed (negative : Bool) (m : Nat) : (signed negative m).natAbs = m := by
  unfold signed
  cases negative <;> simp

theorem quantity?_lifetime {v : Json} {n : Int} (h : Lifetime v n) (hn : n.natAbs < twoTo 53) :
    ∃ negative, quantity? v = some (finite negative (n.natAbs * one)) ∧ signed negative n.natAbs = n := by
  cases h with
  | number => exact ⟨_, congrArg some (ofInt_exact hn), signed_natAbs n⟩
  | @text s negative m hs =>
    rw [natAbs_signed] at hn ⊢
    refine ⟨negative, ?_, rfl⟩
    unfold quantity?
    dsimp only
    rw [ofText?_spelled hs, ofQuotient_units _ (le_twoTo_of_lt hn), nearest_whole_one hn]

theorem fits64_signed {negative : Bool} {m : Nat} :
    (fits64 (signed negative m) && signed negative m != -int64Limit) = true ↔ (m : Int) < int64Limit := by
  rw [Bool.and_eq_true, fits64_iff, bne_iff_ne]
  unfold signed int64Limit
  cases negative <;> (simp only [Bool.false_eq_true, if_false, if_true]; omega)

/-- **The instant at which a lifetime ends**: its milliseconds, a product in double precision, are rounded and then
added without loss.  They are fewer than 2^63, and 64 bits hold the instant. -/
inductive EndsAt (now : Int) (lifetime : Binary64) : Int → Prop
  | intro {negative : Bool} {u : Nat} (product : lifetime.mul thousand = finite negative u)
    (size : (wholeNearest u : Int) < int64Limit) (fits : fits64 (now + signed negative (wholeNearest u)) = true) :
    EndsAt now lifetime (now + signed negative (wholeNearest u))

theorem expiryAfter_eq_some {now instant : Int} {lifetime : Binary64} :
    expiryAfter now lifetime = some instant ↔ EndsAt now lifetime instant := by
  have hround : ∀ {negative u}, lifetime.mul thousand = finite negative u →
      (lifetime.mul thousand).round = finite negative (wholeNearest u * one) := by
    intro negative u h
    rw [h]
    rfl
  constructor
  · intro h
    unfold expiryAfter at h
    cases hp : lifetime.mul thousand with
    | nan => rw [hp] at h; cases h
    | infinite negative => rw [hp] at h; cases h
    | finite negative u =>
      rw [hround hp] at h
      dsimp only at h
      rw [Nat.mul_div_cancel _ Binary64.one_pos] at h
      split at h
      · rename_i hc
        cases h
        obtain ⟨hsize, hfits⟩ := Bool.and_eq_true_iff.1 hc
        exact .intro hp (fits64_signed.1 hsize) hfits
      · cases h
  · rintro ⟨hp, hsize, hfits⟩
    unfold expiryAfter
    rw [hround hp]
    dsimp only
    rw [Nat.mul_div_cancel _ Binary64.one_pos, fits64_signed.2 hsize, hfits]
    exact if_pos rfl

/-- **A lifetime is added to the instant without loss.** -/
theorem expiryAfter_whole {now : Int} (negative : Bool) {m : Nat} (hm : 1000 * m < twoTo 53)
    (hfit : fits64 (now + signed negative (1000 * m : Nat)) = true) :
    expiryAfter now (finite negative (m * one)) = some (now + signed negative (1000 * m : Nat)) := by
  have hb : 1000 * m < 9007199254740992 := Nat.lt_of_lt_of_le hm (by decide)
  have hsize : ((1000 * m : Nat) : Int) < int64Limit := by
    unfold int64Limit
    omega
  have hwhole := wholeNearest_whole (1000 * m)
  rw [← hwhole] at hsize hfit
  have he : EndsAt now (finite negative (m * one)) _ := .intro (mul_thousand negative hm) hsize hfit
  rw [hwhole] at he
  exact expiryAfter_eq_some.2 he

/-- **The expiry that a reply implies**: it has no expiry date, and a number or decimal of seconds as its lifetime. -/
structure Implies (reply : Members) (now instant : Int) : Prop where
  undated : reply.get? expiryKey = none
  lifetime : ∃ v x, reply.get? lifetimeKey = some v ∧ quantity? v = some x ∧ EndsAt now x instant

theorem impliedExpiry_eq_some {reply : Members} {now instant : Int} :
    impliedExpiry reply now = some instant ↔ Implies reply now instant := by
  unfold impliedExpiry Members.hasKey
  cases hd : reply.get? expiryKey with
  | some sent => exact ⟨nofun, fun h => nomatch hd.symm.trans h.undated⟩
  | none =>
    rw [Option.isSome_none, if_neg Bool.false_ne_true, Option.bind_eq_some_iff]
    constructor
    · rintro ⟨x, hx, he⟩
      obtain ⟨v, hv, hx⟩ := Option.bind_eq_some_iff.1 hx
      exact ⟨hd, v, x, hv, hx, expiryAfter_eq_some.1 he⟩
    · rintro ⟨-, v, x, hv, hx, he⟩
      exact ⟨x, Option.bind_eq_some_iff.2 ⟨v, hv, hx⟩, expiryAfter_eq_some.2 he⟩

theorem impliedExpiry_eq_none {reply : Members} {now : Int} :
    impliedExpiry reply now = none ↔ ∀ instant, ¬Implies reply now instant := by
  simp only [Option.eq_none_iff_forall_ne_some, ne_eq, impliedExpiry_eq_some]

end Record
end TokenCache
