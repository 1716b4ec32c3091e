import TokenCache.Proofs.Expiry
/-!
# Deadlines

A deadline is an instant in seconds, rounded to a double.  Counted in units (`Expiry.units`) it keeps the order of the
instants (`units_mono`), and where there are dates it keeps them apart (`units_lt_iff`).  Two things follow.  A token
that counts as expired does so ever after and under any greater margin, whatever number its expiry date is
(`expired_mono`).  An expiry date that is a whole number is judged as whole numbers are compared, be it taken as seconds
or as milliseconds (`expired_exact`).
-/
namespace TokenCache

open Binary64 (signed one twoTo nearest finite ofInt)

/-! ## Instants in seconds -/

namespace Expiry

/-- An instant in seconds as a number of units, rounded as a double is. -/
def units (t : Int) : Int :=
  signed (t < 0) (nearest (t.natAbs * one) 1000)

theorem units_natCast (n : Nat) : units n = nearest (n * one) 1000 := by
  have hn : decide ((n : Int) < 0) = false := by simp
  unfold units signed
  rw [hn, Int.natAbs_natCast, if_neg Bool.false_ne_true]

theorem units_neg (n : Nat) : units (-n) = -(nearest (n * one) 1000 : Int) := by
  by_cases hn : n = 0
  · subst hn
    have := units_natCast 0
    rw [Nat.zero_mul, Binary64.nearest_zero] at this ⊢
    exact this
  · have hneg : decide (-(n : Int) < 0) = true := by
      rw [decide_eq_true_eq]
      omega
    unfold units signed
    rw [hneg, Int.natAbs_neg, Int.natAbs_natCast, if_pos rfl]

/-- **Rounded instants keep their order.** -/
theorem units_mono {s t : Int} (h : s ≤ t) : units s ≤ units t := by
  have hmono : ∀ {m n : Nat}, m ≤ n → nearest (m * one) 1000 ≤ nearest (n * one) 1000 := fun hle =>
    Binary64.nearest_mono (by decide) (Nat.mul_le_mul_right _ hle)
  obtain ⟨m, rfl | rfl⟩ := Int.eq_nat_or_neg s <;> obtain ⟨n, rfl | rfl⟩ := Int.eq_nat_or_neg t
  · rw [units_natCast, units_natCast]
    exact Int.ofNat_le.2 (hmono (Int.ofNat_le.1 h))
  · have hm : m = 0 := by omega
    have hn : n = 0 := by omega
    subst hm hn
    exact Int.le_refl _
  · rw [units_neg, units_natCast]
    omega
  · rw [units_neg, units_neg]
    exact Int.neg_le_neg (Int.ofNat_le.2 (hmono (by omega)))

theorem units_pred_lt {t : Int} (h : Calendar.representable t = true) : units (t - 1) < units t := by
  have hstep : ∀ {n : Nat}, n + 1 < 8796093022208000 → nearest (n * one) 1000 < nearest ((n + 1) * one) 1000 :=
    fun hn => ExpiryPolicy.nearest_thousandth_lt (Nat.lt_succ_self _) hn
  have hrange := Calendar.representable_iff.1 h
  by_cases hpos : 0 < t
  · obtain ⟨n, rfl⟩ : ∃ n : Nat, t = ((n + 1 : Nat) : Int) := ⟨t.toNat - 1, by omega⟩
    rw [show ((n + 1 : Nat) : Int) - 1 = n by omega, units_natCast, units_natCast]
    exact Int.ofNat_lt.2 (hstep (by omega))
  · obtain ⟨n, rfl⟩ : ∃ n : Nat, t = -(n : Int) := ⟨t.natAbs, by omega⟩
    rw [show -(n : Int) - 1 = -((n + 1 : Nat) : Int) by omega, units_neg, units_neg]
    exact Int.neg_lt_neg (Int.ofNat_lt.2 (hstep (by omega)))

theorem units_lt_iff {s t : Int} (h : Calendar.representable t = true) : units s < units t ↔ s < t := by
  constructor
  · intro hlt
    exact Int.not_le.1 fun hle => Int.not_le.2 hlt (units_mono hle)
  · intro hlt
    -- `s` may have no date, but the instant just before `t` is near enough
    exact Int.lt_of_le_of_lt (units_mono (by omega)) (units_pred_lt h)

theorem units_seconds (e : Int) : units (1000 * e) = signed (e < 0) (nearest (e.natAbs * one) 1) := by
  have hsign : decide (1000 * e < 0) = decide (e < 0) := decide_eq_decide.2 (by omega)
  have habs : (1000 * e).natAbs * one = e.natAbs * one * 1000 := by
    rw [Int.natAbs_mul, Nat.mul_comm (1000 : Int).natAbs, Nat.mul_right_comm]
    rfl
  -- rounding sees the quotient only, so the thousand may be taken out of both sides
  have hscale := Binary64.nearest_scale (e.natAbs * one) 1 (c := 1000) (by decide)
  unfold units
  rw [hsign, habs]
  exact congrArg _ hscale

theorem seconds_ofInt_low {e : Int} (h : e ≤ 10000000000) (hb : e.natAbs ≤ twoTo 1000) :
    seconds (ofInt e) = ofInt e := by
  have hten : (10000000000 : Int).natAbs ≤ twoTo 1000 :=
    Nat.le_trans (by decide) (Binary64.twoTo_le (m := 34) (by decide))
  unfold seconds threshold
  refine if_neg fun hlt => ?_
  rw [Binary64.ofInt_eq hten, Binary64.ofInt_eq hb, Binary64.lt_iff_signed, ← units_seconds, ← units_seconds] at hlt
  exact Int.not_le.2 hlt (units_mono (by omega))

/-- The instant that a whole expiry date stands for. -/
def instantOf (e : Int) : Int :=
  if 10000000000 < e then e else 1000 * e

end Expiry

/-! ## Expired tokens -/

namespace ExpiryPolicy

open Expiry (units)

theorem lt_deadline {p : ExpiryPolicy} {now : Int} (h : Calendar.representable (now + p.margin) = true)
    {negative : Bool} {u : Nat} :
    (finite negative u).lt (p.deadline now) = true ↔ signed negative u < units (now + p.margin) := by
  rw [deadline_eq p h]
  exact Binary64.lt_iff_signed

/-- **A token that counts as expired does so at any later instant and under any greater margin**, whatever number its
expiry date is. -/
theorem expired_mono {p q : ExpiryPolicy} {now later : Int} (hm : p.margin ≤ q.margin) (hn : now ≤ later)
    (hp : Calendar.representable (now + p.margin) = true) (hq : Calendar.representable (later + q.margin) = true)
    (expiry : Option Binary64) (h : p.expired expiry now = true) : q.expired expiry later = true := by
  cases expiry with
  | none => exact h
  | some x =>
    have hlt : (Expiry.seconds x).lt (p.deadline now) = true := h
    show (Expiry.seconds x).lt (q.deadline later) = true
    -- in seconds the expiry date is one number on both sides, of which only its place in the order matters
    cases hx : Expiry.seconds x with
    | nan =>
      rw [hx] at hlt
      cases hlt
    | infinite negative =>
      rw [hx, deadline_eq p hp] at hlt
      rw [deadline_eq q hq]
      exact hlt
    | finite negative u =>
      rw [hx, lt_deadline hp] at hlt
      exact (lt_deadline hq).2 (Int.lt_of_lt_of_le hlt (Expiry.units_mono (by omega)))

/-- A token that ends between two milliseconds, just after that and a minute later with a minute's margin. -/
theorem fraction_stays_expired :
    let x := (ofInt 1700000000001).div (ofInt 1024)
    let p : ExpiryPolicy := ⟨0⟩
    p.expired (some x) 1660156250001 = true ∧ ExpiryPolicy.standard.expired (some x) 1660156310000 = true := by
  intro x p
  have h : p.expired (some x) 1660156250001 = true := by decide +kernel
  exact ⟨h, expired_mono (by decide) (by decide) (by decide) (by decide) (some x) h⟩

theorem expired_iff_instantOf (p : ExpiryPolicy) {e : Int} {now : Int} (hb : e.natAbs ≤ twoTo 1000)
    (h : Calendar.representable (now + p.margin) = true) :
    p.expired (some (ofInt e)) now = true ↔ Expiry.instantOf e < now + p.margin := by
  unfold Expiry.instantOf
  by_cases hlow : 10000000000 < e
  · rw [if_pos hlow]
    exact p.expired_iff hlow (by omega) h
  · rw [if_neg hlow]
    show (Expiry.seconds (ofInt e)).lt (p.deadline now) = true ↔ _
    rw [Expiry.seconds_ofInt_low (Int.not_lt.1 hlow) hb, Binary64.ofInt_eq hb, lt_deadline h, ← Expiry.units_seconds]
    exact Expiry.units_lt_iff h

/-- **Whole expiry dates are judged without rounding**: whatever 64 bits hold, signed or not, is compared with the
deadline as it is, or a thousand times if it is not above the threshold.  An instant that can be written in either unit
is judged alike in both. -/
theorem expired_exact (p : ExpiryPolicy) {now : Int} (h : Calendar.representable (now + p.margin) = true) :
    (∀ e : Int, -9223372036854775808 ≤ e → e < 18446744073709551616 →
      (10000000000 < e →
        (p.expired (Record.quantity? (.number (.integer e))) now = true ↔ e < now + p.margin)) ∧
      (e ≤ 10000000000 →
        (p.expired (Record.quantity? (.number (.integer e))) now = true ↔ 1000 * e < now + p.margin))) ∧
    ∀ t : Int, 10000000 < t → t ≤ 10000000000 →
      p.expired (Record.quantity? (.number (.integer t))) now =
        p.expired (Record.quantity? (.number (.integer (1000 * t)))) now := by
  have hjudged : ∀ e : Int, e.natAbs ≤ 18446744073709551616 →
      (p.expired (Record.quantity? (.number (.integer e))) now = true ↔ Expiry.instantOf e < now + p.margin) :=
    fun e he => p.expired_iff_instantOf (Nat.le_trans he (Binary64.twoTo_le (m := 64) (by decide))) h
  refine ⟨fun e hleast hmost => ⟨fun hmillis => ?_, fun hseconds => ?_⟩, fun t hlow hhigh => ?_⟩
  · rw [hjudged e (by omega), Expiry.instantOf, if_pos hmillis]
  · rw [hjudged e (by omega), Expiry.instantOf, if_neg (Int.not_lt.2 hseconds)]
  · have hsame : Expiry.instantOf t = Expiry.instantOf (1000 * t) := by
      unfold Expiry.instantOf
      rw [if_neg (Int.not_lt.2 hhigh), if_pos (by omega)]
    rw [Bool.eq_iff_iff, hjudged t (by omega), hjudged (1000 * t) (by omega), hsame]

/-- The last two milliseconds that have a date are told apart. -/
theorem last_milliseconds_apart :
    let now : Int := 8210266876739999
    Calendar.representable (now + standard.margin) = true ∧
      standard.expired (Record.quantity? (.number (.integer 8210266876799998))) now = true ∧
      standard.expired (Record.quantity? (.number (.integer 8210266876799999))) now = false := by
  intro now
  have h : Calendar.representable (now + standard.margin) = true := by decide
  obtain ⟨hexact, -⟩ := expired_exact standard h
  refine ⟨h, ?_, ?_⟩
  · exact ((hexact 8210266876799998 (by decide) (by decide)).1 (by decide)).2 (by decide)
  · rw [← Bool.not_eq_true, (hexact 8210266876799999 (by decide) (by decide)).1 (by decide)]
    decide

end ExpiryPolicy
end TokenCache
