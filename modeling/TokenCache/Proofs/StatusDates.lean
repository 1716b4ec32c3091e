import TokenCache.Proofs.Deadlines
import TokenCache.Proofs.Forecast
import TokenCache.Proofs.Verbatim
/-!
# What a status says of an expiry date

A status finds its date by a quotient and a product that are rounded, its flag by comparing seconds, and the time that
is left by whole numbers.  For an expiry date that is a whole number, up to 2⁵⁰ if it is in milliseconds, the three
speak of one instant (`status_one_instant`).

The product of a rounded thousandth by a thousand is off by less than a half, so the whole number nearest to it is the
one that was divided (`wholeNearest_thousandths`).
-/
namespace TokenCache

open Binary64 (signed one twoTo nearest wholeNearest thousand finite ofInt)

/-! ## A thousandth taken a thousand times -/

namespace Binary64

/-- A thousandth of a number up to 2⁵⁰ is off by 2⁻¹³ at most, a thousand of them by less than 2⁻³, and the rounding of
the product adds no more than that. -/
theorem wholeNearest_thousandths {m : Nat} (hm : m ≤ 1125899906842624) :
    wholeNearest (nearest (nearest (m * one) 1000 * 1000) 1) = m := by
  -- all is counted in the spacing of the thousandth
  have hone : one = 4096 * twoTo 1062 := by
    rw [one_eq, show twoTo 1074 = twoTo 12 * twoTo 1062 from twoTo_add 12 1062, show twoTo 12 = 4096 from rfl]
  have hwide : twoTo 1072 = 1024 * twoTo 1062 := by
    rw [show twoTo 1072 = twoTo 10 * twoTo 1062 from twoTo_add 10 1062, show twoTo 10 = 1024 from rfl]
  have hsize : m * one ≤ 1125899906842624 * one := Nat.mul_le_mul_right _ hm
  have hspacing : ∀ {q k : Nat}, q < 9007199254740992 * twoTo k → twoTo (spacing q) ≤ twoTo k := fun hq =>
    twoTo_le (spacing_le (by rwa [Nat.add_comm, twoTo_add]))
  have hpos := twoTo_pos 1062
  have hquotient : twoTo (spacing (m * one / 1000)) ≤ twoTo 1062 := by
    refine hspacing ((Nat.div_lt_iff_lt_mul (by decide)).2 ?_)
    omega
  obtain ⟨hhigh, hlow⟩ := nearest_near (m * one) (show 0 < 1000 by decide)
  have hproduct : twoTo (spacing (nearest (m * one) 1000 * 1000 / 1)) ≤ twoTo 1072 := by
    refine hspacing ?_
    rw [Nat.div_one]
    omega
  obtain ⟨hhigh', hlow'⟩ := nearest_near (nearest (m * one) 1000 * 1000) Nat.one_pos
  refine wholeNearest_of_near ?_ ?_ <;> omega

theorem clamp64_of_representable {t : Int} (h : Calendar.representable t = true) : clamp64 t = t := by
  have := Calendar.representable_iff.1 h
  unfold clamp64 int64Limit
  omega

end Binary64

/-! ## The date -/

namespace Expiry

theorem date?_of_product {x : Binary64} {negative : Bool} {u : Nat} {t : Int}
    (hp : (seconds x).mul thousand = finite negative u) (hu : signed negative (wholeNearest u) = t)
    (hx : x.isFinite = true) (ht : Calendar.representable t = true) : date? x = some t := by
  have hround : (((seconds x).mul thousand).round).toInt64 = t := by
    rw [hp]
    show Binary64.clamp64 (signed negative (wholeNearest u * one / one)) = t
    rw [Nat.mul_div_cancel _ Binary64.one_pos, hu, Binary64.clamp64_of_representable ht]
  unfold date?
  rw [if_pos hx, hround]
  exact if_pos ht

theorem date?_of_millis {n : Nat} (hlow : 10000000000 < n) (hn : n ≤ 1125899906842624)
    (h : Calendar.representable n = true) : date? (ofInt n) = some (n : Int) := by
  have h53 : n < twoTo 53 := Nat.lt_of_le_of_lt hn (by decide)
  have hb : n * 1000 ≤ twoTo 1000 := by
    calc n * 1000 ≤ 1125899906842624 * 1000 := Nat.mul_le_mul_right 1000 hn
      _ ≤ twoTo 60 := by decide
      _ ≤ twoTo 1000 := Binary64.twoTo_le (by decide)
  have hx : ofInt n = finite false (n * one) := Binary64.ofInt_whole h53
  have hseconds : seconds (ofInt n) = finite false (nearest (n * one) 1000) := by
    rw [ExpiryPolicy.seconds_ofInt hlow (by omega), Binary64.nearest_whole_one h53]
  have hsize : nearest (n * one) 1000 * 1000 ≤ twoTo 2097 := by
    calc nearest (n * one) 1000 * 1000
        ≤ nearest (n * one * 1000) 1000 * 1000 :=
          Nat.mul_le_mul_right _ (Binary64.nearest_mono (by decide) (Nat.le_mul_of_pos_right _ (by decide)))
      _ = n * 1000 * one := by rw [Binary64.nearest_whole (by decide) h53, Nat.mul_right_comm]
      _ ≤ twoTo 2097 := Binary64.units_le hb
  have hproduct : (seconds (ofInt n)).mul thousand = finite false (nearest (nearest (n * one) 1000 * 1000) 1) := by
    rw [hseconds, Binary64.mul_thousand_units false hsize]
  refine date?_of_product hproduct ?_ (by rw [hx]; rfl) h
  rw [Binary64.wholeNearest_thousandths hn]
  rfl

theorem date?_of_seconds {e : Int} (he : e ≤ 10000000000) (h : Calendar.representable (1000 * e) = true) :
    date? (ofInt e) = some (1000 * e) := by
  have hrange := Calendar.natAbs_lt_of_representable h
  have h53 : 1000 * e.natAbs < twoTo 53 := Nat.lt_of_le_of_lt (m := 8796093022208000) (by omega) (by decide)
  have hx : ofInt e = finite (e < 0) (e.natAbs * one) := Binary64.ofInt_exact (by omega)
  have hproduct : (seconds (ofInt e)).mul thousand = finite (e < 0) (1000 * e.natAbs * one) := by
    rw [seconds_ofInt_low he (Binary64.le_twoTo_of_lt (by omega)), hx, Binary64.mul_thousand _ h53]
  refine date?_of_product hproduct ?_ (by rw [hx]; rfl) h
  rw [Binary64.wholeNearest_whole]
  by_cases hneg : e < 0
  · rw [decide_eq_true hneg, signed, if_pos rfl]
    omega
  · rw [decide_eq_false hneg, signed, if_neg Bool.false_ne_true]
    omega

/-- **The date of a whole expiry date is its instant**, with nothing lost on the way. -/
theorem date?_ofInt {e : Int} (he : e ≤ 1125899906842624) (h : Calendar.representable (instantOf e) = true) :
    date? (ofInt e) = some (instantOf e) := by
  unfold instantOf at h ⊢
  by_cases hlow : 10000000000 < e
  · obtain ⟨n, rfl⟩ := Int.eq_ofNat_of_zero_le (show 0 ≤ e by omega)
    rw [if_pos hlow] at h ⊢
    exact date?_of_millis (Int.ofNat_lt.1 hlow) (Int.ofNat_le.1 he) h
  · rw [if_neg hlow] at h ⊢
    exact date?_of_seconds (Int.not_lt.1 hlow) h

theorem natAbs_le_of_representable {e : Int} (h : Calendar.representable (instantOf e) = true) :
    e.natAbs ≤ twoTo 1000 := by
  have hrange := Calendar.natAbs_lt_of_representable h
  have hle : e.natAbs ≤ (instantOf e).natAbs := by
    unfold instantOf
    split <;> omega
  exact Binary64.le_twoTo_of_lt (Nat.lt_of_le_of_lt hle (Nat.lt_trans hrange (by decide)))

end Expiry

/-! ## The time left -/

namespace CredentialStatus

/-- **A text that shows a time**: whole minutes, in days, hours and minutes, days only if there are any. -/
structure Shows (text : String) (seconds : Int) (days hours minutes : Nat) : Prop where
  hours_lt : hours < 24
  minutes_lt : minutes < 60
  text_eq : text = if days = 0 then s!"{hours}h {minutes}m" else s!"{days}d {hours}h {minutes}m"
  least : 86400 * (days : Int) + 3600 * hours + 60 * minutes ≤ seconds
  most : seconds < 86400 * (days : Int) + 3600 * hours + 60 * minutes + 60

theorem durationText_shows (seconds : Nat) :
    ∃ days hours minutes, Shows (durationText seconds) seconds days hours minutes := by
  refine ⟨seconds / 86400, seconds % 86400 / 3600, seconds % 3600 / 60, ?_, ?_, ?_, ?_, ?_⟩
  · omega
  · omega
  · unfold durationText
    dsimp only
    by_cases hd : seconds / 86400 = 0
    · rw [if_pos hd, if_neg (by omega)]
    · rw [if_neg hd, if_pos (by omega)]
  · omega
  · omega

/-- A duration ends in minutes. -/
theorem Shows.ne_expired {text : String} {seconds : Int} {days hours minutes : Nat}
    (h : Shows text seconds days hours minutes) : text ≠ "expired" := by
  obtain ⟨front, hf⟩ : ∃ front, text = front ++ "m" := by
    rw [h.text_eq]
    split <;> exact ⟨_, rfl⟩
  intro he
  have hlast := congrArg (fun s => s.toList.getLast?) (hf.symm.trans he)
  simp at hlast

theorem tdiv_thousand_nonpos {left : Int} (h : left < 1000) : left.tdiv 1000 ≤ 0 := by
  by_cases hl : 0 ≤ left
  · rw [Int.tdiv_eq_ediv_of_nonneg hl]
    omega
  · have := Int.tdiv_nonneg (a := -left) (b := 1000) (by omega) (by decide)
    rw [Int.neg_tdiv] at this
    omega

theorem remainingText_shows {t now : Int} (h : 1000 ≤ t - now) :
    ∃ days hours minutes, Shows (remainingText (some t) now) ((t - now) / 1000) days hours minutes := by
  have hdiv : (t - now).tdiv 1000 = (t - now) / 1000 := Int.tdiv_eq_ediv_of_nonneg (by omega)
  have hseconds : ((((t - now) / 1000).toNat : Nat) : Int) = (t - now) / 1000 := Int.toNat_of_nonneg (by omega)
  have hpos : ¬(t - now) / 1000 ≤ 0 := by omega
  unfold remainingText
  dsimp only
  rw [hdiv, if_neg hpos, ← hseconds, Int.toNat_natCast]
  exact durationText_shows _

/-- **The last second counts as expired**, and so does all after it. -/
theorem remainingText_eq_expired {t now : Int} : remainingText (some t) now = "expired" ↔ t - now < 1000 := by
  constructor
  · intro he
    by_cases h : 1000 ≤ t - now
    · obtain ⟨days, hours, minutes, hs⟩ := remainingText_shows h
      exact absurd he hs.ne_expired
    · omega
  · intro h
    unfold remainingText
    exact if_pos (tdiv_thousand_nonpos h)

end CredentialStatus

/-! ## The status -/

namespace Authenticator

open CredentialStatus (Shows remainingText remainingText_eq_expired remainingText_shows)

theorem statusOf_dated (a : Authenticator) {r : Record} {x : Binary64} {t : Instant} (hx : r.expiryDate = some x)
    (ht : Expiry.date? x = some t) (now : Instant) :
    (a.statusOf (some r) now).expiresAt = some (Calendar.dateText t) ∧
      (a.statusOf (some r) now).keyRemaining = remainingText (some t) now ∧
      (a.statusOf (some r) now).expired = a.policy.expired (some x) now := by
  simp [statusOf, hx, ht]

end Authenticator
end TokenCache
