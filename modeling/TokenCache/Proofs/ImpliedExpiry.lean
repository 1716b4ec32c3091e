import TokenCache.Proofs.Expiry
import TokenCache.Proofs.Merging
/-!
# The expiry that a lifetime implies

A lifetime in seconds is made milliseconds by a product in double precision, which is rounded to a whole number
(`Rounds`) and added to the instant.  The sum is written exactly if 64 bits hold it and the lifetime is below 2^63
either way; else nothing is written, so that no sum wraps around and no lifetime stops at the end of a range
(`merge_synthesizes`).
-/
namespace TokenCache

namespace Binary64

/-! ## The nearest whole number -/

/-- **The whole number nearest to a double**: at most half away, and of two the one further from zero. -/
inductive Rounds : Binary64 → Int → Prop
  | intro {negative : Bool} {u m : Nat} (low : 2 * (m * one) ≤ 2 * u + one) (high : 2 * u < 2 * (m * one) + one) :
    Rounds (finite negative u) (signed negative m)

theorem rounds_wholeNearest (negative : Bool) (u : Nat) :
    Rounds (finite negative u) (signed negative (wholeNearest u)) := by
  have hone := one_pos
  have hle := Nat.div_mul_le_self (2 * u + one) (2 * one)
  have hlt := Nat.lt_div_mul_add (a := 2 * u + one) (b := 2 * one) (by omega)
  have he : wholeNearest u * (2 * one) = 2 * (wholeNearest u * one) := Nat.mul_left_comm _ _ _
  unfold wholeNearest at he ⊢
  apply Rounds.intro <;> omega

theorem Rounds.exists_units {x : Binary64} {l : Int} (h : Rounds x l) :
    ∃ negative u, x = finite negative u ∧ l = signed negative (wholeNearest u) := by
  cases h with
  | intro low high => exact ⟨_, _, rfl, by rw [wholeNearest_of_near low high]⟩

theorem Rounds.unique {x : Binary64} {l l' : Int} (h : Rounds x l) (h' : Rounds x l') : l = l' := by
  obtain ⟨negative, u, rfl, rfl⟩ := h.exists_units
  obtain ⟨_, _, ⟨⟩, rfl⟩ := h'.exists_units
  rfl

theorem isFinite_iff {x : Binary64} : x.isFinite = true ↔ ∃ l, Rounds x l := by
  constructor
  · intro h
    cases x with
    | finite negative u => exact ⟨_, rounds_wholeNearest negative u⟩
    | nan => cases h
    | infinite negative => cases h
  · rintro ⟨l, h⟩
    cases h
    rfl

end Binary64

namespace Record

open Binary64 (Rounds thousand ofInt)

/-! ## The sum -/

/-- A lifetime in milliseconds is below 2^63 either way, and 64 bits hold the sum. -/
structure Held (now l : Int) : Prop where
  size : l.natAbs < 9223372036854775808
  sum : -9223372036854775808 ≤ now + l ∧ now + l < 9223372036854775808

theorem expiryAfter_of_rounds {now l instant : Int} {x : Binary64} (hl : Rounds (x.mul thousand) l) :
    expiryAfter now x = some instant ↔ Held now l ∧ instant = now + l := by
  obtain ⟨negative, u, hx, rfl⟩ := hl.exists_units
  rw [expiryAfter_eq_some]
  have hsize : (Binary64.wholeNearest u : Int) < Binary64.int64Limit ↔
      (Binary64.signed negative (Binary64.wholeNearest u)).natAbs < 9223372036854775808 := by
    rw [natAbs_signed]
    unfold Binary64.int64Limit
    omega
  constructor
  · intro h
    cases h with
    | intro product size fits =>
      cases hx.symm.trans product
      exact ⟨⟨hsize.1 size, Binary64.fits64_iff.1 fits⟩, rfl⟩
  · rintro ⟨h, rfl⟩
    exact .intro hx (hsize.2 h.size) (Binary64.fits64_iff.2 h.sum)

theorem expiryAfter_not_held {now l : Int} {x : Binary64} (hl : Rounds (x.mul thousand) l) (h : ¬Held now l) :
    expiryAfter now x = none := by
  rw [Option.eq_none_iff_forall_ne_some]
  intro instant hi
  exact h ((expiryAfter_of_rounds hl).1 hi).1

theorem expiryAfter_not_finite {now : Int} {x : Binary64} (h : (x.mul thousand).isFinite = false) :
    expiryAfter now x = none := by
  rw [Option.eq_none_iff_forall_ne_some]
  intro instant hi
  cases expiryAfter_eq_some.1 hi with
  | intro product size fits =>
    rw [product] at h
    cases h

/-- **A thousand times a whole number of seconds** is rounded to itself. -/
theorem rounds_mul_thousand {n : Int} (h : n.natAbs ≤ 9000000000000) :
    Rounds ((ofInt n).mul thousand) (1000 * n) := by
  have hm : 1000 * n.natAbs < Binary64.twoTo 53 := Nat.lt_of_le_of_lt (Nat.mul_le_mul_left 1000 h) (by decide)
  have hr := Binary64.rounds_wholeNearest (n < 0) (1000 * n.natAbs * Binary64.one)
  rw [Binary64.wholeNearest_whole, signed_mul_thousand (signed_natAbs n)] at hr
  rw [Binary64.ofInt_exact (by omega), Binary64.mul_thousand _ hm]
  exact hr

/-! ## The expiry date of a merge -/

/-- The lifetime of a reply in seconds, if it has one. -/
def lifetime? (reply : Members) : Option Binary64 :=
  (reply.get? lifetimeKey).bind quantity?

/-- A key that the reply does not have is left as it is. -/
theorem get?_overwrite_absent {key : String} : ∀ {reply : Members} (r : Record), reply.get? key = none →
    (r.overwrite reply).get? key = r.get? key
  | [], _, _ => rfl
  | m :: reply, r, h => by
    rw [Members.get?_cons] at h
    split at h
    · cases h
    rename_i hm
    show (overwrite (if accepts m.1 m.2 then r.insert m.1 m.2 else r) reply).get? key = _
    rw [get?_overwrite_absent _ h]
    split
    · rw [get?_insert, if_neg hm]
    · rfl

theorem impliedExpiry_of_absent {reply : Members} (hd : reply.get? expiryKey = none) (now : Int) :
    impliedExpiry reply now = (lifetime? reply).bind (expiryAfter now) := by
  simp [impliedExpiry, Members.hasKey, hd, lifetime?]

theorem get?_merge_absent {reply : Members} (hd : reply.get? expiryKey = none) (r : Record) (used : String)
    (now : Int) :
    (r.merge reply used now).get? expiryKey =
      (((lifetime? reply).bind (expiryAfter now)).map fun n => .number (.integer n)).or (r.get? expiryKey) := by
  rw [← impliedExpiry_of_absent hd]
  cases hi : impliedExpiry reply now with
  | none =>
    rw [merge_undated hi, get?_retain (by decide), get?_overwrite_absent r hd]
    rfl
  | some instant =>
    rw [merge_dated hi, get?_insert, if_pos (by simp)]
    rfl

/-- **What a merge writes as expiry date** of a reply that has none. -/
structure Synthesized (stored : Option Json) (reply : Members) (now : Int) (written : Option Json) : Prop where
  absent : lifetime? reply = none → written = stored
  infinite : ∀ x, lifetime? reply = some x → (x.mul thousand).isFinite = false → written = stored
  finite : ∀ x, lifetime? reply = some x → (x.mul thousand).isFinite = true → ∃ l, Rounds (x.mul thousand) l ∧
    (Held now l → written = some (.number (.integer (now + l)))) ∧ (¬Held now l → written = stored)
  whole : ∀ n : Int, reply.get? lifetimeKey = some (.number (.integer n)) → n.natAbs ≤ 9000000000000 →
    lifetime? reply = some (ofInt n) ∧ Rounds ((ofInt n).mul thousand) (1000 * n) ∧
      (-9223372036854775808 ≤ now + 1000 * n → now + 1000 * n < 9223372036854775808 →
        written = some (.number (.integer (now + 1000 * n))))

/-- **The sum is written as it is, or nothing is**: it neither wraps around nor stops at the end of a range. -/
theorem merge_synthesizes {reply : Members} (hd : reply.get? expiryKey = none) (r : Record) (used : String)
    (now : Int) :
    Synthesized (r.get? expiryKey) reply now ((r.merge reply used now).get? expiryKey) := by
  rw [get?_merge_absent hd]
  have hheld : ∀ {x l}, lifetime? reply = some x → Rounds (x.mul thousand) l → Held now l →
      (((lifetime? reply).bind (expiryAfter now)).map fun n => Json.number (.integer n)).or (r.get? expiryKey) =
        some (.number (.integer (now + l))) := by
    intro x l hx hl h
    rw [hx, Option.bind_some, (expiryAfter_of_rounds hl).2 ⟨h, rfl⟩]
    rfl
  constructor
  · intro hn
    rw [hn]
    rfl
  · intro x hx hf
    rw [hx, Option.bind_some, expiryAfter_not_finite hf]
    rfl
  · intro x hx hf
    obtain ⟨l, hl⟩ := Binary64.isFinite_iff.1 hf
    refine ⟨l, hl, hheld hx hl, fun hn => ?_⟩
    rw [hx, Option.bind_some, expiryAfter_not_held hl hn]
    rfl
  · intro n hn hsize
    have hx : lifetime? reply = some (ofInt n) := by
      unfold lifetime?
      rw [hn]
      rfl
    have hl := rounds_mul_thousand hsize
    exact ⟨hx, hl, fun hlow hhigh => hheld hx hl ⟨by omega, hlow, hhigh⟩⟩

/-- The greatest sum that 64 bits hold is written, and the next one is not. -/
theorem sum_at_the_limit :
    let r : Record := ⟨[("expiry_date", .number (.integer 1000))]⟩
    let reply : Members := [("access_token", .string "t"), ("expires_in", .number (.integer 9000000000000))]
    reply.get? expiryKey = none ∧
      (r.merge reply "u" 9214372036854775807).get? expiryKey = some (.number (.integer 9223372036854775807)) ∧
      (r.merge reply "u" 9214372036854775808).get? expiryKey = some (.number (.integer 1000)) := by
  intro r reply
  have hd : reply.get? expiryKey = none := rfl
  have hlast := merge_synthesizes hd r "u" 9214372036854775807
  have hnext := merge_synthesizes hd r "u" 9214372036854775808
  obtain ⟨hx, hl, hwritten⟩ := hlast.whole 9000000000000 rfl (by decide)
  obtain ⟨l, hl', -, hstored⟩ := hnext.finite _ hx (Binary64.isFinite_iff.2 ⟨_, hl⟩)
  obtain rfl := hl'.unique hl
  exact ⟨hd, hwritten (by decide) (by decide), hstored fun h => absurd h.sum.2 (by decide)⟩

end Record
end TokenCache
