import TokenCache.Proofs.Expiry
import TokenCache.Proofs.Merging
/-!
# Spellings of a whole number

A whole number may stand in a record as a number or as a text: its decimal digits after any zeros and a sign, with
blanks around it (`WrittenAs`).  The text is read by rounding a decimal and the number by rounding an integer, and both
come to the same double, but for the sign of a zero (`quantity?_writtenAs`), which neither the expiry policy nor a
lifetime takes account of.  So it makes no difference which of the two a record or a reply has (`number_or_text`).
-/
namespace TokenCache

open Binary64 (ofInt finite signed)

namespace Text

theorem strip_padded {before cs after : List Char} (hb : before.all isBlank = true) (ha : after.all isBlank = true)
    (hne : cs ≠ []) (hc : ∀ c ∈ cs, isBlank c = false) : strip (before ++ (cs ++ after)) = cs := by
  have hall : ∀ {ds : List Char}, ds.all isBlank = true → ∀ c ∈ ds, isBlank c = true := List.all_eq_true.1
  have hfront : (cs ++ after).dropWhile isBlank = cs ++ after := by
    apply dropWhile_of_head
    intro c hh
    obtain ⟨d, ds, rfl⟩ := List.exists_cons_of_ne_nil hne
    cases hh
    exact hc c List.mem_cons_self
  have hback : cs.reverse.dropWhile isBlank = cs.reverse := by
    apply dropWhile_of_head
    intro c hh
    exact hc c (List.mem_reverse.1 (List.mem_of_mem_head? hh))
  unfold strip
  rw [List.dropWhile_append_of_pos (hall hb), hfront, List.reverse_append,
    List.dropWhile_append_of_pos (hall (by rwa [List.all_reverse])), hback, List.reverse_reverse]

end Text

namespace Binary64

/-! ## Spellings -/

/-- The digits of a number after `z` zeros. -/
def padded (z n : Nat) : List Char :=
  List.replicate z '0' ++ Nat.toDigits 10 n

/-- **The decimal spellings of a whole number**, with a sign or none. -/
inductive Spelling : Int → List Char → Prop
  | plain (z n : Nat) : Spelling n (padded z n)
  | plus (z n : Nat) : Spelling n ('+' :: padded z n)
  | minus (z n : Nat) : Spelling (-n) ('-' :: padded z n)

theorem appendDigits_eq (cs : List Char) (n : Nat) : appendDigits n cs = Nat.ofDigitChars 10 cs n := by
  unfold appendDigits Nat.ofDigitChars
  congr 1
  funext n c
  rw [Nat.mul_comm]
  rfl

/-- Zeros before the digits do not count. -/
theorem appendDigits_padded (z n : Nat) : appendDigits 0 (padded z n) = n := by
  unfold padded
  rw [appendDigits_eq, Nat.ofDigitChars_append, ofDigitChars_zeros, Nat.zero_mul, Nat.ofDigitChars_ten_toDigits]

theorem isDigit_of_mem_padded {z n : Nat} {c : Char} (h : c ∈ padded z n) : isDigit c = true := by
  have hc : c.isDigit = true := by
    rcases List.mem_append.1 h with h | h
    · rw [List.eq_of_mem_replicate h]
      rfl
    · exact Nat.isDigit_of_mem_toDigits (by decide) (by decide) h
  simp only [Char.isDigit, Bool.and_eq_true, decide_eq_true_eq] at hc
  simp only [isDigit, Bool.and_eq_true, decide_eq_true_eq]
  exact hc

theorem padded_ne_nil (z n : Nat) : padded z n ≠ [] := by
  simp [padded, Nat.toDigits_ne_nil]

theorem Spelling.spelled {n : Int} {cs : List Char} (h : Spelling n cs) :
    ∃ negative, Spelled cs negative n.natAbs ∧ signed negative n.natAbs = n := by
  have hd : ∀ z m, (padded z m).all isDigit = true := fun z m => List.all_eq_true.2 fun c hc => isDigit_of_mem_padded hc
  cases h with
  | plain z m =>
    have hs := Spelled.plain (padded_ne_nil z m) (hd z m)
    rw [appendDigits_padded] at hs
    exact ⟨false, hs, rfl⟩
  | plus z m =>
    have hs := Spelled.plus (padded_ne_nil z m) (hd z m)
    rw [appendDigits_padded] at hs
    exact ⟨false, hs, rfl⟩
  | minus z m =>
    have hs := Spelled.minus (padded_ne_nil z m) (hd z m)
    rw [appendDigits_padded] at hs
    rw [Int.natAbs_neg]
    exact ⟨true, hs, rfl⟩

theorem Spelling.not_blank {n : Int} {cs : List Char} (h : Spelling n cs) : ∀ c ∈ cs, Text.isBlank c = false := by
  have hd : ∀ z m, ∀ c ∈ padded z m, Text.isBlank c = false := by
    intro z m c hc
    obtain ⟨hlow, hhigh⟩ := toNat_of_isDigit (isDigit_of_mem_padded hc)
    simp [Text.isBlank]
    omega
  cases h with
  | plain z m => exact hd z m
  | plus z m => exact List.forall_mem_cons.2 ⟨by decide, hd z m⟩
  | minus z m => exact List.forall_mem_cons.2 ⟨by decide, hd z m⟩

theorem Spelling.ne_nil {n : Int} {cs : List Char} (h : Spelling n cs) : cs ≠ [] := by
  cases h with
  | plain z m => exact padded_ne_nil z m
  | plus z m => simp
  | minus z m => simp

/-- **A text that spells a whole number**, with blanks around it. -/
inductive WrittenAs (n : Int) (s : String) : Prop
  | intro {before digits after : List Char} (text : s.toList = before ++ (digits ++ after))
    (hb : before.all Text.isBlank = true) (spelling : Spelling n digits) (ha : after.all Text.isBlank = true) :
    WrittenAs n s

theorem WrittenAs.trim {n : Int} {s : String} (h : WrittenAs n s) : Spelling n (Text.trim s).toList := by
  cases h with
  | intro text hb spelling ha =>
    unfold Text.trim
    rw [text, String.toList_ofList, Text.strip_padded hb ha spelling.ne_nil spelling.not_blank]
    exact spelling

/-! ## Doubles that differ in the sign of zero -/

/-- The same double, or two zeros. -/
inductive Alike : Binary64 → Binary64 → Prop
  | refl (x : Binary64) : Alike x x
  | zero (negative negative' : Bool) : Alike (finite negative 0) (finite negative' 0)

theorem Alike.lt_left {x y : Binary64} (h : Alike x y) (z : Binary64) : x.lt z = y.lt z := by
  cases h with
  | refl => rfl
  | zero negative negative' => cases z <;> cases negative <;> cases negative' <;> simp [lt, signed]

theorem seconds_zero (negative : Bool) : Expiry.seconds (finite negative 0) = finite negative 0 := by
  have ht : Expiry.threshold = finite false (10000000000 * one) := ofInt_whole (n := 10000000000) (by decide)
  have hlt : Expiry.threshold.lt (finite negative 0) = false := by
    rw [ht]
    cases negative with
    | true => exact lt_finite_negative
    | false =>
      rw [← Bool.not_eq_true, lt_finite]
      simp
  unfold Expiry.seconds
  rw [hlt]
  rfl

theorem Alike.expired {x y : Binary64} (h : Alike x y) (p : ExpiryPolicy) (now : Instant) :
    p.expired (some x) now = p.expired (some y) now := by
  cases h with
  | refl => rfl
  | zero negative negative' =>
    simp only [ExpiryPolicy.expired, seconds_zero]
    exact (Alike.zero negative negative').lt_left _

theorem Alike.expiryAfter {x y : Binary64} (h : Alike x y) (now : Int) :
    Record.expiryAfter now x = Record.expiryAfter now y := by
  cases h with
  | refl => rfl
  | zero negative negative' =>
    have hr : ∀ b : Bool, ((finite b 0).mul thousand).round = finite b 0 := by
      intro b
      have hm := mul_thousand b (m := 0) (by decide)
      have hw := wholeNearest_whole 0
      rw [Nat.mul_zero, Nat.zero_mul] at hm
      rw [Nat.zero_mul] at hw
      rw [hm, round, hw, Nat.zero_mul]
    unfold Record.expiryAfter
    rw [hr, hr]
    cases negative <;> cases negative' <;> simp [signed]

end Binary64

namespace Record

open Binary64 (WrittenAs Alike)

/-! ## Number and text -/

theorem ofQuotient_signed {negative : Bool} {n : Int} (h : signed negative n.natAbs = n) :
    Alike (ofInt n) (Binary64.ofQuotient negative (n.natAbs * Binary64.one) 1) ∧
      (n ≠ 0 → ofInt n = Binary64.ofQuotient negative (n.natAbs * Binary64.one) 1) := by
  by_cases hn : n = 0
  · subst hn
    have hz : ∀ b, Binary64.ofQuotient b ((0 : Int).natAbs * Binary64.one) 1 = finite b 0 := by
      intro b
      rw [Int.natAbs_zero, Nat.zero_mul, Binary64.ofQuotient_finite b Nat.one_pos (Nat.zero_le _),
        Binary64.nearest_zero]
    unfold Binary64.ofInt
    rw [hz, hz]
    exact ⟨.zero _ _, fun h => absurd rfl h⟩
  · have hsign : decide (n < 0) = negative := by
      cases negative with
      | true =>
        have : -(n.natAbs : Int) = n := h
        rw [decide_eq_true_eq]
        omega
      | false =>
        have : (n.natAbs : Int) = n := h
        rw [decide_eq_false_iff_not]
        omega
    unfold Binary64.ofInt
    rw [hsign]
    exact ⟨.refl _, fun _ => rfl⟩

theorem quantity?_integer (n : Int) : quantity? (.number (.integer n)) = some (ofInt n) :=
  rfl

/-- **A text that spells a number reads as that number.** -/
theorem quantity?_writtenAs {n : Int} {s : String} (h : WrittenAs n s) :
    ∃ x, quantity? (.string s) = some x ∧ Alike (ofInt n) x ∧ (n ≠ 0 → ofInt n = x) := by
  obtain ⟨negative, hs, hn⟩ := h.trim.spelled
  have hx := Binary64.ofText?_spelled hs
  unfold quantity?
  exact ⟨_, hx, ofQuotient_signed hn⟩

/-- Two replies that differ in their lifetime only. -/
structure SameButLifetime (v v' : Json) (reply reply' : Members) : Prop where
  nodup : reply.keys.Nodup
  nodup' : reply'.keys.Nodup
  lifetime : reply.get? lifetimeKey = some v
  lifetime' : reply'.get? lifetimeKey = some v'
  others : ∀ key, key ≠ lifetimeKey → reply.get? key = reply'.get? key

/-- **Replies whose lifetimes read alike** imply the same expiry. -/
theorem SameButLifetime.impliedExpiry {v v' : Json} {reply reply' : Members} (h : SameButLifetime v v' reply reply')
    {x y : Binary64} (hx : quantity? v = some x) (hy : quantity? v' = some y) (ha : Alike x y) (now : Int) :
    impliedExpiry reply now = impliedExpiry reply' now := by
  unfold Record.impliedExpiry Members.hasKey
  rw [h.others expiryKey (by decide), h.lifetime, h.lifetime', Option.bind_some, Option.bind_some, hx, hy,
    Option.bind_some, Option.bind_some, ha.expiryAfter]

/-- Their merges differ in the lifetime only. -/
theorem SameButLifetime.merge {v v' : Json} {reply reply' : Members} (h : SameButLifetime v v' reply reply') {now : Int}
    (hi : Record.impliedExpiry reply now = Record.impliedExpiry reply' now) (r : Record) (used : String) {key : String}
    (hkey : key ≠ lifetimeKey) : (r.merge reply used now).get? key = (r.merge reply' used now).get? key := by
  by_cases ht : key = refreshTokenKey
  · subst ht
    rw [get?_merge_refreshToken h.nodup, get?_merge_refreshToken h.nodup', usableIn, usableIn, h.others _ hkey]
  by_cases hx : key = expiryKey
  · subst hx
    rw [get?_merge_expiry h.nodup, get?_merge_expiry h.nodup', hi, h.others _ hkey]
  · rw [get?_merge ht hx h.nodup, get?_merge ht hx h.nodup', h.others _ hkey]

/-- **A number and a text that spells it mean the same time**, as an expiry date and as a lifetime. -/
theorem number_or_text {n : Int} {s : String} (h : WrittenAs n s) :
    (∀ r r' : Record, r.get? expiryKey = some (.number (.integer n)) → r'.get? expiryKey = some (.string s) →
      ∃ x y, r.expiryDate = some x ∧ r'.expiryDate = some y ∧ Alike x y ∧ (n ≠ 0 → x = y) ∧
        ∀ (p : ExpiryPolicy) (now : Instant), p.expired r.expiryDate now = p.expired r'.expiryDate now) ∧
      ∀ (r : Record) (reply reply' : Members) (used : String) (now : Int),
        SameButLifetime (.number (.integer n)) (.string s) reply reply' →
          impliedExpiry reply now = impliedExpiry reply' now ∧
            ∀ key, key ≠ lifetimeKey → (r.merge reply used now).get? key = (r.merge reply' used now).get? key := by
  obtain ⟨y, hy, ha, hn⟩ := quantity?_writtenAs h
  constructor
  · intro r r' hr hr'
    have hx : r.expiryDate = some (ofInt n) := expiryDate_of_get? hr
    have hx' : r'.expiryDate = some y := (expiryDate_of_get? hr').trans hy
    refine ⟨ofInt n, y, hx, hx', ha, hn, fun p now => ?_⟩
    rw [hx, hx']
    exact ha.expired p now
  · intro r reply reply' used now hd
    have hi := hd.impliedExpiry (quantity?_integer n) hy ha now
    exact ⟨hi, fun key hkey => hd.merge hi r used hkey⟩

/-- A number halfway between two doubles, and its text with a sign, zeros and blanks of other kinds. -/
theorem halfway_number_or_text :
    let n : Int := 9007199254740993
    let s := "\u00a0+0009007199254740993\u3000"
    let r : Record := ⟨[("expiry_date", .number (.integer n))]⟩
    let r' : Record := ⟨[("expiry_date", .string s)]⟩
    let reply : Members := [("access_token", .string "t"), ("expires_in", .number (.integer n))]
    let reply' : Members := [("access_token", .string "t"), ("expires_in", .string s)]
    WrittenAs n s ∧ r'.expiryDate = r.expiryDate ∧ SameButLifetime (.number (.integer n)) (.string s) reply reply' ∧
      (r.merge reply' "u" 1700000000000).get? expiryKey = some (.number (.integer 9007200954740992000)) := by
  intro n s r r' reply reply'
  have h : WrittenAs n s :=
    @WrittenAs.intro n s ['\u00a0'] ('+' :: Binary64.padded 3 9007199254740993) ['\u3000'] (by decide +kernel)
      (by decide) (.plus 3 9007199254740993) (by decide)
  have hd : SameButLifetime (.number (.integer n)) (.string s) reply reply' := by
    refine ⟨by decide, by decide, rfl, rfl, fun key hkey => ?_⟩
    have hne : ("expires_in" == key) = false := by simpa [lifetimeKey] using Ne.symm hkey
    simp only [reply, reply', Members.get?_cons, hne, Bool.false_eq_true, if_false]
  obtain ⟨hdates, hmerges⟩ := number_or_text h
  obtain ⟨x, y, hx, hy, -, hxy, -⟩ := hdates r r' rfl rfl
  obtain ⟨-, hmerge⟩ := hmerges r reply reply' "u" 1700000000000 hd
  have himplied : impliedExpiry reply 1700000000000 = some 9007200954740992000 := by decide +kernel
  refine ⟨h, ?_, hd, ?_⟩
  · rw [hx, hy, hxy (by decide)]
  · rw [← hmerge expiryKey (by decide), merge_dated himplied, get?_insert, if_pos (by simp)]

end Record
end TokenCache
