import TokenCache.Json.Token
import TokenCache.Json.Writer
import TokenCache.Proofs.Text.Utf8
/-!
# Reading strings that were written

Each byte of a string's content is written as itself or as one escape, and a step of the scan takes it back
(`scanQuoted_escaped`).  So a string is read back from its quoted form (`scanString_quoted`).
-/
namespace TokenCache
namespace Json

/-- Control characters without an escape of their own are written by their number. -/
theorem value?_digits : ∀ n < 32, Hex.value? ((48 :: 48 :: (Hex.digits 2 n).map fun c => c.toNat.toUInt8).map
    fun x : UInt8 => Char.ofNat x.toNat) = some n := by
  decide

theorem encodeChar_control : ∀ n < 32, String.utf8EncodeChar (Char.ofNat n) = [UInt8.ofNat n] := by
  decide

/-- **An escape is read as the byte that it was written for.** -/
theorem scanEscape_escaped (b : UInt8) (rest : List UInt8) :
    (escaped b = [b] ∧ b ≠ 34 ∧ b ≠ 92 ∧ ¬b < 32) ∨
      ∃ after, escaped b = 92 :: after ∧ scanEscape (after ++ rest) = .ok ([b], rest) := by
  unfold escaped
  split
  any_goals exact .inr ⟨_, rfl, rfl⟩
  rename_i h34 h92 h8 h9 h10 h12 h13
  by_cases hb : b < 32
  · rw [if_pos hb]
    have hn : b.toNat < 32 := by simpa [UInt8.lt_iff_toNat_lt] using hb
    have hv := value?_digits b.toNat hn
    have hc := encodeChar_control b.toNat hn
    rw [UInt8.ofNat_toNat] at hc
    obtain ⟨x, y, hd⟩ : ∃ x y, Hex.digits 2 b.toNat = [x, y] := ⟨_, _, rfl⟩
    rw [hd] at hv ⊢
    refine .inr ⟨_, rfl, ?_⟩
    have ht : isTrailing b.toNat = false := by simp [isTrailing]; omega
    have hl : isLeading b.toNat = false := by simp [isLeading]; omega
    have hu : scanUnit (48 :: 48 :: x.toNat.toUInt8 :: y.toNat.toUInt8 :: rest) = .ok (b.toNat, rest) := by
      have hv : Hex.value? ([48, 48, x.toNat.toUInt8, y.toNat.toUInt8].map fun z : UInt8 => Char.ofNat z.toNat) =
        some b.toNat := hv
      unfold scanUnit
      dsimp only
      rw [hv]
    have hp : scanCodePoint (48 :: 48 :: x.toNat.toUInt8 :: y.toNat.toUInt8 :: rest) = .ok (b.toNat, rest) := by
      unfold scanCodePoint
      rw [hu]
      simp [bind, Except.bind, ht, hl]
      rfl
    show scanEscape (117 :: 48 :: 48 :: x.toNat.toUInt8 :: y.toNat.toUInt8 :: rest) = _
    unfold scanEscape
    simp [shortEscape?, hp, bind, Except.bind, hc]
    rfl
  · rw [if_neg hb]
    exact .inl ⟨rfl, h34, h92, hb⟩

/-- **What was escaped is read back**, up to the closing quotation mark. -/
theorem scanQuoted_escaped (rest : List UInt8) : ∀ (content : List UInt8) (n : Nat) (done : List UInt8),
    content.length < n →
    scanQuoted n done (content.flatMap escaped ++ 34 :: rest) = .ok (done.reverse ++ content, rest)
  | _, 0, _, h => absurd h (Nat.not_lt_zero _)
  | [], n + 1, done, _ => by
    rw [List.append_nil]
    rfl
  | b :: content, n + 1, done, h => by
    have ih := scanQuoted_escaped rest content n (b :: done) (Nat.lt_of_succ_lt_succ h)
    rw [List.reverse_cons, List.append_assoc] at ih
    rw [List.flatMap_cons, List.append_assoc]
    rcases scanEscape_escaped b (content.flatMap escaped ++ 34 :: rest) with ⟨he, h34, h92, h32⟩ | ⟨after, he, hs⟩
    · rw [he, List.singleton_append, scanQuoted, if_neg (by simpa using h34), if_neg (by simpa using h92), if_neg h32]
      exact ih
    · rw [he, List.cons_append, scanQuoted, if_neg (by decide), if_pos (by decide), hs]
      exact ih

theorem length_le_flatMap_escaped (content : List UInt8) : content.length ≤ (content.flatMap escaped).length := by
  induction content with
  | nil => exact Nat.le_refl 0
  | cons b content ih =>
    have hb : 0 < (escaped b).length := by
      rcases scanEscape_escaped b [] with ⟨he, -⟩ | ⟨after, he, -⟩ <;> rw [he] <;> simp
    rw [List.flatMap_cons, List.length_append, List.length_cons]
    omega

/-- **A string is read back from its quoted form.** -/
theorem scanString_quoted (s : String) (rest : List UInt8) :
    scanString ((Utf8.encode s).flatMap escaped ++ 34 :: rest) = .ok (s, rest) := by
  have hl := length_le_flatMap_escaped (Utf8.encode s)
  unfold scanString
  rw [scanQuoted_escaped rest _ _ [] (by rw [List.length_append, List.length_cons]; omega)]
  simp only [bind, Except.bind, List.reverse_nil, List.nil_append, Utf8.decode?_encode]
  rfl

end Json
end TokenCache
