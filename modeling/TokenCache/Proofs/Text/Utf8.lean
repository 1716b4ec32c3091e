import TokenCache.Text.Utf8
/-!
# Decoding what was encoded

The bytes of a text are read back as that text (`decode?_encode`): the bytes of each of its characters, whatever comes
after them, are read as that character (`leading_encodeChar`).
-/
namespace TokenCache
namespace Utf8

theorem toNat_ofNat {m : Nat} (h : m < 256) : (UInt8.ofNat m).toNat = m := by
  rw [UInt8.toNat_ofNat', Nat.mod_eq_of_lt h]

/-- A continuation byte that is in range is taken. -/
theorem continued_range {code n m : Nat} {low high : UInt8} {bytes : List UInt8} (hm : m < 64)
    (hl : low.toNat ≤ m + 0x80) (hh : m + 0x80 ≤ high.toNat) :
    continued code low high (n + 1) (UInt8.ofNat (m + 0x80) :: bytes) =
      continued (code * 64 + m) 0x80 0xBF n bytes := by
  have ht : (UInt8.ofNat (m + 0x80)).toNat = m + 0x80 := toNat_ofNat (by omega)
  have hc : (low ≤ UInt8.ofNat (m + 0x80) && UInt8.ofNat (m + 0x80) ≤ high) = true := by
    simp only [Bool.and_eq_true, decide_eq_true_eq, UInt8.le_iff_toNat_le, ht]
    exact ⟨hl, hh⟩
  rw [continued, if_pos hc, ht, Nat.add_sub_cancel]

theorem continued_any {code n m : Nat} {bytes : List UInt8} (hm : m < 64) :
    continued code 0x80 0xBF (n + 1) (UInt8.ofNat (m + 0x80) :: bytes) = continued (code * 64 + m) 0x80 0xBF n bytes :=
  continued_range hm (Nat.le_add_left 128 m) (by show m + 128 ≤ 191; omega)

/-- What a leading byte stands for, told by its number. -/
theorem leading_eq (b : UInt8) (bytes : List UInt8) : leading b bytes =
    if b.toNat < 0x80 then (some b.toNat, bytes)
    else if b.toNat < 0xC2 then (none, bytes)
    else if b.toNat < 0xE0 then continued (b.toNat - 0xC0) 0x80 0xBF 1 bytes
    else if b.toNat = 0xE0 then continued 0 0xA0 0xBF 2 bytes
    else if b.toNat = 0xED then continued 13 0x80 0x9F 2 bytes
    else if b.toNat < 0xF0 then continued (b.toNat - 0xE0) 0x80 0xBF 2 bytes
    else if b.toNat = 0xF0 then continued 0 0x90 0xBF 3 bytes
    else if b.toNat < 0xF4 then continued (b.toNat - 0xF0) 0x80 0xBF 3 bytes
    else if b.toNat = 0xF4 then continued 4 0x80 0x8F 3 bytes
    else (none, bytes) := by
  unfold leading
  simp only [UInt8.lt_iff_toNat_lt, beq_iff_eq, ← UInt8.toNat_inj, UInt8.reduceToNat]

theorem leading_two {v : Nat} (h : 0x80 ≤ v) (h' : v < 0x800) (bytes : List UInt8) :
    leading (UInt8.ofNat (v / 64 % 0x20 + 0xC0)) (UInt8.ofNat (v % 0x40 + 0x80) :: bytes) = (some v, bytes) := by
  rw [leading_eq, toNat_ofNat (by omega), if_neg (by omega), if_neg (by omega), if_pos (by omega),
    continued_any (by omega), continued]
  exact congrArg (fun n => (some n, bytes)) (by omega)

/-- The code points of three bytes: the least and the surrogates narrow the range of the second. -/
theorem leading_three {v : Nat} (h : 0x800 ≤ v) (h' : v < 0x10000) (hs : v < 0xD800 ∨ 0xDFFF < v) (bytes : List UInt8) :
    leading (UInt8.ofNat (v / 4096 % 0x10 + 0xE0))
      (UInt8.ofNat (v / 64 % 0x40 + 0x80) :: UInt8.ofNat (v % 0x40 + 0x80) :: bytes) = (some v, bytes) := by
  rw [leading_eq, toNat_ofNat (by omega), if_neg (by omega), if_neg (by omega), if_neg (by omega)]
  by_cases h0 : v < 0x1000
  · rw [if_pos (by omega), continued_range (by omega) (by show 160 ≤ _; omega) (by show _ ≤ 191; omega),
      continued_any (by omega), continued]
    exact congrArg (fun n => (some n, bytes)) (by omega)
  by_cases hd : v / 4096 = 13
  · rw [if_neg (by omega), if_pos (by omega),
      continued_range (by omega) (by show 128 ≤ _; omega) (by show _ ≤ 159; omega), continued_any (by omega), continued]
    exact congrArg (fun n => (some n, bytes)) (by omega)
  · rw [if_neg (by omega), if_neg (by omega), if_pos (by omega), continued_any (by omega), continued_any (by omega),
      continued]
    exact congrArg (fun n => (some n, bytes)) (by omega)

/-- The code points of four bytes: the least and the greatest narrow the range of the second. -/
theorem leading_four {v : Nat} (h : 0x10000 ≤ v) (h' : v < 0x110000) (bytes : List UInt8) :
    leading (UInt8.ofNat (v / 262144 % 0x08 + 0xF0)) (UInt8.ofNat (v / 4096 % 0x40 + 0x80) ::
      UInt8.ofNat (v / 64 % 0x40 + 0x80) :: UInt8.ofNat (v % 0x40 + 0x80) :: bytes) = (some v, bytes) := by
  rw [leading_eq, toNat_ofNat (by omega), if_neg (by omega), if_neg (by omega), if_neg (by omega), if_neg (by omega),
    if_neg (by omega), if_neg (by omega)]
  by_cases h0 : v < 0x40000
  · rw [if_pos (by omega), continued_range (by omega) (by show 144 ≤ _; omega) (by show _ ≤ 191; omega),
      continued_any (by omega), continued_any (by omega), continued]
    exact congrArg (fun n => (some n, bytes)) (by omega)
  by_cases h4 : v < 0x100000
  · rw [if_neg (by omega), if_pos (by omega), continued_any (by omega), continued_any (by omega),
      continued_any (by omega), continued]
    exact congrArg (fun n => (some n, bytes)) (by omega)
  · rw [if_neg (by omega), if_neg (by omega), if_pos (by omega),
      continued_range (by omega) (by show 128 ≤ _; omega) (by show _ ≤ 143; omega), continued_any (by omega),
      continued_any (by omega), continued]
    exact congrArg (fun n => (some n, bytes)) (by omega)

/-- **The bytes of a character are read as that character**, whatever comes after them. -/
theorem leading_encodeChar (c : Char) (rest : List UInt8) :
    ∃ b bytes, String.utf8EncodeChar c = b :: bytes ∧ leading b (bytes ++ rest) = (some c.toNat, rest) := by
  have hv : c.toNat < 0xD800 ∨ 0xDFFF < c.toNat ∧ c.toNat < 0x110000 := c.valid
  unfold String.utf8EncodeChar
  dsimp only
  rw [show c.val.toNat = c.toNat from rfl]
  by_cases h1 : c.toNat ≤ 0x7F
  · rw [if_pos h1]
    refine ⟨_, _, rfl, ?_⟩
    show leading (UInt8.ofNat c.toNat) rest = _
    rw [leading_eq, toNat_ofNat (by omega), if_pos (by omega)]
  rw [if_neg h1]
  by_cases h2 : c.toNat ≤ 0x7FF
  · rw [if_pos h2]
    exact ⟨_, _, rfl, leading_two (by omega) (by omega) rest⟩
  rw [if_neg h2]
  by_cases h3 : c.toNat ≤ 0xFFFF
  · rw [if_pos h3]
    exact ⟨_, _, rfl, leading_three (by omega) (by omega) (by omega) rest⟩
  · rw [if_neg h3]
    exact ⟨_, _, rfl, leading_four (by omega) (by omega) rest⟩

theorem unitsWithin_encode : ∀ (cs : List Char) (n : Nat), (cs.flatMap String.utf8EncodeChar).length ≤ n →
    unitsWithin n (cs.flatMap String.utf8EncodeChar) = cs.map some
  | [], n, _ => by cases n <;> rfl
  | c :: cs, n, h => by
    obtain ⟨b, bytes, hb, hl⟩ := leading_encodeChar c (cs.flatMap String.utf8EncodeChar)
    rw [List.flatMap_cons, hb, List.cons_append] at h ⊢
    rw [List.length_cons, List.length_append] at h
    cases n with
    | zero => omega
    | succ n =>
      unfold unitsWithin
      rw [hl]
      dsimp only
      rw [unitsWithin_encode cs n (by omega), List.map_cons, Option.map_some, Char.ofNat_toNat]

/-- **A text is read back from its bytes.** -/
theorem decode?_encode (s : String) : decode? (encode s) = some s := by
  have hu : units (encode s) = s.toList.map some := unitsWithin_encode s.toList _ (Nat.le_refl _)
  unfold decode?
  dsimp only
  rw [hu, if_pos (by simp), List.filterMap_map]
  simp

end Utf8
end TokenCache
