import TokenCache.Proofs.Json.Numerals
/-!
# Doubles, written and read

The numeral of a finite double is read as a double again, whatever comes after it (`scanNumeral_real`).  It need not be
the same one: the digits are those of the shortest decimal, which is read with more than one rounding.  But the reading
never fails.  A numeral with a point is scaled down, and one with an exponent has at most eighteen digits, so that all
of them fit the significand.
-/
namespace TokenCache
namespace Json

open Binary64 (ofInt tenTo spelled shortest Representable IsDouble)

/-! ## Pieces of a numeral -/

theorem finished_of_scale (negative : Bool) {significand : Nat} {e : Int} {x : Binary64}
    (h : scale? 5 (ofInt significand) e = some x) (rest : List UInt8) :
    finished negative significand e rest = .ok (.real (if negative then x.neg else x), rest) := by
  unfold finished realOf?
  rw [h]
  rfl

theorem scanScale_apart {negative : Bool} {significand : Nat} {e : Int} {rest : List UInt8} (hr : Apart rest) :
    scanScale negative significand e rest = finished negative significand e rest := by
  unfold scanScale
  split
  · rfl
  · rename_i b bytes
    obtain ⟨-, -, he, hE⟩ := hr b rfl
    rw [if_neg (by simp [he, hE])]

theorem scanTail_point (negative : Bool) (significand : Nat) (bytes : List UInt8) :
    scanTail negative significand 0 (46 :: bytes) = scanFraction negative significand 0 bytes :=
  rfl

theorem scanScale_exponent (negative : Bool) (significand : Nat) (e : Int) (bytes : List UInt8) :
    scanScale negative significand e (101 :: bytes) = scanExponent negative significand e bytes :=
  rfl

theorem scanTail_exponent (negative : Bool) (significand : Nat) (bytes : List UInt8) :
    scanTail negative significand 0 (101 :: bytes) = scanExponent negative significand 0 bytes :=
  rfl

theorem isDigit_of_mem_bytes {cs : List Char} (hd : ∀ c ∈ cs, c.isDigit = true) :
    ∀ b ∈ cs.map byte, isDigit b = true := by
  intro b hb
  obtain ⟨c, hc, rfl⟩ := List.mem_map.1 hb
  exact isDigit_byte (hd c hc)

/-- Digits are absorbed as far as they fit, however they go on. -/
theorem absorb_fitting : ∀ (cs : List Char) (significand count : Nat), (∀ c ∈ cs, c.isDigit = true) →
    significand < significandLimit → ∃ (fitting taken : Nat) (left : List Char), fitting < significandLimit ∧
      (∀ c ∈ left, c.isDigit = true) ∧
      ∀ rest, Ends rest → absorb significand count (cs.map byte ++ rest) =
        ⟨fitting, count + taken, left.map byte ++ rest⟩
  | [], significand, count, _, hs => by
    refine ⟨significand, 0, [], hs, nofun, fun rest hr => ?_⟩
    cases rest with
    | nil => rfl
    | cons b rest =>
      rw [List.map_nil, List.nil_append, absorb, if_neg (by simp [hr b rfl])]
      rfl
  | c :: cs, significand, count, hd, hs => by
    by_cases hlt : significand * 10 + ((byte c).toNat - 48) < significandLimit
    · obtain ⟨fitting, taken, left, hf, hl, ha⟩ :=
        absorb_fitting cs _ (count + 1) (fun x hx => hd x (List.mem_cons_of_mem c hx)) hlt
      refine ⟨fitting, taken + 1, left, hf, hl, fun rest hr => ?_⟩
      have hdigit := isDigit_byte (hd c List.mem_cons_self)
      rw [List.map_cons, List.cons_append, absorb, if_pos (by simp [hdigit, hlt]), ha rest hr, Nat.add_assoc,
        Nat.add_comm 1]
    · refine ⟨significand, 0, c :: cs, hs, hd, fun rest _ => ?_⟩
      rw [List.map_cons, List.cons_append, absorb, if_neg (by simp [hlt])]
      rfl

/-- **A fraction is read as a double**, as it is scaled down. -/
theorem scanFraction_digits (negative : Bool) {cs : List Char} {significand : Nat} (hne : cs ≠ [])
    (hd : ∀ c ∈ cs, c.isDigit = true) (hs : significand < significandLimit) :
    ∃ y, ∀ rest, Apart rest → scanFraction negative significand 0 (cs.map byte ++ rest) = .ok (.real y, rest) := by
  obtain ⟨fitting, taken, left, hf, hl, ha⟩ := absorb_fitting cs significand 0 hd hs
  obtain ⟨x, hx⟩ := scale?_down 5 (ofInt fitting) (0 - (0 + taken : Nat)) (isDouble_ofInt hf) (by omega)
  refine ⟨if negative then x.neg else x, fun rest hr => Eq.trans ?_ (finished_of_scale negative hx rest)⟩
  have hleft : (left.map byte ++ rest).dropWhile isDigit = rest := by
    rw [List.dropWhile_append_of_pos (isDigit_of_mem_bytes hl), dropWhile_ends hr.ends]
  unfold scanFraction
  rw [ha rest hr.ends]
  dsimp only
  rw [hleft, scanScale_apart hr]
  cases cs with
  | nil => exact absurd rfl hne
  | cons c cs =>
    rw [List.map_cons, List.cons_append]
    dsimp only
    rw [if_pos (isDigit_byte (hd c List.mem_cons_self))]

theorem exponentDigits_digits {rest : List UInt8} (hr : Ends rest) : ∀ (cs : List Char) (n : Nat),
    (∀ c ∈ cs, c.isDigit = true) → Nat.ofDigitChars 10 cs n ≤ 400 →
      exponentDigits n (cs.map byte ++ rest) = (some (Nat.ofDigitChars 10 cs n : Int), rest)
  | [], n, _, _ => by
    rw [List.map_nil, List.nil_append, Nat.ofDigitChars_nil]
    cases rest with
    | nil => rfl
    | cons b rest =>
      rw [exponentDigits, if_neg (by simp [hr b rfl])]
  | c :: cs, n, hd, hl => by
    obtain ⟨hb, hc⟩ := toNat_byte (hd c List.mem_cons_self)
    rw [Nat.ofDigitChars_cons] at hl ⊢
    have hle := le_ofDigitChars cs (10 * n + (c.toNat - '0'.toNat))
    have hn : (n : Int) * 10 + ((byte c).toNat - 48 : Nat) = (10 * n + (c.toNat - '0'.toNat) : Nat) := by
      have h48 : '0'.toNat = 48 := rfl
      rw [hb, h48]
      omega
    have hlimit : ((10 * n + (c.toNat - '0'.toNat) : Nat) : Int) ≤ exponentLimit := by
      unfold exponentLimit
      omega
    rw [List.map_cons, List.cons_append, exponentDigits, if_pos (isDigit_byte (hd c List.mem_cons_self))]
    dsimp only
    rw [hn, if_pos hlimit]
    exact exponentDigits_digits hr cs _ (fun x hx => hd x (List.mem_cons_of_mem c hx)) hl

theorem scanExponent_sign (negative : Bool) (significand : Nat) (e : Int) (minus : Bool) {b : UInt8}
    (hb : isDigit b = true)
    (r : List UInt8) : scanExponent negative significand e ((if minus then 45 else 43) :: b :: r) =
      match exponentDigits (b.toNat - 48 : Nat) r with
      | (some x, rest) => finished negative significand (clampExponent (if minus then e - x else e + x)) rest
      | (none, rest) => beyondLimit negative minus significand rest := by
  cases minus
  · exact if_pos hb
  · exact if_pos hb

/-- **The exponent of a numeral**, with its sign. -/
theorem scanExponent_signed (negative : Bool) (significand : Nat) (e : Int) {p : Int} (hp : -400 ≤ p ∧ p ≤ 400)
    {rest : List UInt8} (hr : Ends rest) :
    scanExponent negative significand e ((signedExponent p).map byte ++ rest) =
      finished negative significand (clampExponent (e + p)) rest := by
  have hd : ∀ c ∈ Nat.toDigits 10 p.natAbs, c.isDigit = true := fun c hc =>
    Nat.isDigit_of_mem_toDigits (by decide) (by decide) hc
  have hv : Nat.ofDigitChars 10 (Nat.toDigits 10 p.natAbs) 0 = p.natAbs :=
    Nat.ofDigitChars_toDigits (by decide) (by decide)
  have hexp : (signedExponent p).map byte =
      (if decide (p < 0) then 45 else 43) :: (Nat.toDigits 10 p.natAbs).map byte := by
    unfold signedExponent
    rw [Nat.toList_repr, List.map_cons]
    by_cases hneg : p < 0
    · rw [if_pos hneg, decide_eq_true hneg]
      rfl
    · rw [if_neg hneg, decide_eq_false hneg]
      rfl
  cases hc : Nat.toDigits 10 p.natAbs with
  | nil => exact absurd hc Nat.toDigits_ne_nil
  | cons c cs =>
    rw [hc] at hd hv hexp
    obtain ⟨hb, -⟩ := toNat_byte (hd c List.mem_cons_self)
    have hdigit := isDigit_byte (hd c List.mem_cons_self)
    rw [Nat.ofDigitChars_cons, Nat.mul_zero, Nat.zero_add] at hv
    have hdigits := exponentDigits_digits hr cs (c.toNat - '0'.toNat) (fun x hx => hd x (List.mem_cons_of_mem c hx))
      (by omega)
    rw [hv] at hdigits
    have hfirst : (((byte c).toNat - 48 : Nat) : Int) = ((c.toNat - '0'.toNat : Nat) : Int) := by rw [hb]; rfl
    have he : (if decide (p < 0) = true then e - (p.natAbs : Int) else e + (p.natAbs : Int)) = e + p := by
      simp only [decide_eq_true_eq]
      split <;> omega
    rw [hexp, List.map_cons, List.cons_append, List.cons_append, scanExponent_sign _ _ _ _ hdigit, hfirst, hdigits]
    dsimp only
    rw [he]

/-! ## Numerals -/

/-- **Characters that are read as a double**, whatever comes after them. -/
structure ReadsReal (negative : Bool) (cs : List Char) : Prop where
  head : ∃ c more, cs = c :: more ∧ c.isDigit = true
  read : ∃ y, ∀ rest, Apart rest → scanUnsigned negative (cs.map byte ++ rest) = .ok (.real y, rest)

variable (negative : Bool)

theorem readsReal_zero {fraction : List Char} (hne : fraction ≠ []) (hd : ∀ c ∈ fraction, c.isDigit = true) :
    ReadsReal negative ('0' :: '.' :: fraction) := by
  have hs : 0 < significandLimit := by decide
  obtain ⟨y, hy⟩ := scanFraction_digits negative hne hd hs
  refine ⟨⟨_, _, rfl, by decide⟩, y, fun rest hr => ?_⟩
  have hz : byte '0' = 48 := by decide
  have hp : byte '.' = 46 := by decide
  rw [List.map_cons, List.map_cons, hz, hp, List.cons_append, List.cons_append, scanUnsigned, if_pos (by decide),
    if_neg (by simp [isDigit])]
  exact (scanTail_point _ _ _).trans (hy rest hr)

theorem readsReal_pointed {whole fraction : List Char} (hne : whole ≠ []) (hd : ∀ c ∈ whole, c.isDigit = true)
    (hh : whole.head? ≠ some '0') (hl : spelled whole < significandLimit) (hne' : fraction ≠ [])
    (hd' : ∀ c ∈ fraction, c.isDigit = true) : ReadsReal negative (whole ++ '.' :: fraction) := by
  obtain ⟨y, hy⟩ := scanFraction_digits negative hne' hd' hl
  refine ⟨?_, y, fun rest hr => ?_⟩
  · cases whole with
    | nil => exact absurd rfl hne
    | cons c whole => exact ⟨c, _, rfl, hd c List.mem_cons_self⟩
  · have hends : Ends (46 :: (fraction.map byte ++ rest)) := fun b hb => by cases hb; decide
    have hwhole := scanUnsigned_whole negative hne hd hh hl hends
    rw [List.map_append, List.map_cons, List.append_assoc, List.cons_append]
    exact hwhole.trans ((scanTail_point _ _ _).trans (hy rest hr))

theorem ends_exponent (bytes : List UInt8) : Ends (101 :: bytes) := by
  intro b hb
  cases hb
  decide

/-- A fraction with an exponent after it, where all of its digits fit. -/
theorem scanFraction_exponent {cs : List Char} {significand : Nat} (hne : cs ≠ []) (hd : ∀ c ∈ cs, c.isDigit = true)
    (hl : Nat.ofDigitChars 10 cs significand < significandLimit) (bytes : List UInt8) :
    scanFraction negative significand 0 (cs.map byte ++ 101 :: bytes) =
      scanExponent negative (Nat.ofDigitChars 10 cs significand) (0 - cs.length) bytes := by
  have ha := absorb_digits (ends_exponent bytes) cs significand 0 hd hl
  unfold scanFraction
  rw [ha, Nat.zero_add]
  dsimp only
  rw [dropWhile_ends (ends_exponent bytes)]
  cases cs with
  | nil => exact absurd rfl hne
  | cons c cs =>
    rw [List.map_cons, List.cons_append]
    dsimp only
    rw [if_pos (isDigit_byte (hd c List.mem_cons_self)), scanScale_exponent]

/-- **A numeral with an exponent** is its digits scaled by the power that is left when they are a whole number. -/
theorem scanUnsigned_scientific {digits : List Char} (hne : digits ≠ []) (hd : ∀ c ∈ digits, c.isDigit = true)
    (hh : digits.head? ≠ some '0') (hl : spelled digits < significandLimit) {p : Int} (hp : -400 ≤ p ∧ p ≤ 400)
    {rest : List UInt8} (hr : Apart rest) :
    scanUnsigned negative ((scientific digits p).map byte ++ rest) =
      finished negative (spelled digits) (clampExponent (p + 1 - digits.length)) rest := by
  have hexp := fun e => scanExponent_signed negative (spelled digits) e hp hr.ends
  cases digits with
  | nil => exact absurd rfl hne
  | cons d more =>
    have hfirst : ∀ x ∈ [d], x.isDigit = true := fun x hx => hd x (List.mem_singleton.1 hx ▸ List.mem_cons_self)
    have hmore : ∀ x ∈ more, x.isDigit = true := fun x hx => hd x (List.mem_cons_of_mem d hx)
    have hl' : spelled [d] < significandLimit := Nat.lt_of_le_of_lt (le_ofDigitChars more (spelled [d])) hl
    cases more with
    | nil =>
      have hsplit : (scientific [d] p).map byte ++ rest =
          [d].map byte ++ 101 :: ((signedExponent p).map byte ++ rest) := by
        simp [scientific, byte]
      rw [hsplit, scanUnsigned_whole negative hne hfirst hh hl' (ends_exponent _), scanTail_exponent, hexp 0,
        List.length_singleton]
      congr 2
      omega
    | cons c more =>
      have hsplit : (scientific (d :: c :: more) p).map byte ++ rest =
          [d].map byte ++ 46 :: ((c :: more).map byte ++ 101 :: ((signedExponent p).map byte ++ rest)) := by
        simp [scientific, byte]
      have hpoint : Ends (46 :: ((c :: more).map byte ++ 101 :: ((signedExponent p).map byte ++ rest))) :=
        fun b hb => by cases hb; decide
      have hfraction := scanFraction_exponent negative (List.cons_ne_nil c more) hmore hl
        ((signedExponent p).map byte ++ rest)
      rw [hsplit, scanUnsigned_whole negative (List.cons_ne_nil d []) hfirst hh hl' hpoint, scanTail_point]
      refine hfraction.trans ((hexp _).trans ?_)
      congr 2
      simp only [List.length_cons]
      omega

theorem ofDigitChars_lt : ∀ (cs : List Char) (n : Nat), (∀ c ∈ cs, c.isDigit = true) →
    Nat.ofDigitChars 10 cs n < (n + 1) * tenTo cs.length
  | [], n, _ => by
    rw [Nat.ofDigitChars_nil]
    exact Nat.lt_of_lt_of_le (Nat.lt_succ_self n) (Nat.le_of_eq (Nat.mul_one _).symm)
  | c :: cs, n, hd => by
    obtain ⟨-, hc⟩ := toNat_byte (hd c List.mem_cons_self)
    have h48 : '0'.toNat = 48 := rfl
    rw [Nat.ofDigitChars_cons, List.length_cons, Nat.add_comm cs.length, Binary64.tenTo_add, ← Nat.mul_assoc]
    refine Nat.lt_of_lt_of_le (ofDigitChars_lt cs _ fun x hx => hd x (List.mem_cons_of_mem c hx)) ?_
    refine Nat.mul_le_mul_right _ ?_
    show 10 * n + (c.toNat - '0'.toNat) + 1 ≤ (n + 1) * 10
    omega

theorem readsReal_withPoint {digits : List Char} (hne : digits ≠ []) (hd : ∀ c ∈ digits, c.isDigit = true)
    (hh : digits.head? ≠ some '0') {n : Nat} (hn : 0 < n) (hn16 : n ≤ 16) :
    ReadsReal negative (withPoint digits n) := by
  have hlimit : ∀ whole : List Char, (∀ c ∈ whole, c.isDigit = true) → whole.length ≤ 16 →
      spelled whole < significandLimit := by
    intro whole hw hlen
    calc spelled whole < (0 + 1) * tenTo whole.length := ofDigitChars_lt whole 0 hw
      _ = tenTo whole.length := by rw [Nat.zero_add, Nat.one_mul]
      _ ≤ tenTo 16 := Binary64.tenTo_le hlen
      _ ≤ significandLimit := by decide
  unfold withPoint
  by_cases hle : digits.length ≤ n
  · have hw : ∀ c ∈ digits ++ List.replicate (n - digits.length) '0', c.isDigit = true := by
      intro c hc
      rcases List.mem_append.1 hc with hc | hc
      · exact hd c hc
      · rw [List.eq_of_mem_replicate hc]
        decide
    rw [if_pos hle]
    refine readsReal_pointed negative (by simp [hne]) hw ?_ (hlimit _ hw ?_) (List.cons_ne_nil '0' [])
      (List.forall_mem_singleton.2 rfl)
    · cases digits with
      | nil => exact absurd rfl hne
      | cons c digits => exact hh
    · rw [List.length_append, List.length_replicate]
      omega
  · rw [if_neg hle]
    have hw : ∀ c ∈ digits.take n, c.isDigit = true := fun c hc => hd c (List.mem_of_mem_take hc)
    refine readsReal_pointed negative ?_ hw ?_ (hlimit _ hw ?_) ?_ fun c hc => hd c (List.mem_of_mem_drop hc)
    · simp only [ne_eq, List.take_eq_nil_iff, hne, or_false]
      omega
    · rw [List.head?_take, if_neg (by omega)]
      exact hh
    · rw [List.length_take]
      omega
    · simp only [ne_eq, List.drop_eq_nil_iff]
      exact hle

/-- **A numeral with an exponent is within range**: its digits fit the significand, and the exponent can be applied. -/
theorem scale?_written {u : Nat} (hu : 0 < u) (hr : Representable u) (hp : (shortest u).point ≠ 0) :
    spelled (shortest u).digits < significandLimit ∧ ∃ x, scale? 5 (ofInt (spelled (shortest u).digits))
      (clampExponent ((shortest u).point - (shortest u).digits.length)) = some x := by
  have hs := Binary64.shortest_spells hu hr.lt
  have hscale := fun e => scale?_shortest hu hr (e := e)
  generalize shortest u = d at hs hscale hp ⊢
  have hl : spelled d.digits < significandLimit := Nat.lt_of_le_of_lt (hs.small hp) (by decide)
  have hrange := hs.point
  refine ⟨hl, ?_⟩
  -- scaling down cannot fail; scaling up could, but for the digits being those of a double
  by_cases hup : d.point ≤ d.digits.length
  · refine scale?_down 5 _ _ (isDouble_ofInt hl) ?_
    unfold clampExponent exponentLimit
    omega
  · obtain ⟨e, he⟩ := Int.eq_ofNat_of_zero_le (a := d.point - d.digits.length) (by omega)
    have hclamp : clampExponent (d.point - d.digits.length) = (e : Int) := by
      unfold clampExponent exponentLimit
      omega
    rw [hclamp]
    exact hscale e (by omega)

/-- **The numeral of a double without its sign** is read as a double. -/
theorem readsReal_magnitude {u : Nat} (hr : Representable u) : ReadsReal negative (magnitude u) := by
  unfold magnitude
  by_cases hu : u = 0
  · rw [if_pos hu]
    exact readsReal_zero negative (List.cons_ne_nil '0' []) (List.forall_mem_singleton.2 rfl)
  rw [if_neg hu]
  have hs := Binary64.shortest_spells (Nat.pos_of_ne_zero hu) hr.lt
  have hscale := scale?_written (Nat.pos_of_ne_zero hu) hr
  dsimp only
  generalize shortest u = d at hs hscale ⊢
  by_cases hpos : positional d.point
  · have hrange : -4 ≤ d.point ∧ d.point ≤ 16 := by simpa [positional] using hpos
    rw [if_pos hpos]
    by_cases hpoint : 0 < d.point
    · rw [if_pos hpoint]
      exact readsReal_withPoint negative hs.nonempty hs.digits hs.head (by omega) (by omega)
    · rw [if_neg hpoint]
      refine readsReal_zero negative (by simp [hs.nonempty]) fun c hc => ?_
      rcases List.mem_append.1 hc with hc | hc
      · rw [List.eq_of_mem_replicate hc]
        decide
      · exact hs.digits c hc
  · rw [if_neg hpos]
    have hpoint : d.point ≠ 0 := by
      intro h
      rw [h] at hpos
      exact hpos rfl
    obtain ⟨hl, x, hx⟩ := hscale hpoint
    have hrange := hs.point
    refine ⟨?_, if negative then x.neg else x, fun rest hrest => ?_⟩
    · match hdigits : d.digits, hs.nonempty with
      | [c], _ => exact ⟨c, _, rfl, hs.digits c (hdigits ▸ List.mem_cons_self)⟩
      | c :: c' :: more, _ => exact ⟨c, _, rfl, hs.digits c (hdigits ▸ List.mem_cons_self)⟩
    · rw [scanUnsigned_scientific negative hs.nonempty hs.digits hs.head hl ⟨by omega, by omega⟩ hrest,
        Int.sub_add_cancel]
      exact finished_of_scale negative hx rest

/-- **A finite double is read as a double** from its numeral. -/
theorem scanNumeral_real {x : Binary64} (h : IsDouble x) : ∃ b bytes y, numeral (.real x) = b :: bytes ∧
    (b = 45 ∨ isDigit b = true) ∧ ∀ rest, Apart rest → scanNumeral (b :: bytes ++ rest) = .ok (.real y, rest) := by
  obtain ⟨negative, u, rfl, hu⟩ := h
  obtain ⟨⟨c, more, hc, hd⟩, y, hy⟩ := readsReal_magnitude negative hu
  have hnumeral : numeral (.real (.finite negative u)) =
      ((if negative then ['-'] else []) ++ magnitude u).map byte := by
    show (String.toList (String.ofList _)).map _ = _
    rw [String.toList_ofList]
    rfl
  rw [hc, List.map_cons] at hy
  cases negative with
  | true =>
    refine ⟨45, (magnitude u).map byte, y, hnumeral, .inl rfl, fun rest hr => ?_⟩
    rw [hc, List.map_cons]
    exact hy rest hr
  | false =>
    rw [hc] at hnumeral
    refine ⟨byte c, more.map byte, y, hnumeral, .inr (isDigit_byte hd), fun rest hr => ?_⟩
    rw [← hy rest hr]
    have hne : byte c ≠ 45 := by
      intro he
      have := isDigit_byte hd
      rw [he] at this
      cases this
    unfold scanNumeral
    split
    · rename_i heq
      exact absurd (List.cons.inj heq).1 hne
    · rfl

end Json
end TokenCache
