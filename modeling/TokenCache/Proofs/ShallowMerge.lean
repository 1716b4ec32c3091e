import TokenCache.Proofs.Expiry
import TokenCache.Proofs.Merging
/-!
# Merges are shallow

A merge is determined by what it takes from the reply and what it keeps of the record: the order of its keys, and under
each key the value of the one or the other (`MergeOf`).  Two keys are apart: a refresh token is always there, and an
expiry date that the reply implies stands over any that was stored.  The record that `merge` gives is of that kind, and
there is no other (`mergeOf_iff`).  All that a merge writes is then there, and so the same reply merged again changes
nothing (`merge_merge`).
-/
namespace TokenCache

namespace Members

/-- Members are the same if their keys are, in order, and each key has the same value. -/
theorem ext_of_keys : ∀ {ms ms' : Members}, ms.keys.Nodup → ms.keys = ms'.keys →
    (∀ key, ms.get? key = ms'.get? key) → ms = ms'
  | [], [], _, _, _ => rfl
  | [], _ :: _, _, hkeys, _ => nomatch hkeys
  | _ :: _, [], _, hkeys, _ => nomatch hkeys
  | (key, v) :: ms, (key', v') :: ms', hk, hkeys, hget => by
    obtain ⟨hm, hk⟩ : key ∉ Members.keys ms ∧ (Members.keys ms).Nodup := List.nodup_cons.1 hk
    obtain ⟨hkey, htail⟩ : key = key' ∧ Members.keys ms = Members.keys ms' := List.cons.inj hkeys
    subst hkey
    have hv := hget key
    rw [get?_cons, get?_cons, if_pos (beq_self_eq_true key), if_pos (beq_self_eq_true key)] at hv
    cases hv
    refine congrArg _ (ext_of_keys hk htail fun k => ?_)
    by_cases he : key = k
    · -- the first key does not come again
      have hm' : key ∉ Members.keys ms' := htail ▸ hm
      rw [← he, get?_eq_none.2 hm, get?_eq_none.2 hm']
    · have hr := hget k
      rwa [get?_cons, get?_cons, if_neg (by simpa using he), if_neg (by simpa using he)] at hr

theorem get?_of_mem {m : String × Json} : ∀ {ms : Members}, ms.keys.Nodup → m ∈ ms → ms.get? m.1 = some m.2
  | m' :: ms, hk, h => by
    obtain ⟨hm, hk⟩ := List.nodup_cons.1 hk
    rw [get?_cons]
    rcases List.mem_cons.1 h with rfl | h
    · simp
    · have hne : m'.1 ≠ m.1 := fun he => hm (he ▸ List.mem_map_of_mem h)
      rw [if_neg (by simpa using hne), get?_of_mem hk h]

/-- **A member written over itself** changes nothing. -/
theorem insert_of_get? {key : String} {v : Json} : ∀ {ms : Members}, ms.get? key = some v → insert key v ms = ms
  | m :: ms, h => by
    rw [get?_cons] at h
    unfold insert
    by_cases he : m.1 = key
    · subst he
      rw [if_pos (by simp)] at h ⊢
      cases h
      rfl
    · rw [if_neg (by simpa using he)] at h ⊢
      rw [insert_of_get? h]

end Members

namespace Record

/-! ## The keys of a merge -/

/-- The keys with one more at the end, unless it is there. -/
def withKey (key : String) (keys : List String) : List String :=
  if key ∈ keys then keys else keys ++ [key]

theorem mem_withKey {key k : String} {keys : List String} : k ∈ withKey key keys ↔ k ∈ keys ∨ k = key := by
  unfold withKey
  split
  · rename_i h
    exact ⟨.inl, fun hm => hm.elim id fun he => he ▸ h⟩
  · rw [List.mem_append, List.mem_singleton]

theorem keys_insert (r : Record) (key : String) (v : Json) :
    (r.insert key v).members.keys = withKey key r.members.keys :=
  Members.keys_insert key v r.members

/-- **The keys that were there come first**, and then the new ones, both in their order. -/
theorem keys_insertAll : ∀ {ms : Members} (r : Record), ms.keys.Nodup →
    (r.insertAll ms).members.keys = r.members.keys ++ ms.keys.filter (· ∉ r.members.keys)
  | [], r, _ => (List.append_nil _).symm
  | m :: ms, r, hk => by
    obtain ⟨hm, hk⟩ := List.nodup_cons.1 hk
    show ((r.insert m.1 m.2).insertAll ms).members.keys =
      r.members.keys ++ (m.1 :: Members.keys ms).filter (· ∉ r.members.keys)
    rw [keys_insertAll _ hk, keys_insert, withKey, List.filter_cons]
    by_cases hmem : m.1 ∈ r.members.keys
    · rw [if_pos hmem, if_neg (by simpa using hmem)]
    · rw [if_neg hmem, if_pos (by simpa using hmem), List.append_assoc, List.singleton_append]
      -- among the rest the new key is not found again
      refine congrArg (fun keys => _ ++ m.1 :: keys) (List.filter_congr fun key hkey => ?_)
      have hne : key ≠ m.1 := fun he => hm (he ▸ hkey)
      simp [hne]

theorem keys_retain (r : Record) (used : String) :
    (r.retain used).members.keys = withKey refreshTokenKey r.members.keys := by
  unfold retain
  cases h : r.refreshToken with
  | none => exact keys_insert r refreshTokenKey (.string used)
  | some token =>
    have hs : r.members.hasKey refreshTokenKey = true := Option.isSome_iff_exists.2 ⟨_, (usableIn_eq_some.1 h).1⟩
    exact (if_pos ((Members.hasKey_iff _ _).1 hs)).symm

/-- The record's keys and the new ones of a reply, then the refresh token. -/
def shallowKeys (r : Record) (reply : Members) : List String :=
  withKey refreshTokenKey (r.members.keys ++ (reduced reply).keys.filter (· ∉ r.members.keys))

theorem keys_overwrite_retain {reply : Members} (hk : reply.keys.Nodup) (r : Record) (used : String) :
    ((r.overwrite reply).retain used).members.keys = shallowKeys r reply := by
  rw [keys_retain, overwrite_eq, keys_insertAll r (nodup_keys_reduced hk)]
  rfl

/-! ## What a merge is -/

/-- **The merge of a reply over a record.**  The record's keys keep their places, the new ones of the reply follow, then
come the refresh token and an implied expiry date, if they are not there yet.  What the reply has is taken, what it does
not have is kept. -/
structure MergeOf (r : Record) (reply : Members) (used : String) (now : Int) (merged : Record) : Prop where
  keys_dated : ∀ instant, Implies reply now instant → merged.members.keys = withKey expiryKey (shallowKeys r reply)
  keys_undated : (∀ instant, ¬Implies reply now instant) → merged.members.keys = shallowKeys r reply
  taken : ∀ key ∈ (reduced reply).keys, merged.get? key = reply.get? key
  kept : ∀ key ∈ r.members.keys, key ∉ (reduced reply).keys → key ≠ refreshTokenKey →
    (∀ instant, key = expiryKey → ¬Implies reply now instant) → merged.get? key = r.get? key
  refreshToken : merged.get? refreshTokenKey =
    some (.string (((usableIn reply refreshTokenKey).or r.refreshToken).getD used))
  expiryDate : ∀ instant, Implies reply now instant → merged.get? expiryKey = some (.number (.integer instant))

theorem mem_shallowKeys {r : Record} {reply : Members} {key : String} :
    key ∈ shallowKeys r reply ↔ key ∈ r.members.keys ∨ key ∈ (reduced reply).keys ∨ key = refreshTokenKey := by
  unfold shallowKeys
  rw [mem_withKey, List.mem_append, List.mem_filter, decide_eq_true_eq]
  by_cases h : key ∈ r.members.keys <;> simp [h]

theorem mergeOf_merge (r : Record) {reply : Members} (hk : reply.keys.Nodup) (used : String) (now : Int) :
    MergeOf r reply used now (r.merge reply used now) where
  keys_dated instant hi := by
    rw [merge_dated (impliedExpiry_eq_some.2 hi), keys_insert, keys_overwrite_retain hk]
  keys_undated hi := by
    rw [merge_undated (impliedExpiry_eq_none.2 hi), keys_overwrite_retain hk]
  taken key hkey := by
    obtain ⟨v, hv⟩ := Option.isSome_iff_exists.1 ((Members.hasKey_iff _ _).2 hkey)
    by_cases ht : key = refreshTokenKey
    · subst ht
      rw [get?_reduced_refreshToken hk] at hv
      obtain ⟨token, ht, -⟩ := Option.map_eq_some_iff.1 hv
      rw [get?_merge_refreshToken hk, ht]
      exact (usableIn_eq_some.1 ht).1.symm
    · rw [get?_reduced_other ht hk] at hv
      by_cases hx : key = expiryKey
      · subst hx
        rw [get?_merge_expiry hk, impliedExpiry_of_sent hv, hv]
        rfl
      · rw [get?_merge ht hx hk, hv]
        rfl
  kept key _ hkey ht hx := by
    rw [← Members.get?_eq_none, get?_reduced_other ht hk] at hkey
    by_cases he : key = expiryKey
    · subst he
      rw [get?_merge_expiry hk, impliedExpiry_eq_none.2 fun instant => hx instant rfl, hkey]
      rfl
    · rw [get?_merge ht he hk, hkey, Option.none_or]
  refreshToken := get?_merge_refreshToken hk r used now
  expiryDate instant hi := by
    rw [get?_merge_expiry hk, impliedExpiry_eq_some.2 hi]
    rfl

namespace MergeOf

variable {r : Record} {reply : Members} {used : String} {now : Int} {merged merged' : Record}

theorem keys (h : MergeOf r reply used now merged) : merged.members.keys =
    match impliedExpiry reply now with
    | some _ => withKey expiryKey (shallowKeys r reply)
    | none => shallowKeys r reply := by
  cases hi : impliedExpiry reply now with
  | some instant => exact h.keys_dated instant (impliedExpiry_eq_some.1 hi)
  | none => exact h.keys_undated (impliedExpiry_eq_none.1 hi)

/-- A merge has its keys from the record, from the reply, or for its refresh token or expiry date. -/
theorem mem_keys (h : MergeOf r reply used now merged) {key : String} (hm : key ∈ merged.members.keys) :
    key ∈ r.members.keys ∨ key ∈ (reduced reply).keys ∨ key = refreshTokenKey ∨
      ∃ instant, key = expiryKey ∧ Implies reply now instant := by
  rw [h.keys] at hm
  cases hi : impliedExpiry reply now with
  | some instant =>
    rw [hi] at hm
    rcases mem_withKey.1 hm with hs | rfl
    · rcases mem_shallowKeys.1 hs with hr | hp | ht
      · exact .inl hr
      · exact .inr (.inl hp)
      · exact .inr (.inr (.inl ht))
    · exact .inr (.inr (.inr ⟨instant, rfl, impliedExpiry_eq_some.1 hi⟩))
  | none =>
    rw [hi] at hm
    rcases mem_shallowKeys.1 hm with hr | hp | ht
    · exact .inl hr
    · exact .inr (.inl hp)
    · exact .inr (.inr (.inl ht))

/-- **There is one merge only**: its keys are known in order, and each is from the record or from the reply, or is one
of the two keys apart. -/
theorem unique (h : MergeOf r reply used now merged) (h' : MergeOf r reply used now merged')
    (hk : merged.members.keys.Nodup) : merged = merged' := by
  have hkeys : merged.members.keys = merged'.members.keys := h.keys.trans h'.keys.symm
  refine congrArg Record.mk (Members.ext_of_keys hk hkeys fun key => ?_)
  show merged.get? key = merged'.get? key
  by_cases ht : key = refreshTokenKey
  · rw [ht, h.refreshToken, h'.refreshToken]
  by_cases hdated : ∃ instant, key = expiryKey ∧ Implies reply now instant
  · obtain ⟨instant, rfl, hi⟩ := hdated
    rw [h.expiryDate instant hi, h'.expiryDate instant hi]
  by_cases hreply : key ∈ (reduced reply).keys
  · rw [h.taken key hreply, h'.taken key hreply]
  by_cases hrecord : key ∈ r.members.keys
  · have hx : ∀ instant, key = expiryKey → ¬Implies reply now instant :=
      fun instant he hi => hdated ⟨instant, he, hi⟩
    rw [h.kept key hrecord hreply ht hx, h'.kept key hrecord hreply ht hx]
  · have hn : key ∉ merged.members.keys := fun hm =>
      (h.mem_keys hm).elim hrecord fun hm => hm.elim hreply fun hm => hm.elim ht hdated
    have hn' : key ∉ merged'.members.keys := hkeys ▸ hn
    exact (Members.get?_eq_none.2 hn).trans (Members.get?_eq_none.2 hn').symm

end MergeOf

/-- **A merge is shallow**: over a record and a reply whose keys come once, `merge` gives the one record that has its
keys in this order and under each key this value. -/
theorem mergeOf_iff {r : Record} {reply : Members} (hr : r.members.keys.Nodup) (hk : reply.keys.Nodup) (used : String)
    (now : Int) (merged : Record) : MergeOf r reply used now merged ↔ merged = r.merge reply used now := by
  have hm := mergeOf_merge r hk used now
  have hnodup : (r.merge reply used now).members.keys.Nodup :=
    (merge_members (Q := fun _ => True) hr (fun _ _ => trivial) (fun _ _ => trivial) (fun _ => trivial)
      (fun _ _ => trivial) used now).1
  constructor
  · exact fun h => (hm.unique h hnodup).symm
  · rintro rfl
    exact hm

/-- A blank refresh token and a stored expiry give way, and a key that both have keeps its place. -/
theorem merge_over_blank_token :
    let r : Record := ⟨[("zeta", .number (.integer 1)), ("refresh_token", .string " "), ("expiry_date", .string "5")]⟩
    let reply : Members := [("refresh_token", .null), ("access_token", .string "t"),
      ("expires_in", .number (.integer 3600)), ("zeta", .string "z")]
    let merged : Record := ⟨[("zeta", .string "z"), ("refresh_token", .string "u"),
      ("expiry_date", .number (.integer 1700003600000)), ("access_token", .string "t"),
      ("expires_in", .number (.integer 3600))]⟩
    r.members.keys.Nodup ∧ reply.keys.Nodup ∧ MergeOf r reply "u" 1700000000000 merged := by
  intro r reply merged
  have hr : r.members.keys.Nodup := by decide
  have hk : reply.keys.Nodup := by decide
  have hi : impliedExpiry reply 1700000000000 = some 1700003600000 := by decide +kernel
  refine ⟨hr, hk, (mergeOf_iff hr hk "u" 1700000000000 merged).2 ?_⟩
  rw [merge_dated hi]
  rfl

/-! ## Merging again -/

/-- **What a merge of the reply would write is there**: the members that are taken over, some usable refresh token, and
the expiry date that the reply implies. -/
structure Settled (r : Record) (reply : Members) (now : Int) : Prop where
  taken : ∀ m ∈ reduced reply, r.get? m.1 = some m.2
  refreshToken : ∃ token, r.refreshToken = some token
  expiryDate : ∀ instant, Implies reply now instant → r.get? expiryKey = some (.number (.integer instant))

theorem insert_of_get? {r : Record} {key : String} {v : Json} (h : r.get? key = some v) : r.insert key v = r :=
  congrArg Record.mk (Members.insert_of_get? h)

theorem insertAll_of_get? {r : Record} : ∀ {ms : Members}, (∀ m ∈ ms, r.get? m.1 = some m.2) → r.insertAll ms = r
  | [], _ => rfl
  | m :: ms, h => by
    show (r.insert m.1 m.2).insertAll ms = r
    rw [insert_of_get? (h m List.mem_cons_self)]
    exact insertAll_of_get? fun m' hm => h m' (List.mem_cons_of_mem m hm)

/-- **A merge into a record where all is there changes nothing**, whatever refresh token was used. -/
theorem Settled.merge {r : Record} {reply : Members} {now : Int} (h : Settled r reply now) (used : String) :
    r.merge reply used now = r := by
  have hretain : (r.overwrite reply).retain used = r := by
    obtain ⟨token, ht⟩ := h.refreshToken
    rw [overwrite_eq, insertAll_of_get? h.taken]
    simp [retain, ht]
  cases hi : impliedExpiry reply now with
  | none => rw [merge_undated hi, hretain]
  | some instant => rw [merge_dated hi, hretain, insert_of_get? (h.expiryDate instant (impliedExpiry_eq_some.1 hi))]

theorem settled_merge (r : Record) {reply : Members} {used : String} (hk : reply.keys.Nodup)
    (hu : Text.blank used = false) (now : Int) : Settled (r.merge reply used now) reply now where
  taken m hm := by
    have hkey : m.1 ∈ (reduced reply).keys := List.mem_map_of_mem hm
    rw [(mergeOf_merge r hk used now).taken m.1 hkey]
    exact Members.get?_of_mem hk (List.mem_filter.1 hm).1
  refreshToken := by
    refine ⟨_, usableIn_eq_some.2 ⟨get?_merge_refreshToken hk r used now, ?_⟩⟩
    -- the token written is a usable one of the reply or of the record, or the one used
    cases hs : usableIn reply refreshTokenKey with
    | some sent => exact (usableIn_eq_some.1 hs).2
    | none =>
      cases ht : r.refreshToken with
      | some stored => exact (usableIn_eq_some.1 ht).2
      | none => exact hu
  expiryDate := (mergeOf_merge r hk used now).expiryDate

/-- **Merging a reply is idempotent**: merged again at the same instant, with whatever refresh token, it changes neither
a value nor the order of the keys. -/
theorem merge_merge (r : Record) {reply : Members} {used : String} (hk : reply.keys.Nodup)
    (hu : Text.blank used = false) (used' : String) (now : Int) :
    (r.merge reply used now).merge reply used' now = r.merge reply used now :=
  (settled_merge r hk hu now).merge used'

/-- A refresh token and an expiry date that the first merge had to make up are found by the second. -/
theorem merge_merge_over_blank :
    let r : Record := ⟨[("zeta", .null), ("refresh_token", .string " "), ("expiry_date", .bool true)]⟩
    let reply : Members := [("refresh_token", .null), ("access_token", .string "t"), ("expires_in", .string " 3600 "),
      ("zeta", .string "z")]
    let merged : Record := ⟨[("zeta", .string "z"), ("refresh_token", .string "u"),
      ("expiry_date", .number (.integer 1700003600000)), ("access_token", .string "t"),
      ("expires_in", .string " 3600 ")]⟩
    reply.keys.Nodup ∧ Text.blank "u" = false ∧ r.merge reply "u" 1700000000000 = merged ∧
      merged.merge reply "" 1700000000000 = merged := by
  intro r reply merged
  have hk : reply.keys.Nodup := by decide
  have hu : Text.blank "u" = false := by decide +kernel
  have hi : impliedExpiry reply 1700000000000 = some 1700003600000 := by decide +kernel
  have hm : r.merge reply "u" 1700000000000 = merged := by
    rw [merge_dated hi]
    rfl
  have hagain := merge_merge r hk hu "" 1700000000000
  rw [hm] at hagain
  exact ⟨hk, hu, hm, hagain⟩

end Record
end TokenCache
