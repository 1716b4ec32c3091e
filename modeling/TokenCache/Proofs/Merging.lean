import TokenCache.Proofs.Json.RoundTrip
import TokenCache.Record
/-!
# Merged records

A record that a text gives is read again from its bytes (`parse_bytes_reread`), and without doubles it is read back as
it was (`parse_bytes`).  A merge of such a reply keeps it so (`Proper.merge`, `Storable.merge`), loses no key
(`keys_merge`), and leaves the reply's usable refresh token, or else the one that was there (`refreshToken_merge`).

A merge writes the members of the reply that are taken over, one after the other (`overwrite_eq`), and so what is found
in it is known for each key (`get?_merge`, `get?_merge_refreshToken`, `get?_merge_expiry`).
-/
namespace TokenCache
namespace Record

/-- **Members that a text gives**, without doubles. -/
structure Storable (members : Members) : Prop where
  fits : Json.Fits Json.depthLimit (.object members)
  whole : Json.Whole (.object members)

structure StorableValue (v : Json) : Prop where
  fits : v.Fits 126
  whole : v.Whole

theorem storable_iff {members : Members} :
    Storable members ↔ members.keys.Nodup ∧ ∀ m ∈ members, StorableValue m.2 := by
  constructor
  · rintro ⟨hf, hw⟩
    cases hf with
    | object hk hf =>
      cases hw with
      | object hw => exact ⟨hk, fun m hm => ⟨hf m hm, hw m hm⟩⟩
  · rintro ⟨hk, h⟩
    exact ⟨.object hk fun m hm => (h m hm).fits, .object fun m hm => (h m hm).whole⟩

theorem parse_eq_ok {bytes : List UInt8} {r : Record} :
    parse bytes = .ok r ↔ Json.parse bytes = .ok (.object r.members) := by
  unfold parse
  cases Json.parse bytes with
  | error e => simp
  | ok v =>
    cases v with
    | object members =>
      constructor
      · rintro ⟨⟩
        rfl
      · rintro ⟨⟩
        rfl
    | _ => simp

/-- **Records that a text gives.** -/
def Proper (r : Record) : Prop :=
  Json.Proper Json.depthLimit (.object r.members)

theorem proper_iff {r : Record} : Proper r ↔ r.members.keys.Nodup ∧ ∀ m ∈ r.members, m.2.Proper 126 := by
  constructor
  · intro h
    cases h with
    | object hk h => exact ⟨hk, h⟩
  · rintro ⟨hk, h⟩
    exact .object hk h

theorem proper_of_parse {bytes : List UInt8} {r : Record} (h : parse bytes = .ok r) : Proper r :=
  Json.parse_proper (parse_eq_ok.1 h)

/-- A record with each number as its numeral is read. -/
def reread (r : Record) : Record :=
  ⟨Json.rereadMembers r.members⟩

/-- **A record is read again from its bytes.** -/
theorem parse_bytes_reread {r : Record} (h : Proper r) : parse r.bytes = .ok r.reread :=
  parse_eq_ok.2 (Json.parse_pretty_reread h)

theorem get?_reread (r : Record) (key : String) : r.reread.get? key = (r.get? key).map Json.reread :=
  Json.get?_rereadMembers key r.members

theorem stringField_reread (r : Record) (key : String) : r.reread.stringField key = r.stringField key := by
  have hv : ∀ v : Json, usable? v.reread = usable? v := by
    intro v
    cases v <;> rfl
  show (r.reread.get? key).bind usable? = (r.get? key).bind usable?
  rw [get?_reread]
  cases r.get? key with
  | none => rfl
  | some v => exact hv v

theorem reread_of_storable {r : Record} (h : Storable r.members) : r.reread = r := by
  have he : Json.object (Json.rereadMembers r.members) = .object r.members := (Json.reread_whole h.fits h.whole).2
  exact congrArg Record.mk (Json.object.inj he)

/-- **A record is read back from its bytes.** -/
theorem parse_bytes {r : Record} (h : Storable r.members) : parse r.bytes = .ok r :=
  parse_eq_ok.2 (Json.parse_pretty h.fits h.whole)

theorem storable_of_parse {bytes : List UInt8} {members : Members} (h : Json.parse bytes = .ok (.object members))
    (hw : Json.Whole (.object members)) : Storable members :=
  ⟨Json.parse_fits h, hw⟩

/-- An expiry date without doubles is read again as it was. -/
theorem expiryDate_reread {bytes : List UInt8} {r : Record} (h : parse bytes = .ok r)
    (hw : ∀ v, r.get? expiryKey = some v → v.Whole) : r.reread.expiryDate = r.expiryDate := by
  show (r.reread.get? expiryKey).bind quantity? = (r.get? expiryKey).bind quantity?
  rw [get?_reread]
  cases hv : r.get? expiryKey with
  | none => rfl
  | some v => rw [Option.map_some, Json.reread_member (parse_eq_ok.1 h) hv (hw v hv)]

/-! ## What a merge keeps -/

/-- **What inserting a member keeps, merging a reply keeps**: a merge inserts members of the reply, a refresh token and
an expiry that 64 bits hold. -/
theorem merge_induction {P : Record → Prop} {r : Record} {reply : Members} (used : String) (now : Int) (h : P r)
    (hr : ∀ r, P r → ∀ m ∈ reply, P (r.insert m.1 m.2)) (ht : ∀ r, P r → P (r.insert refreshTokenKey (.string used)))
    (he : ∀ r n, P r → Binary64.fits64 n = true → P (r.insert expiryKey (.number (.integer n)))) :
    P (r.merge reply used now) := by
  have ho : ∀ (ms : Members) (r : Record), (∀ m ∈ ms, m ∈ reply) → P r → P (r.overwrite ms) := by
    intro ms
    induction ms with
    | nil => exact fun _ _ h => h
    | cons m ms ih =>
      intro r hm h
      refine ih _ (fun x hx => hm x (List.mem_cons_of_mem m hx)) ?_
      dsimp only
      split
      · exact hr r h m (hm m List.mem_cons_self)
      · exact h
  have hretain : P ((r.overwrite reply).retain used) := by
    unfold retain
    split
    · exact ho reply r (fun _ h => h) h
    · exact ht _ (ho reply r (fun _ h => h) h)
  unfold merge
  dsimp only
  split
  · rename_i instant hi
    refine he _ instant hretain ?_
    unfold impliedExpiry at hi
    split at hi
    · cases hi
    · obtain ⟨lifetime, -, hl⟩ := Option.bind_eq_some_iff.1 hi
      unfold expiryAfter at hl
      split at hl
      · dsimp only at hl
        split at hl
        · rename_i hfit
          cases hl
          simp only [Bool.and_eq_true] at hfit
          exact hfit.2
        · cases hl
      · cases hl
  · exact hretain

/-- **What all values of a record and a reply have, those of their merge have**, if strings and whole numbers of 64 bits
have it. -/
theorem merge_members {Q : Json → Prop} {r : Record} {reply : Members} (hk : r.members.keys.Nodup)
    (h : ∀ m ∈ r.members, Q m.2) (hr : ∀ m ∈ reply, Q m.2) (hs : ∀ s, Q (.string s))
    (hn : ∀ n, (Number.integer n).Proper → Q (.number (.integer n))) (used : String) (now : Int) :
    (r.merge reply used now).members.keys.Nodup ∧ ∀ m ∈ (r.merge reply used now).members, Q m.2 := by
  have hinsert : ∀ (r : Record) (key : String) (v : Json), (r.members.keys.Nodup ∧ ∀ m ∈ r.members, Q m.2) → Q v →
      (r.insert key v).members.keys.Nodup ∧ ∀ m ∈ (r.insert key v).members, Q m.2 := by
    intro r key v ⟨hk, hm⟩ hv
    refine ⟨Members.nodup_keys_insert key v hk, fun m hmem => ?_⟩
    rcases Members.mem_insert hmem with rfl | hmem
    · exact hv
    · exact hm m hmem
  refine merge_induction (P := fun r => r.members.keys.Nodup ∧ ∀ m ∈ r.members, Q m.2) used now ⟨hk, h⟩
    (fun r h m hm => hinsert r _ _ h (hr m hm)) (fun r h => hinsert r _ _ h (hs used)) fun r n h hfits => ?_
  refine hinsert r _ _ h (hn n ?_)
  simp only [Binary64.fits64, Bool.and_eq_true, decide_eq_true_eq] at hfits
  have hlow : -(9223372036854775808 : Int) ≤ n := hfits.1
  have hhigh : n < (9223372036854775808 : Int) := hfits.2
  exact ⟨by omega, by omega⟩

/-- **A merge can be stored** if the record and the reply can. -/
theorem Storable.merge {r : Record} {reply : Members} (h : Storable r.members) (hr : Storable reply) (used : String)
    (now : Int) : Storable (r.merge reply used now).members := by
  obtain ⟨hk, hm⟩ := storable_iff.1 h
  exact storable_iff.2 (merge_members hk hm (storable_iff.1 hr).2 (fun s => ⟨.string s, .string s⟩)
    (fun n hn => ⟨.number hn, .integer n⟩) used now)

theorem Proper.merge {r : Record} {reply : Members} (h : Proper r) (hr : Proper ⟨reply⟩) (used : String) (now : Int) :
    Proper (r.merge reply used now) := by
  obtain ⟨hk, hm⟩ := proper_iff.1 h
  exact proper_iff.2 (merge_members hk hm (proper_iff.1 hr).2 (fun s => .string s) (fun n hn => .number hn) used now)

theorem keys_insert_extends (r : Record) (key : String) (v : Json) :
    r.members.keys <+: (r.insert key v).members.keys := by
  show _ <+: Members.keys (Members.insert key v r.members)
  rw [Members.keys_insert]
  split
  · exact List.prefix_rfl
  · exact List.prefix_append _ _

/-- **A merge loses no key** and keeps their order. -/
theorem keys_merge (r : Record) (reply : Members) (used : String) (now : Int) :
    r.members.keys <+: (r.merge reply used now).members.keys :=
  merge_induction (P := fun r' => r.members.keys <+: r'.members.keys) used now List.prefix_rfl
    (fun r' h _ _ => h.trans (keys_insert_extends r' _ _)) (fun r' h => h.trans (keys_insert_extends r' _ _))
    fun r' _ h _ => h.trans (keys_insert_extends r' _ _)

/-! ## What a merge writes -/

/-- The members of a reply that are taken over. -/
def reduced (reply : Members) : Members :=
  reply.filter fun m => accepts m.1 m.2

theorem nodup_keys_reduced {reply : Members} (hk : reply.keys.Nodup) : (reduced reply).keys.Nodup :=
  hk.sublist (List.filter_sublist.map Prod.fst)

theorem get?_reduced (key : String) : ∀ {reply : Members}, reply.keys.Nodup →
    (reduced reply).get? key = (reply.get? key).filter (accepts key)
  | [], _ => rfl
  | m :: reply, hk => by
    obtain ⟨hm, hk⟩ := List.nodup_cons.1 hk
    have ih := get?_reduced key hk
    unfold reduced at ih ⊢
    rw [List.filter_cons, Members.get?_cons]
    by_cases he : m.1 = key
    · subst he
      -- keys come once, so a member that is left out has no other in its place
      rw [Members.get?_eq_none.2 hm] at ih
      rw [if_pos (beq_self_eq_true m.1), Option.filter_some]
      split
      · rw [Members.get?_cons, if_pos (beq_self_eq_true m.1)]
      · exact ih
    · rw [if_neg (c := (m.1 == key) = true) (by simpa using he), ← ih]
      split
      · rw [Members.get?_cons, if_neg (by simpa using he)]
      · rfl

theorem get?_reduced_other {key : String} (hkey : key ≠ refreshTokenKey) {reply : Members} (hk : reply.keys.Nodup) :
    (reduced reply).get? key = reply.get? key := by
  rw [get?_reduced key hk]
  cases reply.get? key with
  | none => rfl
  | some v => exact Option.filter_some_pos (by simp [accepts, hkey])

theorem get?_reduced_refreshToken {reply : Members} (hk : reply.keys.Nodup) :
    (reduced reply).get? refreshTokenKey = (usableIn reply refreshTokenKey).map .string := by
  unfold usableIn
  rw [get?_reduced _ hk]
  cases reply.get? refreshTokenKey with
  | none => rfl
  | some v =>
    have ha : accepts refreshTokenKey v = (usable? v).isSome := by simp [accepts]
    rw [Option.filter_some, ha, Option.bind_some]
    cases hu : usable? v with
    | none => rfl
    | some token =>
      rw [(usable?_eq_some.1 hu).1]
      rfl

/-- Writes all of these members. -/
def insertAll (r : Record) (ms : Members) : Record :=
  ms.foldl (fun r m => r.insert m.1 m.2) r

theorem overwrite_eq (r : Record) (reply : Members) : r.overwrite reply = r.insertAll (reduced reply) :=
  List.foldl_filter.symm

/-- **The members written are found**, and else those that were there. -/
theorem get?_insertAll (key : String) : ∀ {ms : Members} (r : Record), ms.keys.Nodup →
    (r.insertAll ms).get? key = (ms.get? key).or (r.get? key)
  | [], _, _ => rfl
  | m :: ms, r, hk => by
    obtain ⟨hm, hk⟩ := List.nodup_cons.1 hk
    show ((r.insert m.1 m.2).insertAll ms).get? key = _
    rw [get?_insertAll key _ hk, get?_insert, Members.get?_cons]
    by_cases he : m.1 = key
    · subst he
      rw [Members.get?_eq_none.2 hm, if_pos (beq_self_eq_true m.1), if_pos (beq_self_eq_true m.1)]
      rfl
    · rw [if_neg (by simpa using he), if_neg (by simpa using he)]

theorem get?_overwrite {key : String} (hkey : key ≠ refreshTokenKey) {reply : Members} (r : Record)
    (hk : reply.keys.Nodup) : (r.overwrite reply).get? key = (reply.get? key).or (r.get? key) := by
  rw [overwrite_eq, get?_insertAll key r (nodup_keys_reduced hk), get?_reduced_other hkey hk]

theorem refreshToken_overwrite {reply : Members} (r : Record) (hk : reply.keys.Nodup) :
    (r.overwrite reply).refreshToken = (usableIn reply refreshTokenKey).or r.refreshToken := by
  show ((r.overwrite reply).get? refreshTokenKey).bind usable? = _
  rw [overwrite_eq, get?_insertAll _ r (nodup_keys_reduced hk), get?_reduced_refreshToken hk]
  cases hu : usableIn reply refreshTokenKey with
  | none => rfl
  | some token => exact usable?_eq_some.2 ⟨rfl, (usableIn_eq_some.1 hu).2⟩

theorem get?_retain {key : String} (hkey : key ≠ refreshTokenKey) (r : Record) (used : String) :
    (r.retain used).get? key = r.get? key := by
  unfold retain
  split
  · rfl
  · rw [get?_insert, if_neg (by simpa using Ne.symm hkey)]

theorem get?_retain_refreshToken (r : Record) (used : String) :
    (r.retain used).get? refreshTokenKey = some (.string (r.refreshToken.getD used)) := by
  unfold retain
  cases h : r.refreshToken with
  | some token => exact (usableIn_eq_some.1 h).1
  | none =>
    rw [Option.isSome_none, if_neg Bool.false_ne_true, get?_insert, if_pos (beq_self_eq_true refreshTokenKey)]
    rfl

theorem merge_dated {reply : Members} {now instant : Int} (h : impliedExpiry reply now = some instant) (r : Record)
    (used : String) :
    r.merge reply used now = ((r.overwrite reply).retain used).insert expiryKey (.number (.integer instant)) := by
  unfold merge
  rw [h]

theorem impliedExpiry_of_sent {reply : Members} {sent : Json} (h : reply.get? expiryKey = some sent) (now : Int) :
    impliedExpiry reply now = none := by
  unfold impliedExpiry Members.hasKey
  rw [h]
  rfl

theorem merge_undated {reply : Members} {now : Int} (h : impliedExpiry reply now = none) (r : Record) (used : String) :
    r.merge reply used now = (r.overwrite reply).retain used := by
  unfold merge
  rw [h]

/-! ## The members of a merge -/

theorem get?_merge_other {key : String} (hx : key ≠ expiryKey) (r : Record) (reply : Members) (used : String)
    (now : Int) : (r.merge reply used now).get? key = ((r.overwrite reply).retain used).get? key := by
  cases hi : impliedExpiry reply now with
  | none => rw [merge_undated hi]
  | some instant => rw [merge_dated hi, get?_insert, if_neg (by simpa using Ne.symm hx)]

/-- **A member of the reply is taken over**, and one that it does not have is kept. -/
theorem get?_merge {key : String} (hkey : key ≠ refreshTokenKey) (hx : key ≠ expiryKey) {reply : Members}
    (hk : reply.keys.Nodup) (r : Record) (used : String) (now : Int) :
    (r.merge reply used now).get? key = (reply.get? key).or (r.get? key) := by
  rw [get?_merge_other hx, get?_retain hkey, get?_overwrite hkey r hk]

/-- **A merge always has a refresh token**: the reply's usable one, the one that was there, or the one that was used. -/
theorem get?_merge_refreshToken {reply : Members} (hk : reply.keys.Nodup) (r : Record) (used : String) (now : Int) :
    (r.merge reply used now).get? refreshTokenKey =
      some (.string (((usableIn reply refreshTokenKey).or r.refreshToken).getD used)) := by
  rw [get?_merge_other (by decide), get?_retain_refreshToken, refreshToken_overwrite r hk]

/-- **The expiry date of a merge** is the one that the reply implies, or its own, or the one that was there. -/
theorem get?_merge_expiry {reply : Members} (hk : reply.keys.Nodup) (r : Record) (used : String) (now : Int) :
    (r.merge reply used now).get? expiryKey =
      ((impliedExpiry reply now).map fun n => .number (.integer n)).or
        ((reply.get? expiryKey).or (r.get? expiryKey)) := by
  cases hi : impliedExpiry reply now with
  | none =>
    rw [merge_undated hi, get?_retain (by decide), get?_overwrite (by decide) r hk, Option.map_none, Option.none_or]
  | some instant =>
    rw [merge_dated hi, get?_insert, if_pos (beq_self_eq_true expiryKey)]
    rfl

/-- **A merge leaves the reply's usable refresh token**, or else the one that was there. -/
theorem refreshToken_merge {r : Record} {reply : Members} {token : String} (h : r.refreshToken = some token)
    (hk : reply.keys.Nodup) (used : String) (now : Int) :
    (r.merge reply used now).refreshToken = some ((usableIn reply refreshTokenKey).getD token) := by
  have hm := get?_merge_refreshToken hk r used now
  refine usableIn_eq_some.2 ⟨hm.trans ?_, ?_⟩
  · rw [h]
    cases usableIn reply refreshTokenKey <;> rfl
  · cases hu : usableIn reply refreshTokenKey with
    | none => exact (usableIn_eq_some.1 h).2
    | some sent => exact (usableIn_eq_some.1 hu).2

theorem accessToken_merge {reply : Members} {token : String} (h : usableIn reply accessTokenKey = some token)
    (hk : reply.keys.Nodup) (r : Record) (used : String) (now : Int) :
    (r.merge reply used now).accessToken = some token := by
  obtain ⟨v, hv, hu⟩ := Option.bind_eq_some_iff.1 h
  show ((r.merge reply used now).get? accessTokenKey).bind usable? = _
  rw [get?_merge (by decide) (by decide) hk, hv]
  exact hu

theorem expiryDate_of_get? {r : Record} {v : Json} (h : r.get? expiryKey = some v) : r.expiryDate = quantity? v := by
  unfold expiryDate
  rw [h, Option.bind_some]

theorem expiryDate_merge {reply : Members} {now instant : Int} (h : impliedExpiry reply now = some instant) (r : Record)
    (used : String) : (r.merge reply used now).expiryDate = some (Binary64.ofInt instant) := by
  have hg : (r.merge reply used now).get? expiryKey = some (.number (.integer instant)) := by
    rw [merge_dated h, get?_insert, if_pos (beq_self_eq_true expiryKey)]
  exact expiryDate_of_get? hg

/-- An expiry date that the reply has is kept as sent. -/
theorem expiryDate_merge_sent {reply : Members} {sent : Json} (hk : reply.keys.Nodup)
    (h : reply.get? expiryKey = some sent) (r : Record) (used : String) (now : Int) :
    (r.merge reply used now).expiryDate = quantity? sent := by
  have hg : (r.merge reply used now).get? expiryKey = some sent := by
    rw [get?_merge_expiry hk, impliedExpiry_of_sent h, h]
    rfl
  exact expiryDate_of_get? hg

end Record
end TokenCache
